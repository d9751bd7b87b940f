import NativeBoundary.Main
import NativeBoundary.Proofs.Action.Results
import NativeBoundary.Proofs.CommandLine.Grid
import NativeBoundary.Proofs.Json.Numeral

/-!
# What a command answers

A report depends on no file but those that the command names. When the names of an interface are
verbatim texts, an inspection prints its headings, its counts and a table with one line for each
foreign function, all of them as they are; the checksum of an interface is printed as it is unless
its namespace moves the cursor.
-/

namespace NativeBoundary.CommandLine

section Reading

variable {source other : FileSource}

theorem loadDocument_congr {path : Path} (agree : source path = other path) :
    loadDocument source path = loadDocument other path := by
  simp only [loadDocument, agree]

theorem loadMetadata_congr {paths : List Path} (agree : ∀ path ∈ paths, source path = other path) :
    loadMetadata source paths = loadMetadata other paths := by
  induction paths with
  | nil => rfl
  | cons path rest ih =>
      obtain ⟨here, others⟩ := List.forall_mem_cons.mp agree
      simp only [loadMetadata, here, ih others]

theorem settings_load_congr {path : Option Path} (agree : ∀ name ∈ path, source name = other name) :
    Settings.load source path = Settings.load other path := by
  cases path with
  | none => rfl
  | some name => simp only [Settings.load, agree name rfl]

theorem buildFrom_congr {document : Path} {metadata : List Path} {settings : Option Path}
    (agree : ∀ path ∈ settings.toList ++ document :: metadata, source path = other path) :
    buildFrom source document metadata settings = buildFrom other document metadata settings := by
  obtain ⟨inSettings, others⟩ := List.forall_mem_append.mp agree
  obtain ⟨inDocument, inMetadata⟩ := List.forall_mem_cons.mp others
  have first := @settings_load_congr source other settings fun name member =>
    inSettings name (Option.mem_toList.mpr member)
  simp only [buildFrom, first, loadDocument_congr inDocument, loadMetadata_congr inMetadata]

/-- A command reads the files that it names and no others. -/
theorem Command.run_congr {command : Command}
    (agree : ∀ path ∈ command.paths, source path = other path) :
    command.run source = command.run other := by
  cases command with
  | version => rfl
  | checksum document =>
      have same := @buildFrom_congr source other document [] none agree
      simp only [Command.run, checksumReport, same]
  | inspect request =>
      have same := buildFrom_congr agree
      simp only [Command.run, inspectionReport, same]

theorem sourceOf_eq (source : FileSource) {paths : List Path} {path : Path}
    (member : path ∈ paths) :
    sourceOf (paths.map fun path => (path, source path)) path = source path := by
  have found : (paths.map fun path => (path, source path)).lookup path = some (source path) := by
    induction paths with
    | nil => cases member
    | cons first rest ih =>
        rw [List.map_cons, List.lookup_cons]
        by_cases same : path = first
        · simp [same]
        · have differs : (path == first) = false := by simpa using same
          rw [differs]
          exact ih (List.mem_of_ne_of_mem same member)
  rw [sourceOf, found, Option.getD_some]

/-- It is enough to read the named files once, before the command runs. -/
theorem Command.run_sourceOf (command : Command) (source : FileSource) :
    command.run (sourceOf (command.paths.map fun path => (path, source path))) =
      command.run source :=
  Command.run_congr fun _ member => sourceOf_eq source member

end Reading

section Words

variable {width n : Nat}

theorem verbatim_hexText : Verbatim (Interface.hexText width n).toList := by
  rw [Interface.hexText, String.toList_ofList]
  refine .of_basic (List.all_eq_true.mpr fun c member => ?_)
  obtain ⟨value, small, rfl⟩ := Text.exists_of_mem_hexDigits member
  have each : ∀ value < 16, isBasic (Text.hexDigit value) = true := by decide
  exact each value small

theorem isBasic_of_isDigit {c : Char} (digit : c.isDigit = true) : isBasic c = true := by
  have bounds : 48 ≤ c.toNat ∧ c.toNat ≤ 57 := by
    simpa [Char.isDigit, UInt32.le_iff_toNat_le] using digit
  have bracket : c ≠ '[' := by
    rintro rfl
    exact absurd bounds.2 (by decide)
  have colon : c ≠ ':' := by
    rintro rfl
    exact absurd bounds.2 (by decide)
  simp only [isBasic, Bool.and_eq_true, decide_eq_true_eq]
  exact ⟨⟨⟨by omega, by omega⟩, bracket⟩, colon⟩

theorem verbatim_toString : Verbatim (toString n).toList :=
  .of_basic (List.all_eq_true.mpr fun c member =>
    isBasic_of_isDigit (Json.isDigit_toDigits n c (by simpa using member)))

end Words

variable {interface : Interface}

theorem verbatim_symbolSpace (space : Verbatim interface.spaceTag.shown.toList) :
    Verbatim interface.symbolSpace.toList := by
  have mark : Verbatim "_".toList := .of_basic (by decide)
  rw [Interface.symbolSpace, String.toList_append, String.toList_append]
  exact (space.append mark).append verbatim_hexText

theorem verbatim_headings (space : Verbatim interface.spaceTag.shown.toList) :
    ∀ text ∈ headings interface, Verbatim text.toList := by
  have namespaceWord : Verbatim "Namespace".toList := .of_basic (by decide)
  have checksumWord : Verbatim "Checksum".toList := .of_basic (by decide)
  have symbolWord : Verbatim "FFI namespace".toList := .of_basic (by decide)
  simp only [headings, List.forall_mem_cons, String.toList_append]
  exact ⟨(namespaceWord.append .colon_space).append space,
    (checksumWord.append .colon_space).append verbatim_hexText,
    (symbolWord.append .colon_space).append (verbatim_symbolSpace space),
    List.forall_mem_nil _⟩

theorem verbatim_countsText : Verbatim (countsText interface).toList := by
  have pair (first second : Nat) {label other : String} (named : Verbatim label.toList)
      (others : Verbatim other.toList) :
      Verbatim ((toString first).toList ++ label.toList ++ (toString second).toList ++
        other.toList) :=
    ((verbatim_toString.append named).append verbatim_toString).append others
  simp only [countsText, String.toList_append]
  refine ((pair _ _ ?_ ?_).append (pair _ _ ?_ ?_)).append (pair _ _ ?_ ?_)
  all_goals exact .of_basic (by decide)

section Row

theorem verbatim_type (type : ForeignType) : Verbatim type.name.toList := by
  cases type <;> exact .of_basic (by decide)

theorem verbatim_argument {argument : ForeignArgument} (named : Verbatim argument.name.toList) :
    Verbatim argument.text.toList := by
  simp only [ForeignArgument.text, String.toList_append]
  exact (named.append .colon_space).append (verbatim_type argument.type)

theorem verbatim_intercalate {gap : String} {texts : List String} (between : Verbatim gap.toList)
    (verbatim : ∀ text ∈ texts, Verbatim text.toList) :
    Verbatim (gap.intercalate texts).toList := by
  rw [String.toList_intercalate]
  induction texts with
  | nil => exact .of_basic rfl
  | cons text rest ih =>
      obtain ⟨here, others⟩ := List.forall_mem_cons.mp verbatim
      cases rest with
      | nil =>
          rw [List.map_singleton, List.intercalate_singleton]
          exact here
      | cons next last =>
          rw [List.map_cons, List.map_cons, List.intercalate_cons_cons]
          exact (here.append between).append (ih others)

variable {function : ForeignFunction}

/-- The names in a row are verbatim texts. -/
structure NamesVerbatim (function : ForeignFunction) : Prop where
  name : Verbatim function.name.toList
  arguments : ∀ argument ∈ function.arguments, Verbatim argument.name.toList

theorem NamesVerbatim.row (names : NamesVerbatim function) :
    ∀ text ∈ row function, Verbatim text.toList := by
  have arguments : Verbatim function.argumentsText.toList := by
    refine verbatim_intercalate (.of_basic (by decide)) fun text member => ?_
    obtain ⟨argument, inside, rfl⟩ := List.mem_map.mp member
    exact verbatim_argument (names.arguments argument inside)
  have result : Verbatim function.resultText.toList := by
    rw [ForeignFunction.resultText]
    cases function.result with
    | none => exact .of_basic (by decide)
    | some type => exact verbatim_type type
  simp only [CommandLine.row, List.forall_mem_cons]
  exact ⟨names.name, arguments, result, List.forall_mem_nil _⟩

end Row

section Table

theorem mapM_of_ok {ε α β : Type} {read : α → Except ε β} {view : α → β} {items : List α}
    (each : ∀ item ∈ items, read item = .ok (view item)) :
    items.mapM read = .ok (items.map view) := by
  rw [Results.mapM_eq_ok, List.map_map]
  exact List.map_congr_left each

/-- A text without styles. -/
def unstyled (text : String) : Styled := ⟨text.toList, []⟩

theorem readCells_verbatim {texts : List (List String)}
    (verbatim : ∀ row ∈ texts, ∀ text ∈ row, Verbatim text.toList) :
    readCells texts = .ok (texts.map fun row => row.map unstyled) := by
  have rows : ∀ row ∈ texts, row.mapM Markup.read = .ok (row.map unstyled) := fun row member =>
    mapM_of_ok fun text inside => Markup.read_verbatim (verbatim row member text inside)
  rw [readCells, mapM_of_ok rows]
  rfl

/-- A text with blanks behind it up to the width of its column. -/
def filledText (width : Nat) (text : String) : String :=
  text ++ String.ofList (Grid.blanks (width - text.length))

theorem verbatim_filledText {width : Nat} {text : String} (verbatim : Verbatim text.toList) :
    Verbatim (filledText width text).toList := by
  have blanks : Verbatim (Grid.blanks (width - text.length)) :=
    .of_basic (List.all_eq_true.mpr fun c member => by
      rw [List.eq_of_mem_replicate member]
      rfl)
  rw [filledText, String.toList_append, String.toList_ofList]
  exact verbatim.append blanks

theorem showCell_filled (width : Nat) (text : String) :
    showCell (Grid.filled width (unstyled text)) = .ok (filledText width text) := by
  rw [showCell, Grid.filled, unstyled, Markup.shown_unstyled, String.ofList_append,
    String.ofList_toList, String.length_toList]
  rfl

/-- The widths of columns that hold nothing but texts. -/
def textWidths (heads : List String) (rows : List (List String)) : List Nat :=
  Grid.widths (heads.map unstyled) (rows.map (List.map unstyled))

theorem showLine_filled (widths : List Nat) (row : List String) :
    (widths.zipWith Grid.filled (row.map unstyled)).mapM showCell =
      .ok (widths.zipWith filledText row) := by
  induction row generalizing widths with
  | nil => cases widths <;> rfl
  | cons text rest ih =>
      cases widths with
      | nil => rfl
      | cons width others =>
          rw [List.map_cons, List.zipWith_cons_cons, List.mapM_cons, showCell_filled, ih]
          rfl

theorem isWhole_filled {widths : List Nat} {row : List String}
    (verbatim : ∀ text ∈ row, Verbatim text.toList) :
    ∀ text ∈ widths.zipWith filledText row, Report.checkWhole text = .ok () := by
  intro shown member
  rw [← List.map_uncurry_zip_eq_zipWith] at member
  obtain ⟨⟨width, text⟩, inside, rfl⟩ := List.mem_map.mp member
  exact if_pos (verbatim_filledText (verbatim text (List.of_mem_zip inside).2)).isWhole

section Rows

variable {heads : List String} {rows : List (List String)}
  (verbatim : ∀ row ∈ rows, ∀ text ∈ row, Verbatim text.toList)

include verbatim

theorem lines_unstyled (named : heads ≠ []) (same : ∀ row ∈ rows, row.length = heads.length) :
    Grid.lines (heads.map unstyled) (rows.map (List.map unstyled)) =
      rows.map fun row => (textWidths heads rows).zipWith Grid.filled (row.map unstyled) := by
  have ordinary : ∀ cells ∈ rows.map (List.map unstyled), ∀ cell ∈ cells,
      ∀ c ∈ cell.characters, Ordinary c := by
    intro cells member cell inside
    obtain ⟨row, isRow, rfl⟩ := List.mem_map.mp member
    obtain ⟨text, isText, rfl⟩ := List.mem_map.mp inside
    exact (verbatim row isRow text isText).ordinary
  rw [Grid.lines_of_ordinary_rows (by simpa using named) (by simpa using same) ordinary,
    List.map_map]
  rfl

theorem verbatim_columns (count : Nat) :
    ∀ column ∈ (List.range count).map fun column => rows.filterMap (·[column]?),
      ∀ text ∈ column, Verbatim text.toList := by
  intro column member text inside
  obtain ⟨position, -, rfl⟩ := List.mem_map.mp member
  obtain ⟨row, isRow, found⟩ := List.mem_filterMap.mp inside
  exact verbatim row isRow text (List.mem_of_getElem? found)

/-- Rows of verbatim texts are shown line by line, every text in full. -/
theorem showTable_verbatim (named : heads ≠ [])
    (same : ∀ row ∈ rows, row.length = heads.length) :
    showTable heads rows = .ok (rows.map ((textWidths heads rows).zipWith filledText)) := by
  have shown : (Grid.lines (heads.map unstyled) (rows.map (List.map unstyled))).mapM
      (List.mapM showCell) = .ok (rows.map ((textWidths heads rows).zipWith filledText)) := by
    rw [lines_unstyled verbatim named same, List.mapM_map]
    exact mapM_of_ok fun row _ => showLine_filled _ row
  have checked : ∀ text ∈ (rows.map ((textWidths heads rows).zipWith filledText)).flatten,
      Report.checkWhole text = .ok () := by
    intro text member
    obtain ⟨line, isLine, inside⟩ := List.mem_flatten.mp member
    obtain ⟨row, isRow, rfl⟩ := List.mem_map.mp isLine
    exact isWhole_filled (verbatim row isRow) text inside
  refine Results.bind_eq_ok.mpr ⟨_, readCells_verbatim (verbatim_columns verbatim _), ?_⟩
  refine Results.bind_eq_ok.mpr ⟨_, readCells_verbatim verbatim, ?_⟩
  refine Results.bind_eq_ok.mpr ⟨_, shown, ?_⟩
  exact Results.bind_eq_ok.mpr ⟨_, mapM_of_ok checked, rfl⟩

end Rows

end Table

/-- An inspection of an interface with verbatim names prints all of it as it is: the headings, the
counts, and a line of the table for each foreign function. -/
theorem interfaceReport_verbatim {log : List String}
    (space : Verbatim interface.spaceTag.shown.toList)
    (names : ∀ function ∈ interface.foreignFunctions, NamesVerbatim function) :
    interfaceReport interface log =
      let rows := interface.foreignFunctions.map row
      { output := headings interface ++ [countsText interface, Report.tableTitle]
        table := some (rows.map ((textWidths Report.columns rows).zipWith filledText))
        log } := by
  have above : ∀ text ∈ headings interface ++ [countsText interface], Verbatim text.toList :=
    List.forall_mem_append.mpr ⟨verbatim_headings space,
      List.forall_mem_singleton.mpr verbatim_countsText⟩
  have cells : ∀ texts ∈ interface.foreignFunctions.map row, ∀ text ∈ texts,
      Verbatim text.toList := by
    intro texts member
    obtain ⟨function, inside, rfl⟩ := List.mem_map.mp member
    exact (names function inside).row
  have columns : ∀ texts ∈ interface.foreignFunctions.map row,
      texts.length = Report.columns.length := by
    intro texts member
    obtain ⟨function, -, rfl⟩ := List.mem_map.mp member
    rfl
  have named : Report.columns ≠ [] := List.cons_ne_nil _ _
  have table := showTable_verbatim cells named columns
  rw [interfaceReport, showAll_verbatim above]
  simp only [table, List.append_assoc, List.singleton_append]

/-- The checksum of a built interface and its symbol space are printed as they are. -/
theorem checksumReport_of_build {source : FileSource} {document : Path} {events : List Event}
    (built : buildFrom source document [] none = .ok ⟨.ok (), interface, events⟩)
    (still : ∀ c ∈ interface.spaceTag.shown.toList, c ≠ Display.escape) :
    checksumReport source document = { output := [symbolText interface] } := by
  have gap : Verbatim " ".toList := .of_basic (by decide)
  have mark : Verbatim "_".toList := .of_basic (by decide)
  have whole : ∀ c ∈ (symbolText interface).toList, c ≠ Display.escape := by
    simp only [symbolText, Interface.symbolSpace, String.toList_append, List.forall_mem_append]
    have digits {width n : Nat} : ∀ c ∈ (Interface.hexText width n).toList, c ≠ Display.escape :=
      verbatim_hexText.ne_control (by decide)
    exact ⟨⟨digits, gap.ne_control (by decide)⟩, ⟨still, mark.ne_control (by decide)⟩, digits⟩
  simp only [checksumReport, built, Display.withoutEscapes_eq_self whole, String.ofList_toList]

end NativeBoundary.CommandLine

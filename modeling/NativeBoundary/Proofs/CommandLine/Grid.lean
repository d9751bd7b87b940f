import Mathlib.Data.List.Forall2
import Mathlib.Data.List.TakeWhile
import NativeBoundary.Proofs.CommandLine.Display

/-!
# The lines of a table

A line that does not fit is broken in front of words, so that no character is lost, and what a
column then shows of a piece begins it, up to a whole number of clusters. Cells of ordinary
characters always fit, because their columns are as wide as the widest of them: every row of such
cells takes a single line, on which each cell stands in full with blanks behind it.
-/

namespace NativeBoundary.CommandLine.Grid

open Text (cellCount isBlank trimEnd)

section Breaking

theorem splitWord_append (text : List Char) : (splitWord text).1 ++ (splitWord text).2 = text := by
  simp only [splitWord, List.append_assoc, List.takeWhile_append_dropWhile]

theorem splitWord_nil_iff {text : List Char} (begins : ∀ c ∈ text.head?, isBlank c = false) :
    (splitWord text).1 = [] ↔ text = [] := by
  cases text with
  | nil => simp [splitWord]
  | cons c rest => simp [splitWord, begins c rfl]

theorem head?_dropWhile_isBlank (text : List Char) :
    ∀ c ∈ (text.dropWhile isBlank).head?, isBlank c = false := by
  intro c first
  have outside := List.head?_dropWhile_not isBlank text
  rw [Option.mem_def.mp first] at outside
  exact outside

/-- Blanks alone cannot be what stands behind blanks. -/
theorem dropWhile_isBlank_eq_nil {text : List Char}
    (blank : ∀ c ∈ text.dropWhile isBlank, isBlank c = true) : text.dropWhile isBlank = [] := by
  refine List.eq_nil_iff_forall_not_mem.mpr fun c member => ?_
  obtain ⟨first, rest, opened⟩ := List.exists_cons_of_ne_nil (List.ne_nil_of_mem member)
  have outside := head?_dropWhile_isBlank text first (by rw [opened]; rfl)
  rw [blank first (by rw [opened]; exact List.mem_cons_self)] at outside
  cases outside

theorem spacedWords_of_blank {bound : Nat} {text : List Char}
    (blank : ∀ c ∈ text, isBlank c = true) : spacedWords bound text = [] := by
  cases bound with
  | zero => rfl
  | succ bound =>
      have none : text.dropWhile isBlank = [] := List.dropWhile_eq_nil_iff.mpr blank
      simp [spacedWords, none, splitWord]

/-- The words of a line make it up, unless it has none. -/
theorem flatten_spacedWords {bound : Nat} {text : List Char} (enough : text.length ≤ bound)
    (filled : ¬ ∀ c ∈ text, isBlank c = true) : (spacedWords bound text).flatten = text := by
  induction bound generalizing text with
  | zero =>
      obtain rfl := List.eq_nil_of_length_eq_zero (Nat.le_zero.mp enough)
      exact absurd (List.forall_mem_nil _) filled
  | succ bound ih =>
      have begun : text.dropWhile isBlank ≠ [] := mt List.dropWhile_eq_nil_iff.mp filled
      have word := mt (splitWord_nil_iff (head?_dropWhile_isBlank text)).mp begun
      have parts := splitWord_append (text.dropWhile isBlank)
      have others : (spacedWords bound (splitWord (text.dropWhile isBlank)).2).flatten =
          (splitWord (text.dropWhile isBlank)).2 := by
        by_cases blank : ∀ c ∈ (splitWord (text.dropWhile isBlank)).2, isBlank c = true
        · rw [spacedWords_of_blank blank]
          exact (dropWhile_isBlank_eq_nil blank).symm
        · refine ih ?_ blank
          have whole := congrArg List.length parts
          have bounded := (List.dropWhile_sublist isBlank (l := text)).length_le
          have positive := List.length_pos_iff.mpr word
          rw [List.length_append] at whole
          omega
      rw [spacedWords]
      simp only [List.isEmpty_iff, if_neg word, List.flatten_cons]
      rw [others, List.append_assoc, parts, List.takeWhile_append_dropWhile]

theorem flatten_breakWords (width : Nat) (words : List (List Char)) (line : List Char)
    (cells : Nat) : (breakWords width words line cells).flatten = line ++ words.flatten := by
  induction words generalizing line cells with
  | nil => simp [breakWords]
  | cons word rest ih =>
      simp only [breakWords]
      split
      · rw [ih, List.append_assoc, List.flatten_cons]
      · rw [List.flatten_cons, ih, List.flatten_cons]

/-- Breaking a line loses no character of it. -/
theorem flatten_brokenLines (width : Nat) (line : List Char) :
    (brokenLines width line).flatten = line := by
  unfold brokenLines
  split
  · exact List.append_nil line
  · rename_i words some
    rw [flatten_breakWords, List.nil_append]
    exact flatten_spacedWords (Nat.le_refl _) fun blank => some (spacedWords_of_blank blank)

end Breaking

section Fitting

/-- Whole clusters fill a part of the given cells, and blanks the others. -/
theorem exists_fitCells (cells : Nat) (line : List Char) :
    ∃ kept gap, kept <+: Text.clusters line ∧
      Text.total (kept.map Text.Cluster.cells) + gap = cells ∧
      fitCells cells line = kept.flatMap Text.Cluster.characters ++ blanks gap :=
  ⟨_, _, Text.takeClusters_prefix _ _,
    Nat.add_sub_of_le (Text.takeClusters_cells_le _ _), rfl⟩

/-- A column shows a beginning of a line, with blanks behind it, and an ellipsis if the line is too
wide. -/
theorem exists_fit (width : Nat) (line : List Char) :
    ∃ kept gap, kept <+: line ∧
      (cellCount line ≤ width ∧ kept = line ∧ fit width line = line ++ blanks gap ∨
        width < cellCount line ∧ fit width line = kept ++ blanks gap ++ [ellipsis]) := by
  by_cases wide : width < cellCount line
  · obtain ⟨kept, gap, ⟨others, whole⟩, -, fitted⟩ := exists_fitCells (width - 1) line
    refine ⟨kept.flatMap Text.Cluster.characters, gap,
      ⟨others.flatMap Text.Cluster.characters, ?_⟩, .inr ⟨wide, ?_⟩⟩
    · rw [← List.flatMap_append, whole, Text.flatMap_clusters]
    · rw [fit, if_pos wide, fitted]
  · have whole : fit width line = line ++ blanks (width - cellCount line) := by
      rw [fit, if_neg wide]
    exact ⟨line, _, List.prefix_refl line, .inl ⟨Nat.le_of_not_lt wide, rfl, whole⟩⟩

end Fitting

section Ordinary

variable {width : Nat} {line : List Char} {cell : Styled}

theorem cellCount_of_ordinary (ordinary : ∀ c ∈ line, Ordinary c) : cellCount line = line.length :=
  Text.cellCount_eq_length fun c member => (ordinary c member).narrow

theorem ordinary_blanks (cells : Nat) : ∀ c ∈ blanks cells, Ordinary c := by
  intro c member
  rw [List.eq_of_mem_replicate member]
  exact .of_basic (by decide)

theorem breakWords_of_fits {words : List (List Char)} {cells : Nat}
    (ordinary : ∀ word ∈ words, ∀ c ∈ word, Ordinary c)
    (fits : cells + words.flatten.length ≤ width) :
    breakWords width words line cells = [line ++ words.flatten] := by
  induction words generalizing line cells with
  | nil => simp [breakWords]
  | cons word rest ih =>
      have here := ordinary word List.mem_cons_self
      have trimmed : trimEnd isBlank word <+: word := by
        rw [trimEnd, ← List.reverse_suffix, List.reverse_reverse]
        exact List.dropWhile_suffix isBlank
      have short : cellCount (trimEnd isBlank word) ≤ word.length := by
        rw [cellCount_of_ordinary fun c member => here c (trimmed.subset member)]
        exact trimmed.length_le
      rw [List.flatten_cons, List.length_append] at fits
      have room : cells + cellCount (trimEnd isBlank word) ≤ width := by omega
      simp only [breakWords, room, decide_true, Bool.or_true, if_true]
      rw [ih (fun other member => ordinary other (List.mem_cons_of_mem word member)),
        List.append_assoc, List.flatten_cons]
      rw [cellCount_of_ordinary here]
      omega

theorem brokenLines_of_fits (ordinary : ∀ c ∈ line, Ordinary c) (fits : line.length ≤ width) :
    brokenLines width line = [line] := by
  unfold brokenLines
  split
  · rfl
  · rename_i words some
    have whole : (spacedWords line.length line).flatten = line :=
      flatten_spacedWords (Nat.le_refl _) fun blank => some (spacedWords_of_blank blank)
    rw [breakWords_of_fits, whole, List.nil_append]
    · intro word member c inside
      refine ordinary c ?_
      rw [← whole]
      exact List.mem_flatten_of_mem member inside
    · rwa [whole, Nat.zero_add]

theorem dropExcess_of_fits (fits : line.length ≤ width) : dropExcess width line = line := by
  rw [dropExcess, Nat.sub_eq_zero_of_le fits, Nat.min_zero, Nat.sub_zero, List.take_length]

theorem fit_of_fits (ordinary : ∀ c ∈ line, Ordinary c) (fits : line.length ≤ width) :
    fit width line = line ++ blanks (width - line.length) := by
  rw [fit, cellCount_of_ordinary ordinary, if_neg (Nat.not_lt.mpr fits)]

theorem total_map_length (runs : List (List Char)) :
    Text.total (runs.map List.length) = runs.flatten.length := by
  induction runs with
  | nil => rfl
  | cons run rest ih => rw [List.map_cons, Text.total, ih, List.flatten_cons, List.length_append]

theorem crop_of_fits (ordinary : ∀ c ∈ cell.characters, Ordinary c)
    (fits : cell.characters.length ≤ width) : crop width cell = cell := by
  have measured : cell.runs.map cellCount = cell.runs.map List.length :=
    List.map_congr_left fun run member => cellCount_of_ordinary fun c inside => ordinary c (by
      rw [← cell.flatten_runs]
      exact List.mem_flatten_of_mem member inside)
  rw [crop, measured, total_map_length, cell.flatten_runs, if_neg (Nat.not_lt.mpr fits)]

/-- A cell with blanks behind it up to the width of its column. -/
def filled (width : Nat) (cell : Styled) : Styled :=
  { cell with characters := cell.characters ++ blanks (width - cell.characters.length) }

theorem replace_of_length_le {characters : List Char}
    (longer : cell.characters.length ≤ characters.length) :
    cell.replace characters = { cell with characters } := by
  simp [Styled.replace, longer]

theorem fillTabs_of_ordinary (ordinary : ∀ c ∈ cell.characters, Ordinary c) :
    cell.fillTabs = cell := by
  have untabbed : cell.characters.contains '\t' = false := by
    simp only [List.contains_eq_mem, decide_eq_false_iff_not]
    exact fun member => (ordinary _ member).ne_control (by decide) rfl
  rw [Styled.fillTabs, untabbed, if_neg Bool.false_ne_true]

theorem lines_of_ordinary (ordinary : ∀ c ∈ cell.characters, Ordinary c) : cell.lines = [cell] :=
  Styled.lines_of_unbroken fun c member => (ordinary c member).ne_control (by decide)

theorem cellLines_of_fits (ordinary : ∀ c ∈ cell.characters, Ordinary c)
    (fits : cell.characters.length ≤ width) : cellLines width cell = [filled width cell] := by
  have wide : (filled width cell).characters.length ≤ width := by
    simp only [filled, blanks, List.length_append, List.length_replicate]
    omega
  have visible : ∀ c ∈ (filled width cell).characters, Ordinary c :=
    List.forall_mem_append.mpr ⟨ordinary, ordinary_blanks _⟩
  have kept : cell.replace cell.characters = cell := replace_of_length_le (Nat.le_refl _)
  have longer : cell.replace (cell.characters ++ blanks (width - cell.characters.length)) =
      filled width cell :=
    replace_of_length_le (by rw [List.length_append]; exact Nat.le_add_right _ _)
  simp only [cellLines, lines_of_ordinary ordinary, List.flatMap_singleton,
    fillTabs_of_ordinary ordinary, brokenLines_of_fits ordinary fits, List.map_cons, List.map_nil,
    Styled.divide, dropExcess_of_fits fits, kept, fit_of_fits ordinary fits, longer,
    crop_of_fits visible wide]

/-- What the lines of a cell are measured by is the whole cell. -/
theorem widest_of_ordinary (ordinary : ∀ c ∈ cell.characters, Ordinary c) :
    widest cell = cell.characters.length := by
  have single : Text.stretches Text.isLineBreak cell.characters = [cell.characters] :=
    Text.stretches_eq_singleton fun c member => (ordinary c member).unbroken
  simp [widest, single, cellCount_of_ordinary ordinary]

end Ordinary

section Columns

variable {columns others : List Nat} {cells : List Styled} {rows : List (List Styled)}

/-- Each cell of a row is within its column. -/
abbrev Fit : List Nat → List Styled → Prop :=
  List.Forall₂ fun width cell => widest cell ≤ width

/-- The columns after one further row. -/
def widen (columns : List Nat) (cells : List Styled) : List Nat :=
  columns.zipWith max (cells.map widest)

theorem length_widen (same : cells.length = columns.length) :
    (widen columns cells).length = columns.length := by
  simp [widen, same]

theorem fit_widen (same : cells.length = columns.length) : Fit (widen columns cells) cells := by
  induction cells generalizing columns with
  | nil =>
      obtain rfl := List.eq_nil_of_length_eq_zero same.symm
      exact .nil
  | cons cell rest ih =>
      cases columns with
      | nil => cases same
      | cons width others =>
          exact .cons (Nat.le_max_right _ _) (ih (Nat.succ.inj same))

/-- Columns only grow. -/
theorem Fit.widen (fit : Fit columns cells) {row : List Styled}
    (same : row.length = columns.length) : Fit (Grid.widen columns row) cells := by
  induction fit generalizing row with
  | nil => exact .nil
  | cons here _ ih =>
      cases row with
      | nil => cases same
      | cons cell rest =>
          exact .cons (Nat.le_trans here (Nat.le_max_left _ _)) (ih (Nat.succ.inj same))

theorem Fit.foldl_widen (fit : Fit columns cells)
    (same : ∀ row ∈ rows, row.length = columns.length) :
    Fit (rows.foldl Grid.widen columns) cells := by
  induction rows generalizing columns with
  | nil => exact fit
  | cons first rest ih =>
      obtain ⟨here, others⟩ := List.forall_mem_cons.mp same
      rw [← length_widen here] at others
      exact ih (fit.widen here) others

theorem fit_foldl_widen (same : ∀ row ∈ rows, row.length = columns.length) :
    ∀ row ∈ rows, Fit (rows.foldl widen columns) row := by
  induction rows generalizing columns with
  | nil => exact List.forall_mem_nil _
  | cons first rest ih =>
      obtain ⟨here, others⟩ := List.forall_mem_cons.mp same
      rw [← length_widen here] at others
      exact List.forall_mem_cons.mpr ⟨(fit_widen here).foldl_widen others, ih others⟩

theorem fit_widths {heads : List Styled} (same : ∀ row ∈ rows, row.length = heads.length) :
    ∀ row ∈ rows, Fit (widths heads rows) row :=
  fit_foldl_widen fun row member => by rw [same row member, List.length_map]

theorem length_foldl_widen (same : ∀ row ∈ rows, row.length = columns.length) :
    (rows.foldl widen columns).length = columns.length := by
  induction rows generalizing columns with
  | nil => rfl
  | cons first rest ih =>
      obtain ⟨here, others⟩ := List.forall_mem_cons.mp same
      rw [← length_widen here] at others
      rw [List.foldl_cons, ih others, length_widen here]

theorem length_of_mem_rowLines {line : List Styled} (member : line ∈ rowLines columns cells) :
    line.length = min columns.length cells.length := by
  simp only [rowLines, List.mem_map] at member
  obtain ⟨position, -, rfl⟩ := member
  simp

/-- Every line of a table has a cell in each column. -/
theorem length_of_mem_lines {heads line : List Styled}
    (same : ∀ row ∈ rows, row.length = heads.length) (member : line ∈ lines heads rows) :
    line.length = heads.length := by
  obtain ⟨row, isRow, inside⟩ := List.mem_flatMap.mp member
  have columns : (widths heads rows).length = heads.length := by
    have kept := @length_foldl_widen (heads.map widest) rows fun row member => by
      rw [same row member, List.length_map]
    rwa [List.length_map] at kept
  rw [length_of_mem_rowLines inside, columns, same row isRow, Nat.min_self]

theorem zipWith_cellLines (fit : Fit columns cells)
    (ordinary : ∀ cell ∈ cells, ∀ c ∈ cell.characters, Ordinary c) :
    columns.zipWith cellLines cells = (columns.zipWith filled cells).map ([·]) := by
  induction fit with
  | nil => rfl
  | cons here _ ih =>
      obtain ⟨visible, others⟩ := List.forall_mem_cons.mp ordinary
      rw [widest_of_ordinary visible] at here
      simp only [List.zipWith_cons_cons, List.map_cons, cellLines_of_fits visible here, ih others]

theorem height_of_single (lines : List Styled) :
    (lines.map ([·])).foldl (fun height column => max height column.length) 1 = 1 := by
  induction lines with
  | nil => rfl
  | cons line rest ih => simpa using ih

/-- A row of ordinary cells that are all within their columns takes one line. -/
theorem rowLines_of_fit (fit : Fit columns cells) (some : cells ≠ [])
    (ordinary : ∀ cell ∈ cells, ∀ c ∈ cell.characters, Ordinary c) :
    rowLines columns cells = [columns.zipWith filled cells] := by
  rw [rowLines, zipWith_cellLines fit ordinary]
  cases fit with
  | nil => exact absurd rfl some
  | cons _ _ =>
      simp only [List.zipWith_cons_cons, List.map_cons, List.foldl_cons, List.length_singleton,
        Nat.zero_max, height_of_single]
      simp

/-- A table of ordinary cells has a line for each row, on which every cell stands in full. -/
theorem lines_of_ordinary_rows {heads : List Styled} (named : heads ≠ [])
    (same : ∀ row ∈ rows, row.length = heads.length)
    (ordinary : ∀ row ∈ rows, ∀ cell ∈ row, ∀ c ∈ cell.characters, Ordinary c) :
    lines heads rows = rows.map ((widths heads rows).zipWith filled) := by
  have single : ∀ row ∈ rows, rowLines (widths heads rows) row =
      [(widths heads rows).zipWith filled row] := by
    intro row member
    have some : row ≠ [] := by
      rintro rfl
      exact named (List.eq_nil_of_length_eq_zero (same [] member).symm)
    exact rowLines_of_fit (fit_widths same row member) some (ordinary row member)
  rw [lines, List.flatMap_congr single, List.map_eq_flatMap]

end Columns

end NativeBoundary.CommandLine.Grid

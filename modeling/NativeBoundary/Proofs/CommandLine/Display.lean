import Mathlib.Data.List.Basic
import NativeBoundary.CommandLine.Report
import NativeBoundary.Proofs.Text.CellWidth
import NativeBoundary.Proofs.Text.Kept
import NativeBoundary.Proofs.Text.Pictograph

/-!
# Texts that are shown as they are

What a command prints goes through the marks of styles, the table of pictographs and the layout of
lines. A character is ordinary if none of these has anything to do with it and it takes one cell; a
text of ordinary characters that names no pictograph is shown verbatim. Verbatim texts can be
joined, so that a line with names in it is verbatim once the names are.
-/

namespace NativeBoundary.CommandLine

open Text (cellWidth isLineBreak)
open Text.Surrogate (isStandIn isWhole parted)

/-- A visible character of one cell that breaks no line, opens no tag and is no half of a pair. -/
structure Ordinary (c : Char) : Prop where
  visible : 32 ≤ c.toNat
  narrow : cellWidth c = 1
  unbroken : isLineBreak c = false
  unmarked : c ≠ '['
  whole : isStandIn c = false

theorem Ordinary.ne_control {c control : Char} (ordinary : Ordinary c)
    (low : control.toNat < 32) : c ≠ control := by
  rintro rfl
  exact Nat.not_le.mpr low ordinary.visible

theorem Ordinary.of_ascii {c : Char} (visible : 32 ≤ c.toNat) (basic : c.toNat < 127)
    (unmarked : c ≠ '[') : Ordinary c where
  visible := visible
  narrow := Text.cellWidth_of_ascii visible basic
  unbroken := by
    simp only [isLineBreak, Bool.or_eq_false_iff, Bool.and_eq_false_iff, decide_eq_false_iff_not,
      beq_eq_false_iff_ne]
    omega
  unmarked := unmarked
  whole := by
    have low : ¬ Text.Surrogate.distance ≤ c.toNat := by
      simp only [Text.Surrogate.distance]
      omega
    simp [isStandIn, low]

/-- The visible characters of the basic range but for brackets and colons. -/
def isBasic (c : Char) : Bool := 32 ≤ c.toNat && c.toNat < 127 && c ≠ '[' && c ≠ ':'

theorem Ordinary.of_basic {c : Char} (basic : isBasic c = true) : Ordinary c := by
  simp only [isBasic, Bool.and_eq_true, decide_eq_true_eq] at basic
  obtain ⟨⟨⟨visible, low⟩, unmarked⟩, -⟩ := basic
  exact .of_ascii visible low unmarked

structure Verbatim (text : List Char) : Prop where
  ordinary : ∀ c ∈ text, Ordinary c
  unnamed : Text.Pictograph.Plain text

namespace Verbatim

variable {text other : List Char}

theorem append (first : Verbatim text) (second : Verbatim other) : Verbatim (text ++ other) where
  ordinary := List.forall_mem_append.mpr ⟨first.ordinary, second.ordinary⟩
  unnamed := first.unnamed.append second.unnamed

theorem of_basic (basic : text.all isBasic = true) : Verbatim text where
  ordinary c member := .of_basic (List.all_eq_true.mp basic c member)
  unnamed := .of_ordinary fun c member colon => by
    have here := List.all_eq_true.mp basic c member
    rw [colon] at here
    cases here

theorem colon_space : Verbatim [':', ' '] where
  ordinary := List.forall_mem_cons.mpr ⟨.of_ascii (by decide) (by decide) (by decide),
    List.forall_mem_singleton.mpr (.of_basic (by decide))⟩
  unnamed := .colon_blank (by decide)

theorem ne_control (verbatim : Verbatim text) {control : Char} (low : control.toNat < 32) :
    ∀ c ∈ text, c ≠ control :=
  fun c member => (verbatim.ordinary c member).ne_control low

theorem unmarked (verbatim : Verbatim text) : '[' ∉ text :=
  fun member => (verbatim.ordinary _ member).unmarked rfl

theorem isWhole (verbatim : Verbatim text) : isWhole text = true := by
  rw [Text.Surrogate.isWhole,
    Text.Surrogate.points_eq_map fun c member => (verbatim.ordinary c member).whole]
  simp [Text.Surrogate.not_isHalf_toNat]

theorem parted_eq (verbatim : Verbatim text) : parted text = text := by
  have alone : ∀ c ∈ text, (if Text.Surrogate.isHalf c.toNat then [Text.Surrogate.standIn 0xD800]
      else Text.Surrogate.kept (Char.ofNat c.toNat)) = [c] := by
    intro c member
    rw [Text.Surrogate.not_isHalf_toNat, if_neg Bool.false_ne_true, Char.ofNat_toNat,
      Text.Surrogate.kept_eq_self (verbatim.ordinary c member).whole]
  rw [parted, Text.Surrogate.points_eq_map fun c member => (verbatim.ordinary c member).whole,
    List.flatMap_map, List.flatMap_congr alone, List.flatMap_singleton']

theorem legible_eq (verbatim : Verbatim text) : Display.legible text = text := by
  rw [Display.legible, verbatim.parted_eq, verbatim.unnamed.illustrated_eq]
  refine List.filter_eq_self.mpr fun c member => ?_
  have visible := (verbatim.ordinary c member).visible
  rw [Bool.not_eq_true']
  simp only [Display.isDropped, Bool.or_eq_false_iff, decide_eq_false_iff_not]
  omega

end Verbatim

/-- The text of an error is shown as it is if nothing in it asks for anything else. -/
theorem Display.plain_verbatim {text : String} (verbatim : Verbatim text.toList) :
    Display.plain text = text := by
  have single : Text.stretches (· = '\n') text.toList = [text.toList] :=
    Text.stretches_eq_singleton fun c member =>
      decide_eq_false (verbatim.ne_control (by decide) c member)
  rw [Display.plain, verbatim.legible_eq, single]
  simp [Display.fillTabs_eq_self (verbatim.ne_control (by decide))]

namespace Markup

/-- Without a bracket there is no tag, so the text is one piece. -/
theorem pieces_of_unmarked {bound : Nat} {seen text : List Char} (unmarked : '[' ∉ text) :
    pieces bound seen text = [.text (seen.reverse ++ text)] := by
  induction bound generalizing seen text with
  | zero => rfl
  | succ bound ih =>
      cases text with
      | nil => simp [pieces]
      | cons c rest =>
          have others := @ih (c :: seen) rest fun member => unmarked (List.mem_cons_of_mem c member)
          rw [List.reverse_cons, List.append_assoc, List.singleton_append] at others
          rw [pieces]
          split
          · rename_i inner opened
            have member : '[' ∈ (c :: rest).dropWhile isBackslash := by
              rw [opened]
              exact List.mem_cons_self
            exact absurd (List.dropWhile_subset _ member) unmarked
          · exact others

theorem read_verbatim {text : String} (verbatim : Verbatim text.toList) :
    read text = .ok ⟨text.toList, []⟩ := by
  rw [read, pieces_of_unmarked verbatim.unmarked]
  simp [render, verbatim.legible_eq, bind, Except.bind, pure, Except.pure]

theorem shown_unstyled (characters : List Char) :
    shown [⟨characters, []⟩] = .ok (String.ofList characters) := by
  simp [shown, Styled.isReadable]

theorem text_verbatim {text : String} (verbatim : Verbatim text.toList) :
    Markup.text text = .ok text := by
  have lines : (⟨text.toList, []⟩ : Styled).lines = [⟨text.toList, []⟩] :=
    Styled.lines_of_unbroken (verbatim.ne_control (by decide))
  have untabbed : text.toList.contains '\t' = false := by
    simpa using fun member => verbatim.ne_control (by decide) '\t' member rfl
  have filled : (⟨text.toList, []⟩ : Styled).fillTabs = ⟨text.toList, []⟩ := by
    simp only [Styled.fillTabs, untabbed, Bool.false_eq_true, if_false]
  have shown := shown_unstyled text.toList
  rw [String.ofList_toList] at shown
  rw [Markup.text, read_verbatim verbatim]
  simpa [bind, Except.bind, lines, filled] using shown

end Markup

theorem shownText_verbatim {text : String} (verbatim : Verbatim text.toList) :
    shownText text = .ok text := by
  simp [shownText, Markup.text_verbatim verbatim, Report.checkWhole, verbatim.isWhole,
    Except.mapError, bind, Except.bind, pure, Except.pure]

theorem showAll_verbatim {texts : List String} (verbatim : ∀ text ∈ texts, Verbatim text.toList) :
    showAll texts = (texts, none) := by
  induction texts with
  | nil => rfl
  | cons text rest ih =>
      have others := ih fun other member => verbatim other (List.mem_cons_of_mem text member)
      rw [showAll, shownText_verbatim (verbatim text List.mem_cons_self)]
      simp only [others]

/-- The words told of a failure are the output. -/
theorem Report.failed_verbatim {failure : Failure} {text : String} {log : List String}
    (told : failure.told = some text) (verbatim : Verbatim text.toList) :
    Report.failed failure log =
      { output := ["Error: " ++ text], log, failure := some failure } := by
  have word : Verbatim "Error".toList := .of_basic (by decide)
  have label : Verbatim "Error: ".toList := word.append .colon_space
  have whole : Verbatim ("Error: " ++ text).toList := by
    rw [String.toList_append]
    exact label.append verbatim
  have checked : Report.checkWhole ("Error: " ++ text) = .ok () := if_pos whole.isWhole
  simp only [Report.failed, told, Option.map_some, Option.toList_some,
    Display.plain_verbatim whole, List.mapM_cons, List.mapM_nil, checked]
  rfl

end NativeBoundary.CommandLine

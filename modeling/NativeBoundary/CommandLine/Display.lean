import NativeBoundary.Text.CellWidth
import NativeBoundary.Text.Pictograph.Basic
import NativeBoundary.Text.Surrogate

/-!
# Display

What a terminal shows of a text: named pictographs in place of their codes, no sounding or moving
controls, and tabs filled up to columns of eight cells.
-/

namespace NativeBoundary.CommandLine.Display

def isDropped (c : Char) : Bool :=
  let n := c.toNat
  n = 7 || n = 8 || n = 11 || n = 12 || n = 13

/-- Joins the parts between tabs, the first of which begins in the given column. A blank stands in
the place of each tab, with as many behind it as it takes to the next column of eight. -/
def joinTabbed : Nat → List (List Char) → List Char
  | _, [] => []
  | _, [last] => last
  | column, part :: rest =>
      let reached := column + Text.cellCount (part ++ [' '])
      let missing := (8 - reached % 8) % 8
      part ++ List.replicate (missing + 1) ' ' ++ joinTabbed (reached + missing) rest

/-- Fills up the tabs of a line. -/
def fillTabs (line : List Char) : List Char :=
  joinTabbed 0 (Text.stretches (· = '\t') line)

/-- What is kept of a text whose tabs are still to be filled up. -/
def legible (text : List Char) : List Char :=
  (Text.Pictograph.illustrated (Text.Surrogate.parted text)).filter (!isDropped ·)

def plain (text : String) : String :=
  let lines := Text.stretches (· = '\n') (legible text.toList)
  String.ofList (['\n'].intercalate (lines.map fillTabs))

def escape : Char := Char.ofNat 27

def inParameters (c : Char) : Bool := c = ';' || c = '?' || c.isDigit

/-- A text without the sequences that tell a terminal to change colours or to move: an escape, a
bracket, parameters and a letter. -/
def withoutEscapes : List Char → List Char
  | [] => []
  | c :: '[' :: rest =>
      match _ : rest.dropWhile inParameters with
      | letter :: after =>
          if c = escape && letter.isAlpha then withoutEscapes after
          else c :: withoutEscapes ('[' :: rest)
      | [] => c :: withoutEscapes ('[' :: rest)
  | c :: rest => c :: withoutEscapes rest
termination_by text => text.length
decreasing_by
  · rename_i behind _
    have bound := (List.dropWhile_sublist inParameters (l := rest)).length_le
    rw [behind] at bound
    simp only [List.length_cons] at bound ⊢
    omega
  all_goals exact Nat.lt_succ_self _

theorem withoutEscapes_eq_self {text : List Char} (plain : ∀ c ∈ text, c ≠ escape) :
    withoutEscapes text = text := by
  fun_induction withoutEscapes text with
  | case1 => rfl
  | case2 c rest letter after _ chosen =>
      simp only [Bool.and_eq_true, decide_eq_true_eq] at chosen
      exact absurd chosen.1 (plain c List.mem_cons_self)
  | case3 c rest letter after _ _ ih =>
      rw [ih fun d member => plain d (List.mem_cons_of_mem c member)]
  | case4 c rest _ ih => rw [ih fun d member => plain d (List.mem_cons_of_mem c member)]
  | case5 c rest _ ih => rw [ih fun d member => plain d (List.mem_cons_of_mem c member)]

theorem fillTabs_eq_self {line : List Char} (untabbed : ∀ c ∈ line, c ≠ '\t') :
    fillTabs line = line := by
  have single := @Text.stretches_eq_singleton (· = '\t') _ fun c member =>
    decide_eq_false (untabbed c member)
  simp [fillTabs, single, joinTabbed]

end NativeBoundary.CommandLine.Display

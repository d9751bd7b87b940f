import NativeBoundary.Text.Blank
import NativeBoundary.Text.LowerCase
import NativeBoundary.Text.Pictograph.Table

/-!
# Pictographs by name

A name between two colons stands for a pictograph, whatever the case of its letters. A dash and a
word behind the name choose how the pictograph is to be drawn. A name that is not in the table
stays as it is, together with both of its colons.
-/

namespace NativeBoundary.Text.Pictograph

def pairs {α : Type} : List α → List (α × α)
  | first :: second :: rest => (first, second) :: pairs rest
  | _ => []

def entries : List (List Char × List Char) :=
  (table.splitOn "\n").flatMap fun row => pairs (words row.toList)

def shape? (name : List Char) : Option (List Char) := entries.lookup (lowered name)

/-- The words that choose a drawing, with the characters that say so behind a pictograph. -/
def drawings : List (List Char × Char) :=
  [("-emoji".toList, Char.ofNat 0xFE0F), ("-text".toList, Char.ofNat 0xFE0E)]

/-- The name in a code and what is to follow its pictograph. -/
def splitDrawing (code : List Char) : List Char × List Char :=
  match drawings.find? fun drawing => drawing.1.isSuffixOf code with
  | none => (code, [])
  | some (word, selector) => (code.take (code.length - word.length), [selector])

def ofCode? (code : List Char) : Option (List Char) :=
  let (name, selector) := splitDrawing code
  (shape? name).map (· ++ selector)

def inCode (c : Char) : Bool := c ≠ ':' && !isBlank c

/-- A text with the pictographs that it names in place of their codes. -/
def illustrated : List Char → List Char
  | [] => []
  | ':' :: rest =>
      match _ : rest.dropWhile inCode with
      | ':' :: after =>
          let code := rest.takeWhile inCode
          (ofCode? code).getD (':' :: code ++ [':']) ++ illustrated after
      | _ => ':' :: illustrated rest
  | c :: rest => c :: illustrated rest
termination_by text => text.length
decreasing_by
  · rename_i closing
    have bound := (List.dropWhile_sublist inCode (l := rest)).length_le
    rw [closing] at bound
    simp only [List.length_cons] at bound ⊢
    omega
  all_goals exact Nat.lt_succ_self _

end NativeBoundary.Text.Pictograph

import NativeBoundary.CommandLine.Display
import NativeBoundary.CommandLine.Style

/-!
# Styled texts

Characters, and the definitions of the styles that lie over stretches of them. A text is laid out
by dividing it into parts, filling up its tabs and cutting off its end. A style is lost where it
covers nothing of a part, while a text that stays whole keeps all its styles.
-/

namespace NativeBoundary.CommandLine

structure Span where
  start : Nat
  stop : Nat
  definition : List Char
  deriving DecidableEq, Repr

structure Styled where
  characters : List Char
  spans : List Span := []
  deriving DecidableEq, Repr

namespace Styled

/-- The part between two positions, with the styles that cover some of it. -/
def part (text : Styled) (start stop : Nat) : Styled where
  characters := (text.characters.take stop).drop start
  spans := text.spans.filterMap fun span =>
    let first := max span.start start - start
    let last := min span.stop stop - start
    if first < last then some { span with start := first, stop := last } else none

/-- The parts of the given lengths from a position on, with a gap behind each. -/
def partsFrom (text : Styled) (gap : Nat) : (start : Nat) → List Nat → List Styled
  | _, [] => []
  | start, length :: rest =>
      text.part start (start + length) :: partsFrom text gap (start + length + gap) rest

/-- Divides a text into parts of the given lengths, unless there is but one. -/
def divide (text : Styled) (gap : Nat) : List Nat → List Styled
  | [_] => [text]
  | lengths => text.partsFrom gap 0 lengths

def lines (text : Styled) : List Styled :=
  text.divide 1 ((Text.stretches (· = '\n') text.characters).map List.length)

/-- Puts other characters in the place of those of a text. Styles that begin behind the end of a
shorter text are lost. -/
def replace (text : Styled) (characters : List Char) : Styled :=
  let count := characters.length
  if text.characters.length ≤ count then { text with characters }
  else
    let kept := text.spans.filter fun span => span.start < count
    { characters, spans := kept.map fun span => { span with stop := min span.stop count } }

/-- Fills up the tabs of a line. The blanks of a tab are under the styles of the tab. -/
def fillTabs (line : Styled) : Styled :=
  let moved (position : Nat) : Nat := (Display.fillTabs (line.characters.take position)).length
  if line.characters.contains '\t' then
    { characters := Display.fillTabs line.characters
      spans := (line.spans.filter fun span => span.start < span.stop).map fun span =>
        { span with start := moved span.start, stop := moved span.stop } }
  else line

def isEdge (text : Styled) (position : Nat) : Bool :=
  text.spans.any fun span => position = span.start || position = span.stop

/-- Parts characters in front of each position of a kind. The first argument is the position of the
first of them. -/
def partAt (isCut : Nat → Bool) : Nat → List Char → List (List Char)
  | _, [] => []
  | position, c :: rest =>
      match partAt isCut (position + 1) rest with
      | [] => [[c]]
      | first :: others =>
          if isCut (position + 1) then [c] :: first :: others else (c :: first) :: others

/-- The runs of characters between the edges of the styles. -/
def runs (text : Styled) : List (List Char) := partAt text.isEdge 0 text.characters

/-- Whether all styles can be worked out. -/
def isReadable (text : Styled) : Bool :=
  text.spans.all fun span =>
    match Style.read span.definition with
    | .error .unreadableNumber => false
    | _ => true

theorem flatten_partAt (isCut : Nat → Bool) (position : Nat) (characters : List Char) :
    (partAt isCut position characters).flatten = characters := by
  induction characters generalizing position with
  | nil => rfl
  | cons c rest ih =>
      have others := ih (position + 1)
      unfold partAt
      split
      · rename_i empty
        rw [empty] at others
        simp [← others]
      · rename_i first behind parted
        rw [parted] at others
        split <;> simp [← others]

theorem flatten_runs (text : Styled) : text.runs.flatten = text.characters :=
  flatten_partAt _ _ _

theorem lines_of_unbroken {text : Styled} (unbroken : ∀ c ∈ text.characters, c ≠ '\n') :
    text.lines = [text] := by
  have single := @Text.stretches_eq_singleton (· = '\n') _ fun c member =>
    decide_eq_false (unbroken c member)
  simp [lines, single, divide]

end Styled

end NativeBoundary.CommandLine

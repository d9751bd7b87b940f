import NativeBoundary.CommandLine.Styled
import NativeBoundary.Text.Cluster

/-!
# Grids

A table of styled texts. A column is as wide as the widest line of its cells, where a tab counts
for nothing yet; lines that turn out longer, once their tabs are filled up, break in front of a
word, and a first word that is itself too long ends in an ellipsis. A row takes as many lines as
its tallest cell.
-/

namespace NativeBoundary.CommandLine.Grid

def widest (cell : Styled) : Nat :=
  let lines := Text.stretches Text.isLineBreak cell.characters
  lines.foldl (fun width line => max width (Text.cellCount line)) 0

/-- The width of each column, given the heads of the columns and the rows. -/
def widths (heads : List Styled) (rows : List (List Styled)) : List Nat :=
  rows.foldl (fun widths cells => widths.zipWith max (cells.map widest)) (heads.map widest)

/-- A word with the blanks behind it, and the text behind those. -/
def splitWord (text : List Char) : List Char × List Char :=
  let inWord (c : Char) : Bool := !Text.isBlank c
  let tail := text.dropWhile inWord
  (text.takeWhile inWord ++ tail.takeWhile Text.isBlank, tail.dropWhile Text.isBlank)

/-- The words of a line, each with the blanks behind it and the first with those in front of it as
well. The first argument bounds the number of words. -/
def spacedWords : Nat → List Char → List (List Char)
  | 0, _ => []
  | bound + 1, text =>
      let indent := text.takeWhile Text.isBlank
      let (word, rest) := splitWord (text.dropWhile Text.isBlank)
      if word.isEmpty then [] else (indent ++ word) :: spacedWords bound rest

/-- Joins words to lines: a word that does not fit behind the others opens a further line. The
third argument is the line begun so far, the last one the cells of its words. -/
def breakWords (width : Nat) : List (List Char) → (line : List Char) → Nat → List (List Char)
  | [], line, _ => [line]
  | word :: rest, line, cells =>
      let needed := Text.cellCount (Text.trimEnd Text.isBlank word)
      if line.isEmpty || cells + needed ≤ width then
        breakWords width rest (line ++ word) (cells + Text.cellCount word)
      else line :: breakWords width rest word (Text.cellCount word)

/-- The lines into which a line breaks so that each fits, as far as words can be kept together. -/
def brokenLines (width : Nat) (line : List Char) : List (List Char) :=
  match spacedWords line.length line with
  | [] => [line]
  | words => breakWords width words [] 0

/-- Drops blanks from the end of a line that has more characters than a column has cells. -/
def dropExcess (width : Nat) (line : List Char) : List Char :=
  let blanks := line.length - (Text.trimEnd Text.isBlank line).length
  line.take (line.length - min blanks (line.length - width))

def ellipsis : Char := Char.ofNat 0x2026

def blanks (cells : Nat) : List Char := List.replicate cells ' '

/-- A beginning of a line filled up to the given cells. -/
def fitCells (cells : Nat) (line : List Char) : List Char :=
  let kept := Text.takeClusters cells (Text.clusters line)
  kept.flatMap Text.Cluster.characters ++ blanks (cells - Text.total (kept.map Text.Cluster.cells))

/-- Fills a line up to the width of a column, or puts an ellipsis in the place of its end. -/
def fit (width : Nat) (line : List Char) : List Char :=
  let cells := Text.cellCount line
  if width < cells then fitCells (width - 1) line ++ [ellipsis] else line ++ blanks (width - cells)

/-- The first runs of a line that together take the given cells, the last of them cut short. -/
def takeRuns : Nat → List (List Char) → List (List Char)
  | _, [] => []
  | room, run :: rest =>
      let cells := Text.cellCount run
      if cells < room then run :: takeRuns (room - cells) rest
      else if cells = room then [run]
      else [fitCells room run]

/-- Cuts a line whose runs, each measured by itself, take more cells than a column has. -/
def crop (width : Nat) (line : Styled) : Styled :=
  if width < Text.total (line.runs.map Text.cellCount) then
    { line with characters := (takeRuns width line.runs).flatten }
  else line

/-- The lines that a cell takes in a column. -/
def cellLines (width : Nat) (cell : Styled) : List Styled :=
  cell.lines.flatMap fun line =>
    let filled := line.fillTabs
    let lengths := (brokenLines width filled.characters).map List.length
    (filled.divide 0 lengths).map fun part =>
      let shortened := part.replace (dropExcess width part.characters)
      crop width (shortened.replace (fit width shortened.characters))

def rowLines (widths : List Nat) (cells : List Styled) : List (List Styled) :=
  let columns := widths.zipWith cellLines cells
  let height := columns.foldl (fun height lines => max height lines.length) 0
  (List.range height).map fun position =>
    columns.map fun lines => (lines[position]?).getD ⟨[], []⟩

/-- The lines of the rows, cell by cell. -/
def lines (heads : List Styled) (rows : List (List Styled)) : List (List Styled) :=
  rows.flatMap (rowLines (widths heads rows))

def rule : String := String.singleton (Char.ofNat 0x2502)

/-- A line of cells between upright rules. -/
def ruled (cells : List String) : String :=
  rule ++ String.join (cells.map fun cell => " " ++ cell ++ " " ++ rule)

end NativeBoundary.CommandLine.Grid

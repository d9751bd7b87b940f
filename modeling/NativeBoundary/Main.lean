import NativeBoundary.CommandLine.Report

/-!
# The program

Reads the files that the command names, runs it on them, and prints its report. Usage faults, the
log and failures that end the program go to the error stream.
-/

namespace NativeBoundary.CommandLine

/-- The reason why a file has no text, for the reasons that are told. -/
def faultOf? : IO.Error → Option FileFault
  | .noFileOrDirectory .. => some .missing
  | .inappropriateType _ code _ => some (if code = 21 then .folder else .belowFile)
  | .invalidArgument _ 36 _ => some .longName
  | _ => none

def spelled (text : String) : String := String.ofList (Text.Surrogate.spelled text.toList)

def readFile (path : Path) : IO (Except FileFault String) := do
  match ← (IO.FS.readFile (spelled path.text)).toBaseIO with
  | .ok text => return .ok (Text.Surrogate.keptText text)
  | .error error =>
      match faultOf? error with
      | some fault => return .error fault
      | none => throw error

def sourceOf (files : List (Path × Except FileFault String)) : FileSource := fun path =>
  (files.lookup path).getD (.error .missing)

def padded (width : Nat) (text : String) : String :=
  text ++ String.ofList (List.replicate (width - Text.cellCount text.toList) ' ')

/-- The lines of a table whose columns are as wide as their widest cells. -/
def tableLines (rows : List (List String)) : List String :=
  let cells (text : String) : Nat := Text.cellCount text.toList
  let width (column : Nat) : Nat :=
    rows.foldl (fun widest row => max widest ((row[column]?.map cells).getD 0)) 0
  rows.map fun row => Grid.ruled (row.mapIdx fun column cell => padded (width column) cell)

def printReport (report : Report) : IO UInt32 := do
  for line in report.log do
    IO.eprintln (spelled line)
  for line in report.output do
    IO.println (spelled line)
  match report.table with
  | some rows =>
      for line in tableLines (Report.columns :: rows) do
        IO.println (spelled line)
  | none => pure ()
  match report.failure with
  | some failure => if failure.told.isNone then IO.eprintln "The build ended unexpectedly."
  | none => pure ()
  return report.exitCode

def perform (words : List String) : IO UInt32 := do
  match Command.read (words.map Text.Surrogate.keptText) with
  | .error fault =>
      IO.eprintln (spelled fault.text)
      return 2
  | .ok command =>
      let files ← command.paths.mapM fun path => return (path, ← readFile path)
      printReport (command.run (sourceOf files))

end NativeBoundary.CommandLine

def main (words : List String) : IO UInt32 :=
  NativeBoundary.CommandLine.perform words

import NativeBoundary.CommandLine.Grammar
import NativeBoundary.Path

/-!
# Commands

The version of the program, the checksum of one document, or the inspection of a document together
with files of metadata and settings. Options in front of the command belong to the whole program,
those behind it to the command.
-/

namespace NativeBoundary.CommandLine

structure Inspection where
  document : Path
  metadata : List Path := []
  settings : Option Path := none
  verbose : Bool := false
  deriving DecidableEq, Repr

inductive Command where
  | version
  | checksum (document : Path)
  | inspect (request : Inspection)
  deriving DecidableEq, Repr

namespace Command

/-- The words that an inspection is given, before they are taken as paths. -/
structure Choices where
  metadata : List String := []
  settings : Option String := none
  verbose : Bool := false
  deriving DecidableEq

/-- Whether the version is asked for. -/
def programGrammar : Grammar Bool where
  long := [("--version", .flag fun _ => true)]
  short := [('V', .flag fun _ => true)]
  interspersed := false

def inspectGrammar : Grammar Choices where
  long := [("--metadata", .valued addMetadata), ("--config", .valued setSettings),
    ("--verbose", .flag fun choices => { choices with verbose := true })]
  short := [('m', .valued addMetadata), ('c', .valued setSettings)]
where
  addMetadata (word : String) (choices : Choices) : Choices :=
    { choices with metadata := choices.metadata ++ [word] }
  setSettings (word : String) (choices : Choices) : Choices :=
    { choices with settings := some word }

/-- The path that a word names. No path holds a null character. -/
def path (word : String) : Except UsageFault Path :=
  if word.contains (Char.ofNat 0) then .error (.brokenPath word) else .ok (Path.ofString word)

def onlyPath : List String → Except UsageFault Path
  | [] => .error .missingArgument
  | [word] => path word
  | _ :: word :: _ => .error (.extraArgument word)

def read (words : List String) : Except UsageFault Command := do
  let (versionAsked, rest) ← programGrammar.read false words
  if versionAsked then return .version
  else
    match rest with
    | [] => throw .missingCommand
    | "checksum" :: arguments =>
        let (_, plain) ← Grammar.read {} () arguments
        return .checksum (← onlyPath plain)
    | "inspect" :: arguments =>
        let (choices, plain) ← inspectGrammar.read {} arguments
        let document ← onlyPath plain
        let metadata ← choices.metadata.mapM path
        let settings ← choices.settings.mapM path
        return .inspect { document, metadata, settings, verbose := choices.verbose }
    | name :: _ => throw (.unknownCommand name)

end Command

end NativeBoundary.CommandLine

import NativeBoundary.Build
import NativeBoundary.CommandLine.Command
import NativeBoundary.CommandLine.Grid
import NativeBoundary.CommandLine.Markup
import NativeBoundary.Document.Record
import NativeBoundary.Metadata.Record
import NativeBoundary.Settings.Load

/-!
# Reports

What a command answers: paragraphs of output, a table of the foreign functions, the log of a
verbose inspection, and the failure that ended it. Settings are loaded first, then the document,
then the metadata in the order given; only then is the interface built. A failure that input may
well cause is told in the output; the others end the program without a word there.
-/

namespace NativeBoundary.CommandLine

inductive Failure where
  | settings (fault : Settings.Fault)
  | unreadable (path : Path) (fault : FileFault)
  | document (issues : List Schema.Issue)
  | metadataText (path : Path)
  | longNumeral (digits : Nat)
  | tooDeep (path : Path)
  | metadata (fault : Metadata.Fault)
  | build (problem : Problem)
  | markup (fault : Markup.Fault)
  | halfPair
  deriving DecidableEq

/-- What is told of a failure, unless it ends the program. -/
def Failure.told : Failure → Option String
  | .settings (.notTable _) | .settings (.withoutNames _) => none
  | .settings fault => some fault.text
  | .unreadable path fault => some (fault.text path)
  | .document _ => some "Invalid interface document"
  | .metadataText path => some s!"Malformed metadata in {path.text}"
  | .longNumeral digits => some (Text.Numeral.tooLongText digits)
  | .tooDeep _ => none
  | .metadata .notCollection => none
  | .metadata (.issues _) => some "Invalid metadata records"
  | .build problem =>
      match problem.breakdown? with
      | none => some problem.message
      | some .incompleteType => none
      | some reason => reason.text?
  | .markup _ | .halfPair => none

structure Report where
  output : List String := []
  table : Option (List (List String)) := none
  log : List String := []
  failure : Option Failure := none
  deriving DecidableEq

namespace Report

def columns : List String := ["Symbol", "Arguments", "Returns"]

def tableTitle : String := "FFI functions"

/-- Only a text in which no half of a surrogate pair stands alone can be shown. -/
def checkWhole (text : String) : Except Failure Unit :=
  if Text.Surrogate.isWhole text.toList then .ok () else .error .halfPair

def failed (failure : Failure) (log : List String) : Report :=
  let told := (failure.told.map fun text => Display.plain ("Error: " ++ text)).toList
  match told.mapM checkWhole with
  | .ok _ => { output := told, log, failure := some failure }
  | .error other => { log, failure := some other }

def exitCode (report : Report) : UInt32 :=
  if report.failure.isSome then 1 else 0

end Report

def eventText : Event → String
  | .bound name kind => s!"bridgegen.core.type_universe: Defined type {name} as {kind.name}"
  | .discovered count => s!"bridgegen.core.finder: Discovered {count} type definitions"
  | .added kind name => s!"bridgegen.core.interface: Added {kind.label} {name}"
  | .merged crate => s!"bridgegen.core.metadata: Added metadata for namespace {crate}"
  | .resolved summary => s!"bridgegen.core.builder: Resolved declarations: {summary}"
  | .derived space => s!"bridgegen.core.interface: Derived FFI functions with prefix {space}"
  | .completed space functions =>
      s!"bridgegen.core.builder: FFI namespace {space} with {functions} functions"

def logText (event : Event) : String :=
  String.ofList (Text.Quoted.withoutHalves (eventText event).toList)

def loadDocument (source : FileSource) (path : Path) : Except Failure Document :=
  match source path with
  | .error fault => .error (.unreadable path fault)
  | .ok text => (Document.load text).mapError .document

def loadMetadata (source : FileSource) : List Path → Except Failure (List Metadata.Item)
  | [] => .ok []
  | path :: rest =>
      match source path with
      | .error fault => .error (.unreadable path fault)
      | .ok text =>
          match Json.read .collection text with
          | .error .malformed => .error (.metadataText path)
          | .error .tooDeep => .error (.tooDeep path)
          | .error (.longNumeral digits) => .error (.longNumeral digits)
          | .ok json => do
              let items ← (Metadata.readItems json).mapError .metadata
              let others ← loadMetadata source rest
              return items ++ others

def buildFrom (source : FileSource) (document : Path) (metadata : List Path)
    (settings : Option Path) : Except Failure (Outcome Interface Unit) := do
  let settings ← (Settings.load source settings).mapError .settings
  let document ← loadDocument source document
  let items ← loadMetadata source metadata
  return Interface.buildOutcome (some document) items settings

def symbolText (interface : Interface) : String :=
  Interface.hexText 16 interface.checksum ++ " " ++ interface.symbolSpace

def checksumReport (source : FileSource) (document : Path) : Report :=
  match buildFrom source document [] none with
  | .error failure => Report.failed failure []
  | .ok ⟨.error problem, _, _⟩ => Report.failed (.build problem) []
  | .ok ⟨.ok _, interface, _⟩ =>
      { output := [String.ofList (Display.withoutEscapes (symbolText interface).toList)] }

def countsText (interface : Interface) : String :=
  s!"{interface.records.length} records, {interface.enums.length} enums, " ++
    s!"{interface.errors.length} errors, {interface.functions.length} functions, " ++
    s!"{interface.objects.length} objects, {interface.callbacks.length} callback interfaces"

def headings (interface : Interface) : List String :=
  ["Namespace: " ++ interface.spaceTag.shown,
    "Checksum: " ++ Interface.hexText 16 interface.checksum,
    "FFI namespace: " ++ interface.symbolSpace]

def row (function : ForeignFunction) : List String :=
  [function.name, function.argumentsText, function.resultText]

def shownText (marked : String) : Except Failure String := do
  let text ← (Markup.text marked).mapError .markup
  Report.checkWhole text
  return text

/-- Shows marked texts in turn up to the first that cannot be shown. -/
def showAll : List String → List String × Option Failure
  | [] => ([], none)
  | marked :: rest =>
      match shownText marked with
      | .error failure => ([], some failure)
      | .ok text =>
          let (others, failure) := showAll rest
          (text :: others, failure)

def readCells (texts : List (List String)) : Except Failure (List (List Styled)) :=
  (texts.mapM (List.mapM Markup.read)).mapError .markup

def showCell (cell : Styled) : Except Failure String :=
  (Markup.shown [cell]).mapError .markup

/-- The cells of a table line by line. All texts are read, one column after the other, before the
first style is worked out. -/
def showTable (heads : List String) (rows : List (List String)) :
    Except Failure (List (List String)) := do
  let inColumn (column : Nat) : List String := rows.filterMap (·[column]?)
  let _ ← readCells ((List.range heads.length).map inColumn)
  let cells ← readCells rows
  let lines := Grid.lines (heads.map fun head => ⟨head.toList, []⟩) cells
  let shown ← lines.mapM fun line => line.mapM showCell
  let _ ← shown.flatten.mapM Report.checkWhole
  return shown

def interfaceReport (interface : Interface) (log : List String) : Report :=
  match showAll (headings interface ++ [countsText interface]) with
  | (shown, some failure) => { output := shown, log, failure := some failure }
  | (shown, none) =>
      match showTable Report.columns (interface.foreignFunctions.map row) with
      | .error failure => { output := shown, log, failure := some failure }
      | .ok lines => { output := shown ++ [Report.tableTitle], table := some lines, log }

def inspectionReport (source : FileSource) (request : Inspection) : Report :=
  match buildFrom source request.document request.metadata request.settings with
  | .error failure => Report.failed failure []
  | .ok outcome =>
      let log := if request.verbose then outcome.events.map logText else []
      match outcome.result with
      | .error problem => Report.failed (.build problem) log
      | .ok _ => interfaceReport outcome.state log

def versionText : String := "bridgegen " ++ Interface.defaultVersion.shown

def Command.run (source : FileSource) : Command → Report
  | .version => { output := [versionText] }
  | .checksum document => checksumReport source document
  | .inspect request => inspectionReport source request

/-- The files that a command reads. -/
def Command.paths : Command → List Path
  | .version => []
  | .checksum document => [document]
  | .inspect request => request.settings.toList ++ request.document :: request.metadata

end NativeBoundary.CommandLine

import NativeBoundary.Document.Detail
import NativeBoundary.Interface.Consistency
import NativeBoundary.Metadata.Merge
import NativeBoundary.Settings.Basic

/-!
# Building an interface

A document, metadata items and settings make one interface. All names of both sources are bound
before any declaration is added, so either may refer to the other. The namespace is that of the
document, else that of the settings, else the crate of the metadata. A consistent interface gets
its foreign functions and is finalized; the first problem ends the build.
-/

namespace NativeBoundary.Interface

/-- Gives an interface without a namespace the first of two that is not blank. -/
def fallBackSpace (settings : Settings) (crate : Option String) : Action Interface Unit := do
  let interface ← Action.get
  if interface.space.isNone then
    match Tag.orElse settings.spaceTag (crate.map Tag.text) with
    | none => return ()
    | some tag => addSpace tag none

def assemble (document : Option Document) (items : List Metadata.Item) (settings : Settings) :
    Action Interface Unit := do
  let declarations := (document.map Document.definitions).getD []
  let group ← Action.lift (Metadata.Group.ofItems items)
  onRegistry (Registry.discover declarations)
  onRegistry group.discover
  declare declarations
  populate group
  fallBackSpace settings group.crate
  let declared ← Action.get
  if declared.spaceTag.isWritten then Action.note (.resolved declared.summary)
  Action.lift declared.check
  derive
  let derived ← Action.get
  Action.note (.completed derived.symbolSpace derived.foreignFunctions.length)
  finalize

/-- Everything that comes of a build: its result, and the events on the way. -/
def buildOutcome (document : Option Document) (items : List Metadata.Item) (settings : Settings) :
    Outcome Interface Unit :=
  (assemble document items settings).run (empty settings.versionTag)

def build (document : Option Document) (items : List Metadata.Item) (settings : Settings) :
    Except Problem Interface :=
  let outcome := buildOutcome document items settings
  match outcome.result with
  | .ok _ => .ok outcome.state
  | .error problem => .error problem

end NativeBoundary.Interface

import NativeBoundary.Digest.Sha256
import NativeBoundary.Json.Canonical
import NativeBoundary.Model.Foreign
import NativeBoundary.Model.Written
import NativeBoundary.Model.Record
import NativeBoundary.Problem
import NativeBoundary.Registry.Basic

/-!
# The interface

The declarations of an interface in six lists, the registry of their types, and the checksum that
ties foreign symbols to them. The checksum digests the canonical text of the version, the namespace
and the declarations; its low sixteen bits are part of the symbol space.
-/

namespace NativeBoundary

structure Interface where
  version : Tag
  registry : Registry := {}
  space : Option Tag := none
  enums : List Model.Union := []
  records : List Model.Record := []
  functions : List Model.Function := []
  objects : List Model.Object := []
  callbacks : List Model.CallbackInterface := []
  errors : List Model.Union := []
  finalized : Bool := false
  deriving DecidableEq

namespace Interface

def defaultVersion : Tag := .text "0.3.0"

/-- An interface without declarations, under the given version unless that is blank. -/
def empty (version : Option Tag) : Interface where
  version := (Tag.orElse version none).getD defaultVersion

/-- The namespace, which is the empty text as long as none is given. -/
def spaceTag (interface : Interface) : Tag :=
  (Tag.orElse interface.space none).getD (.text "")

def hasSpace (interface : Interface) : Bool := interface.space.isSome

def enum? (name : String) (interface : Interface) : Option Model.Union :=
  interface.enums.find? fun declared => declared.name == name

def record? (name : String) (interface : Interface) : Option Model.Record :=
  interface.records.find? fun declared => declared.name == name

def function? (name : String) (interface : Interface) : Option Model.Function :=
  interface.functions.find? fun declared => declared.name == name

def object? (name : String) (interface : Interface) : Option Model.Object :=
  interface.objects.find? fun declared => declared.name == name

def callback? (name : String) (interface : Interface) : Option Model.CallbackInterface :=
  interface.callbacks.find? fun declared => declared.name == name

def error? (name : String) (interface : Interface) : Option Model.Union :=
  interface.errors.find? fun declared => declared.name == name

def types (interface : Interface) : List Ty := interface.registry.known

def type? (name : String) (interface : Interface) : Option Ty := interface.registry.type? name

/-- The six lists of declarations as JSON, without anything derived from them. -/
def declarationsJson (interface : Interface) : List (String × Json) :=
  [("enums", Json.list Model.Union.toJson interface.enums),
    ("records", Json.list Model.Record.toJson interface.records),
    ("functions", Json.list Model.Function.toJson interface.functions),
    ("objects", Json.list Model.Object.toJson interface.objects),
    ("callback_interfaces", Json.list Model.CallbackInterface.toJson interface.callbacks),
    ("errors", Json.list Model.Union.toJson interface.errors)]

/-- What the checksum digests. -/
def payload (interface : Interface) : Json :=
  .object ([("generator_version", interface.version.value),
    ("namespace", interface.spaceTag.value)] ++ interface.declarationsJson)

/-- The first sixty-four bits of the digest of the canonical text, which is plain ASCII. -/
def checksumOf (json : Json) : Nat :=
  Digest.Sha256.leading64 (json.canonical.map fun c => UInt8.ofNat c.toNat)

/-- The types that stand in the payload. -/
def writtenTypes (interface : Interface) : List Ty :=
  interface.enums.flatMap Model.Union.writtenTypes ++
    interface.records.flatMap Model.Record.writtenTypes ++
    interface.functions.flatMap Model.Function.writtenTypes ++
    interface.objects.flatMap Model.Object.writtenTypes ++
    interface.callbacks.flatMap Model.CallbackInterface.writtenTypes ++
    interface.errors.flatMap Model.Union.writtenTypes

/-- What keeps the checksum and the symbol space from being written: a number that is too long, or a
type that is nested too deeply. -/
def breakdown? (interface : Interface) : Option Breakdown :=
  if !interface.spaceTag.isWritten then some .longNumeral
  else if interface.writtenTypes.any (Model.deepestWritten < ·.height) then some .deepRecord
  else if !interface.version.isWritten then some .longNumeral
  else none

def checksum (interface : Interface) : Nat := checksumOf interface.payload

def hexText (width n : Nat) : String := String.ofList (Text.hexDigits width n)

/-- The namespace and the low sixteen bits of the checksum; every foreign symbol carries it. -/
def symbolSpace (interface : Interface) : String :=
  interface.spaceTag.shown ++ "_" ++ hexText 4 interface.checksum

/-- The functions derived for objects, callback interfaces and top-level functions. -/
def derivedFunctions (interface : Interface) : List ForeignFunction :=
  interface.objects.flatMap Model.Object.foreignFunctions ++
    interface.callbacks.filterMap Model.CallbackInterface.register ++
    interface.functions.filterMap Model.Function.foreign

def foreignFunctions (interface : Interface) : List ForeignFunction :=
  interface.derivedFunctions ++ Model.bufferFunctions interface.symbolSpace

/-- One line that counts the declarations. -/
def summary (interface : Interface) : String :=
  s!"ComponentInterface(namespace={interface.spaceTag.quoted}, " ++
    s!"records={interface.records.length}, enums={interface.enums.length}, " ++
    s!"errors={interface.errors.length}, functions={interface.functions.length}, " ++
    s!"objects={interface.objects.length}, " ++
    s!"callback_interfaces={interface.callbacks.length})"

end Interface

end NativeBoundary

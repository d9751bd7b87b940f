import NativeBoundary.Location

/-!
# Attributes

The closed set of attributes that declarations can carry, and the sites at which they are written.
Some attributes are flags and take no value, the others need one; every site accepts some kinds of
attribute and no others.
-/

namespace NativeBoundary

inductive AttributeKind where
  | byRef | enum | error | name | self | threadsafe | throws | external | custom
  deriving DecidableEq, Repr

namespace AttributeKind

def all : List AttributeKind :=
  [.byRef, .enum, .error, .name, .self, .threadsafe, .throws, .external, .custom]

def key : AttributeKind → String
  | .byRef => "ByRef"
  | .enum => "Enum"
  | .error => "Error"
  | .name => "Name"
  | .self => "Self"
  | .threadsafe => "Threadsafe"
  | .throws => "Throws"
  | .external => "External"
  | .custom => "Custom"

def ofKey? (key : String) : Option AttributeKind :=
  all.find? fun kind => kind.key == key

theorem ofKey?_key (kind : AttributeKind) : ofKey? kind.key = some kind := by
  cases kind <;> rfl

def isFlag : AttributeKind → Bool
  | .byRef | .enum | .error | .threadsafe | .custom => true
  | _ => false

end AttributeKind

structure Attribute where
  kind : AttributeKind
  value : Option String := none
  deriving DecidableEq, Repr

/-- The positions in a declaration at which attributes are written. -/
inductive Site where
  | base | record | field | enum | interface | callbackInterface | function | argument
  | constructor | method | typedef
  deriving DecidableEq, Repr

namespace Site

def label : Site → String
  | .base => "declaration"
  | .record => "dictionaries"
  | .field => "dictionary members"
  | .enum => "enums"
  | .interface => "interfaces"
  | .callbackInterface => "callback interfaces"
  | .function => "functions"
  | .argument => "arguments"
  | .constructor => "constructors"
  | .method => "methods"
  | .typedef => "typedefs"

def accepted : Site → List AttributeKind
  | .base | .record | .field | .callbackInterface => []
  | .enum => [.error]
  | .interface => [.enum, .error, .threadsafe]
  | .function => [.throws]
  | .argument => [.byRef]
  | .constructor => [.throws, .name]
  | .method => [.throws, .self]
  | .typedef => [.external, .custom]

end Site

/-- An attribute as written: a key, perhaps a value, perhaps a location of its own. -/
structure AttributeNode where
  key : String
  value : Option String := none
  location : Option Location := none
  deriving DecidableEq, Repr

namespace AttributeNode

def toJson (node : AttributeNode) : Json :=
  .object [("key", .string node.key), ("value", Json.option .string node.value),
    ("location", Json.option Location.toJson node.location)]

def read : Json → Schema.Reading AttributeNode :=
  Schema.record fun members =>
    mk <$> Schema.required "key" Schema.string members
      <*> Schema.optional "value" Schema.string members
      <*> Schema.optional "location" Location.read members

theorem read_toJson (node : AttributeNode) : read node.toJson = .value node := by
  obtain ⟨key, value, location⟩ := node
  cases value <;> cases location <;> rfl

end AttributeNode

namespace Attribute

/-- The receiver convention under which a method takes a shared handle. -/
def sharedReceiver : String := "ByArc"

def has (kind : AttributeKind) (attributes : List Attribute) : Bool :=
  attributes.any fun entry => entry.kind == kind

def valueOf (kind : AttributeKind) (attributes : List Attribute) : Option String :=
  (attributes.find? fun entry => entry.kind == kind).bind Attribute.value

def toJson (entry : Attribute) : Json :=
  .object [("kind", .string entry.kind.key), ("value", Json.option .string entry.value)]

def read : Json → Schema.Reading Attribute :=
  Schema.record fun members =>
    mk <$> Schema.required "kind" (Schema.word AttributeKind.ofKey?) members
      <*> Schema.optional "value" Schema.string members

/-- The record form of a whole list of attributes. -/
def setToJson (attributes : List Attribute) : Json :=
  .object [("attributes", Json.list toJson attributes)]

def readSet : Json → Schema.Reading (List Attribute) :=
  Schema.record (Schema.defaulted "attributes" [] (Schema.tuple read))

end Attribute

end NativeBoundary

import NativeBoundary.Schema.Scalar
import NativeBoundary.Ty.Basic

/-!
# Types as JSON

The record form of a type: its kind by name, its own name, the list of its component types and its
source. Reading fills in the parts that are left out, and reading what was written gives the type
back.
-/

namespace NativeBoundary.Ty

mutual

def toJson : Ty → Json
  | ⟨kind, name, args, source⟩ =>
      .object [("kind", .string kind.name), ("name", Json.option .string name),
        ("args", .array (toJsonList args)), ("source", Json.option .string source)]

def toJsonList : List Ty → List Json
  | [] => []
  | type :: rest => toJson type :: toJsonList rest

end

/-- Reads a type whose components are not nested more deeply than the bound. -/
def readWithin : Nat → Json → Schema.Reading Ty
  | 0 => fun _ => Schema.refuse .tooDeep
  | bound + 1 => Schema.record fun members =>
      mk <$> Schema.required "kind" (Schema.word TyKind.ofName?) members
        <*> Schema.optional "name" Schema.string members
        <*> Schema.defaulted "args" [] (Schema.tuple (readWithin bound)) members
        <*> Schema.optional "source" Schema.string members

def read : Json → Schema.Reading Ty := readWithin Schema.deepestNesting

/-- Reads a type that is part of another record, which leaves less room for its components. -/
def readPart : Json → Schema.Reading Ty := readWithin (Schema.deepestNesting - 1)

end NativeBoundary.Ty

import NativeBoundary.Location

/-!
# Type expressions

A type as written, before its names are looked up: an identifier, a sequence of elements or a map
from keys to values, each of them perhaps nullable. The record form is permissive and may lack the
parts that its shape calls for; `TypeExpr.Complete` excludes that.
-/

namespace NativeBoundary

inductive Shape where
  | identifier | sequence | map
  deriving DecidableEq, Repr

namespace Shape

def name : Shape → String
  | .identifier => "identifier"
  | .sequence => "sequence"
  | .map => "map"

def ofName? (name : String) : Option Shape :=
  [Shape.identifier, .sequence, .map].find? fun shape => shape.name == name

end Shape

structure TypeExpr where
  shape : Shape
  name : Option String := none
  element : Option TypeExpr := none
  key : Option TypeExpr := none
  value : Option TypeExpr := none
  nullable : Bool := false
  location : Option Location := none

namespace TypeExpr

mutual

def decEq : (first second : TypeExpr) → Decidable (first = second)
  | ⟨shape, name, element, key, value, nullable, location⟩,
    ⟨shape', name', element', key', value', nullable', location'⟩ =>
      match decEqOption element element', decEqOption key key', decEqOption value value' with
      | isTrue sameElement, isTrue sameKey, isTrue sameValue =>
          if others : shape = shape' ∧ name = name' ∧ nullable = nullable' ∧
              location = location' then
            isTrue (by obtain ⟨rfl, rfl, rfl, rfl⟩ := others; rw [sameElement, sameKey, sameValue])
          else isFalse (by rintro ⟨⟩; exact others ⟨rfl, rfl, rfl, rfl⟩)
      | isFalse differ, _, _ => isFalse (by simp [differ])
      | _, isFalse differ, _ => isFalse (by simp [differ])
      | _, _, isFalse differ => isFalse (by simp [differ])

def decEqOption : (first second : Option TypeExpr) → Decidable (first = second)
  | none, none => isTrue rfl
  | none, some _ | some _, none => isFalse nofun
  | some first, some second =>
      match decEq first second with
      | isTrue same => isTrue (same ▸ rfl)
      | isFalse differ => isFalse (by simp [differ])

end

instance : DecidableEq TypeExpr := decEq

def named (name : String) : TypeExpr := { shape := .identifier, name := some name }

def sequenceOf (element : TypeExpr) : TypeExpr := { shape := .sequence, element := some element }

def mapOf (key value : TypeExpr) : TypeExpr :=
  { shape := .map, key := some key, value := some value }

/-- What is written where a part is absent. -/
def absentText : String := "None"

mutual

/-- The text of an expression in the spelling of an interface document. -/
def text : TypeExpr → String
  | ⟨shape, name, element, key, value, nullable, _⟩ =>
      let plain :=
        match shape with
        | .identifier => name.getD absentText
        | .sequence => "sequence<" ++ textOption element ++ ">"
        | .map => "record<" ++ textOption key ++ ", " ++ textOption value ++ ">"
      if nullable then plain ++ "?" else plain

def textOption : Option TypeExpr → String
  | none => absentText
  | some expr => text expr

end

mutual

/-- How deeply expressions are nested in an expression; an identifier has height one. -/
def height : TypeExpr → Nat
  | ⟨_, _, element, key, value, _, _⟩ =>
      max (heightOption element) (max (heightOption key) (heightOption value)) + 1

def heightOption : Option TypeExpr → Nat
  | none => 0
  | some expr => height expr

end

mutual

def toJson : TypeExpr → Json
  | ⟨shape, name, element, key, value, nullable, location⟩ =>
      .object [("kind", .string shape.name), ("name", Json.option .string name),
        ("element", toJsonOption element), ("key", toJsonOption key),
        ("value", toJsonOption value), ("nullable", .bool nullable),
        ("location", Json.option Location.toJson location)]

def toJsonOption : Option TypeExpr → Json
  | none => .null
  | some expr => toJson expr

end

/-- Reads an expression that is not nested more deeply than the bound. -/
def readWithin : Nat → Json → Schema.Reading TypeExpr
  | 0 => fun _ => Schema.refuse .tooDeep
  | bound + 1 => Schema.record fun members =>
      mk <$> Schema.required "kind" (Schema.word Shape.ofName?) members
        <*> Schema.optional "name" Schema.string members
        <*> Schema.optional "element" (readWithin bound) members
        <*> Schema.optional "key" (readWithin bound) members
        <*> Schema.optional "value" (readWithin bound) members
        <*> Schema.defaulted "nullable" false Schema.boolean members
        <*> Schema.optional "location" Location.read members

/-- Reads an expression out of a document, whose own nesting is limited enough. -/
def read (json : Json) : Schema.Reading TypeExpr := readWithin json.height json

/-- Reads an expression that stands alone. -/
def readAlone : Json → Schema.Reading TypeExpr := readWithin Schema.deepestNesting

mutual

/-- Every node has the parts that its shape calls for. -/
def Complete : TypeExpr → Prop
  | ⟨shape, name, element, key, value, _, _⟩ =>
      match shape with
      | .identifier => name.isSome
      | .sequence => CompleteOption element
      | .map => CompleteOption key ∧ CompleteOption value

def CompleteOption : Option TypeExpr → Prop
  | none => False
  | some expr => Complete expr

end

end TypeExpr

end NativeBoundary

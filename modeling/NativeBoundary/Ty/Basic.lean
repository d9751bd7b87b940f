import NativeBoundary.Json.Basic

/-!
# Types

A resolved type is a kind with the parts that the kind calls for: the component types of an
optional, a sequence or a map, the name of a declared type, the source of an external one, the
representation of a custom one. The record is permissive; `Ty.WellFormed` says which parts belong
together.
-/

namespace NativeBoundary

inductive TyKind where
  | boolean | i8 | u8 | i16 | u16 | i32 | u32 | i64 | u64 | f32 | f64 | string | bytes
  | optional | sequence | map
  | record | enum | object | callbackInterface | error
  | external | custom
  deriving DecidableEq, Repr

namespace TyKind

def all : List TyKind :=
  [.boolean, .i8, .u8, .i16, .u16, .i32, .u32, .i64, .u64, .f32, .f64, .string, .bytes,
    .optional, .sequence, .map, .record, .enum, .object, .callbackInterface, .error,
    .external, .custom]

def name : TyKind → String
  | .boolean => "boolean"
  | .i8 => "i8"
  | .u8 => "u8"
  | .i16 => "i16"
  | .u16 => "u16"
  | .i32 => "i32"
  | .u32 => "u32"
  | .i64 => "i64"
  | .u64 => "u64"
  | .f32 => "f32"
  | .f64 => "f64"
  | .string => "string"
  | .bytes => "bytes"
  | .optional => "optional"
  | .sequence => "sequence"
  | .map => "map"
  | .record => "record"
  | .enum => "enum"
  | .object => "object"
  | .callbackInterface => "callback_interface"
  | .error => "error"
  | .external => "external"
  | .custom => "custom"

def ofName? (name : String) : Option TyKind :=
  all.find? fun kind => kind.name == name

theorem ofName?_name (kind : TyKind) : ofName? kind.name = some kind := by
  cases kind <;> rfl

/-- The width of an integer kind in bits and whether it has a sign. -/
def integerWidth? : TyKind → Option (Bool × Nat)
  | .i8 => some (true, 8)
  | .u8 => some (false, 8)
  | .i16 => some (true, 16)
  | .u16 => some (false, 16)
  | .i32 => some (true, 32)
  | .u32 => some (false, 32)
  | .i64 => some (true, 64)
  | .u64 => some (false, 64)
  | _ => none

def isFloat : TyKind → Bool
  | .f32 | .f64 => true
  | _ => false

def isUnsigned : TyKind → Bool
  | .u8 | .u16 | .u32 | .u64 => true
  | _ => false

def isBuiltin : TyKind → Bool
  | .boolean | .i8 | .u8 | .i16 | .u16 | .i32 | .u32 | .i64 | .u64 | .f32 | .f64 | .string
  | .bytes => true
  | _ => false

/-- The kinds that a declaration introduces and that carry only its name. -/
def isDeclared : TyKind → Bool
  | .record | .enum | .object | .callbackInterface | .error => true
  | _ => false

end TyKind

structure Ty where
  kind : TyKind
  name : Option String := none
  args : List Ty := []
  source : Option String := none

namespace Ty

mutual

def decEq : (first second : Ty) → Decidable (first = second)
  | ⟨kind, name, args, source⟩, ⟨kind', name', args', source'⟩ =>
      match decEqList args args' with
      | isTrue same =>
          if others : kind = kind' ∧ name = name' ∧ source = source' then
            isTrue (by obtain ⟨rfl, rfl, rfl⟩ := others; rw [same])
          else isFalse (by rintro ⟨⟩; exact others ⟨rfl, rfl, rfl⟩)
      | isFalse differ => isFalse (by simp [differ])

def decEqList : (first second : List Ty) → Decidable (first = second)
  | [], [] => isTrue rfl
  | [], _ :: _ | _ :: _, [] => isFalse nofun
  | a :: as, b :: bs =>
      match decEq a b, decEqList as bs with
      | isTrue head, isTrue tail => isTrue (head ▸ tail ▸ rfl)
      | isFalse differ, _ => isFalse (by simp [differ])
      | _, isFalse differ => isFalse (by simp [differ])

end

instance : DecidableEq Ty := decEq

def builtin (kind : TyKind) : Ty := { kind }

def optional (inner : Ty) : Ty := { kind := .optional, args := [inner] }

def sequence (inner : Ty) : Ty := { kind := .sequence, args := [inner] }

def map (key value : Ty) : Ty := { kind := .map, args := [key, value] }

def named (kind : TyKind) (name : String) : Ty := { kind, name := some name }

def external (name source : String) : Ty :=
  { kind := .external, name := some name, source := some source }

def custom (name : String) (representation : Ty) : Ty :=
  { kind := .custom, name := some name, args := [representation] }

mutual

/-- A type followed by every type structurally nested in it, outermost first. -/
def types : Ty → List Ty
  | ⟨kind, name, args, source⟩ => ⟨kind, name, args, source⟩ :: typesList args

def typesList : List Ty → List Ty
  | [] => []
  | type :: rest => types type ++ typesList rest

end

mutual

/-- How deeply types are nested in a type; one without components has height one. -/
def height : Ty → Nat
  | ⟨_, _, args, _⟩ => heightList args + 1

def heightList : List Ty → Nat
  | [] => 0
  | type :: rest => max type.height (heightList rest)

end

/-- The text of a type in the spelling of an interface document, where every part that the kind
calls for is there. -/
def text? : Ty → Option String
  | ⟨.optional, _, inner :: _, _⟩ => (text? inner).map (· ++ "?")
  | ⟨.sequence, _, inner :: _, _⟩ => (text? inner).map ("sequence<" ++ · ++ ">")
  | ⟨.map, _, key :: value :: _, _⟩ =>
      match text? key, text? value with
      | some keyText, some valueText => some ("record<" ++ keyText ++ ", " ++ valueText ++ ">")
      | _, _ => none
  | ⟨.optional, _, _, _⟩ | ⟨.sequence, _, _, _⟩ | ⟨.map, _, _, _⟩ => none
  | ⟨kind, name, _, _⟩ => some (name.getD kind.name)
termination_by structural type => type

/-- The text of a type, empty where a part is missing. -/
def text (type : Ty) : String :=
  type.text?.getD ""

def isUnsigned (type : Ty) : Bool := type.kind.isUnsigned

def isBuiltin (type : Ty) : Bool := type.kind.isBuiltin

def isDeclared (type : Ty) : Bool := type.kind.isDeclared

mutual

/-- Every part that the kind calls for is there, and no other. -/
def WellFormed : Ty → Prop
  | ⟨kind, name, args, source⟩ =>
      WellFormedList args ∧
        match kind with
        | .optional | .sequence => name = none ∧ source = none ∧ args.length = 1
        | .map => name = none ∧ source = none ∧ args.length = 2
        | .record | .enum | .object | .callbackInterface | .error =>
            name.isSome ∧ source = none ∧ args = []
        | .external => name.isSome ∧ source.isSome ∧ args = []
        | .custom => name.isSome ∧ source = none ∧
            ∃ representation, args = [representation] ∧ representation.kind.isBuiltin
        | _ => name = none ∧ source = none ∧ args = []

def WellFormedList : List Ty → Prop
  | [] => True
  | type :: rest => WellFormed type ∧ WellFormedList rest

end

end Ty

end NativeBoundary

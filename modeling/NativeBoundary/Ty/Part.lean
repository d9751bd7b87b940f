import NativeBoundary.Json.Display
import NativeBoundary.Ty.Basic

/-!
# Parts and names of types

The component types that a kind gives access to, the kinds that may be made from a bare name or
from nothing, and the spellings under which the builtin types are known in documents. A part that
the kind does not have is refused with the reason.
-/

namespace NativeBoundary.Ty

inductive Part where
  | inner
  | key
  | value
  | representation
  deriving DecidableEq, Repr

inductive PartFault where
  | wrongKind (part : Part) (type : Ty)
  | absent
  deriving DecidableEq

def PartFault.text : PartFault → String
  | .wrongKind .inner type => s!"{type.text} has no inner type"
  | .wrongKind .key type => s!"{type.text} has no key type"
  | .wrongKind .value type => s!"{type.text} has no value type"
  | .wrongKind .representation type => s!"{type.text} is not a custom type"
  | .absent => "tuple index out of range"

def Part.kinds : Part → List TyKind
  | .inner => [.optional, .sequence]
  | .key | .value => [.map]
  | .representation => [.custom]

def Part.position : Part → Nat
  | .value => 1
  | _ => 0

def part (part : Part) (type : Ty) : Except PartFault Ty :=
  if part.kinds.contains type.kind then
    match type.args[part.position]? with
    | some component => .ok component
    | none => .error .absent
  else .error (.wrongKind part type)

inductive KindFault where
  | unknown (given : Json)
  | notBuiltin (kind : TyKind)
  | notDeclared (kind : TyKind)
  deriving DecidableEq

def KindFault.text : KindFault → String
  | .unknown given => s!"{given.displayed} is not a valid TypeKind"
  | .notBuiltin kind => s!"'{kind.name}' is not a builtin type kind"
  | .notDeclared kind => s!"'{kind.name}' is not a user-defined type kind"

def kindOf : Json → Except KindFault TyKind
  | .string name =>
      match TyKind.ofName? name with
      | some kind => .ok kind
      | none => .error (.unknown (.string name))
  | given => .error (.unknown given)

def builtinOf (kind : TyKind) : Except KindFault Ty :=
  if kind.isBuiltin then .ok (builtin kind) else .error (.notBuiltin kind)

/-- A type of a kind that declarations introduce. It may lack its name. -/
def declaredOf (kind : TyKind) (name : Option String) : Except KindFault Ty :=
  if kind.isDeclared then .ok { kind, name } else .error (.notDeclared kind)

def builtinSpellings : List (String × TyKind) :=
  [("boolean", .boolean), ("i8", .i8), ("u8", .u8), ("i16", .i16), ("u16", .u16),
    ("i32", .i32), ("u32", .u32), ("i64", .i64), ("u64", .u64), ("f32", .f32), ("f64", .f64),
    ("float", .f32), ("double", .f64), ("string", .string), ("bytes", .bytes)]

def builtin? (spelling : String) : Option Ty :=
  (builtinSpellings.lookup spelling).map builtin

theorem builtin?_name {kind : TyKind} (isBuiltin : kind.isBuiltin = true) :
    builtin? kind.name = some (builtin kind) := by
  cases kind <;> first | rfl | cases isBuiltin

end NativeBoundary.Ty

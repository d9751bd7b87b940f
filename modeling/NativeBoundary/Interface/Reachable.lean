import NativeBoundary.Interface.Basic

/-!
# Reachable types

The types that can be reached from a type: its structural parts and, through every declared type
among them, the types of the members of its declaration. Each type is listed once, and each
name is asked for at most once, so declarations may refer to each other in circles. A declared type
without a name stands for the declaration of the empty name and asks for it wherever it occurs. A
chain of such types ends only if no kind occurs in it twice, so it has at most five of them; that
bounds the steps by a power of the number of types that occur.
-/

namespace NativeBoundary.Interface

/-- The member types of the declaration that a type names; none if nothing declares it. -/
def declaredTypes (interface : Interface) (type : Ty) : List Ty :=
  let name := type.name.getD ""
  match type.kind with
  | .record => ((interface.record? name).map Model.Record.types).getD []
  | .enum => ((interface.enum? name).map Model.Union.types).getD []
  | .error => ((interface.error? name).map Model.Union.types).getD []
  | .object => ((interface.object? name).map Model.Object.types).getD []
  | .callbackInterface => ((interface.callback? name).map Model.CallbackInterface.types).getD []
  | _ => []

/-- How far a traversal has come: the types found, the names of the declarations asked for, and the
types whose declarations are still to be entered, the latest first. -/
structure Traversal where
  found : List Ty := []
  asked : List String := []
  pending : List Ty := []

def Traversal.visit (traversal : Traversal) (type : Ty) : Traversal :=
  let isNew := match type.name with
    | none => true
    | some name => !traversal.asked.contains name
  let asking :=
    if type.isDeclared && isNew then
      { traversal with
        asked := type.name.getD "" :: traversal.asked
        pending := type :: traversal.pending }
    else traversal
  if type ∈ asking.found then asking else { asking with found := asking.found ++ [type] }

def expand (interface : Interface) : Nat → Traversal → Traversal
  | 0, traversal => traversal
  | bound + 1, traversal =>
      match traversal.pending with
      | [] => traversal
      | type :: rest =>
          expand interface bound ((interface.declaredTypes type).foldl Traversal.visit
            { traversal with pending := rest })

/-- The types of the members of all declarations. -/
def memberTypes (interface : Interface) : List Ty :=
  interface.records.flatMap Model.Record.types ++ interface.enums.flatMap Model.Union.types ++
    interface.errors.flatMap Model.Union.types ++ interface.objects.flatMap Model.Object.types ++
    interface.callbacks.flatMap Model.CallbackInterface.types

def reachable (interface : Interface) (type : Ty) : List Ty :=
  let bound := Nat.pow (type.types.length + interface.memberTypes.length + 1) 7
  (expand interface bound (type.types.foldl Traversal.visit {})).found

def reachesObject (interface : Interface) (type : Ty) : Bool :=
  (interface.reachable type).any fun found => found.kind == .object

def reachesUnsigned (interface : Interface) (type : Ty) : Bool :=
  (interface.reachable type).any Ty.isUnsigned

def containsKind (kind : TyKind) (interface : Interface) : Bool :=
  interface.types.any fun type => type.kind == kind

/-- Every external type with its source. -/
def externalTypes (interface : Interface) : List (String × String) :=
  interface.types.filterMap fun type =>
    if type.kind = .external then some (type.name.getD "", type.source.getD "") else none

/-- Every custom type with its representation, unless one of them has none. -/
def customTypes? (interface : Interface) : Option (List (String × Ty)) :=
  (interface.types.filter fun type => type.kind = .custom).mapM fun type =>
    type.args.head?.map (type.name.getD "", ·)

end NativeBoundary.Interface

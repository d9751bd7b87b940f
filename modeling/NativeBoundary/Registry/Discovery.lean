import NativeBoundary.Attribute.Check
import NativeBoundary.Document.Basic
import NativeBoundary.Registry.Basic

/-!
# Discovery

The type that each declaration of a document introduces, told from its kind and its attributes
alone. Discovery binds the names of all declarations before any member type is resolved, so that
declarations may refer to each other in any order.
-/

namespace NativeBoundary

namespace Document.Declaration

def problem (declaration : Declaration) (cause : Cause) : Problem :=
  ⟨cause, some declaration.name, declaration.location⟩

def checkAttributes (site : Site) (declaration : Declaration) :
    Except Problem (List Attribute) :=
  site.check (some declaration.name) declaration.location declaration.attributes

/-- A typedef is external with a source, or custom over a builtin type. -/
def typedefType (declaration : Declaration) (typeName : String) : Except Problem Ty := do
  let attributes ← declaration.checkAttributes .typedef
  let isCustom := Attribute.has .custom attributes
  match Attribute.valueOf .external attributes with
  | some source =>
      if isCustom then .error (declaration.problem (.externalAndCustom declaration.name))
      else if typeName = externalTypeName then .ok (.external declaration.name source)
      else .error (declaration.problem (.externalNotExtern declaration.name typeName))
  | none =>
      if isCustom then
        match Ty.builtin? typeName with
        | some representation => .ok (.custom declaration.name representation)
        | none => .error (declaration.problem (.customNotBuiltin declaration.name typeName))
      else .error (declaration.problem (.plainTypedef declaration.name))

/-- The type that a declaration introduces; the namespace introduces none. -/
def introduced (declaration : Declaration) : Except Problem (Option Ty) :=
  match declaration.body with
  | .space _ => .ok none
  | .dictionary _ => .ok (some (.named .record declaration.name))
  | .enum _ => do
      let attributes ← declaration.checkAttributes .enum
      let kind := if Attribute.has .error attributes then TyKind.error else .enum
      .ok (some (.named kind declaration.name))
  | .interface .. => do
      let attributes ← declaration.checkAttributes .interface
      let kind :=
        if Attribute.has .enum attributes then TyKind.enum
        else if Attribute.has .error attributes then .error
        else .object
      .ok (some (.named kind declaration.name))
  | .callbackInterface _ => .ok (some (.named .callbackInterface declaration.name))
  | .typedef typeName => do
      let type ← declaration.typedefType typeName
      .ok (some type)

end Document.Declaration

namespace Registry

/-- Binds what one declaration introduces; whether it introduces anything. -/
def discoverOne (declaration : Document.Declaration) : Action Registry Bool := do
  match ← Action.lift declaration.introduced with
  | none => return false
  | some type =>
      define declaration.name type declaration.location
      return true

def discover (declarations : List Document.Declaration) : Action Registry Unit := do
  let introduced ← Action.each discoverOne declarations
  Action.note (.discovered (introduced.countP id))

end Registry

end NativeBoundary

import NativeBoundary.Interface.Basic

/-!
# Consistency

What must hold of an interface as a whole: it has a namespace, no variant of an enum is named like
a type, every error that is thrown is declared, and every default that names a variant names one of
its enum. The first condition that fails, in this order, is reported.
-/

namespace NativeBoundary.Interface

open Model

/-- A list of attributes together with the name under which its owner is reported. -/
def throwingOf (owner : String) (attributes : List Attribute) : List (String × String) :=
  match throwsOf attributes with
  | none => []
  | some error => if error = "" then [] else [(owner, error)]

def memberName (owner member : String) : String := owner ++ "." ++ member

def objectThrows (object : Object) : List (String × String) :=
  (object.constructors.flatMap fun constructor =>
    throwingOf (memberName object.name constructor.name) constructor.attributes) ++
  object.methods.flatMap fun method =>
    throwingOf (memberName object.name method.name) method.attributes

/-- Every callable that throws, with the name of the error. -/
def throwing (interface : Interface) : List (String × String) :=
  (interface.functions.flatMap fun function => throwingOf function.name function.attributes) ++
    interface.objects.flatMap objectThrows ++
    interface.callbacks.flatMap fun callback => callback.methods.flatMap fun method =>
      throwingOf (memberName callback.name method.name) method.attributes

def enumDefault (owner member : String) (default : Option Literal) : List (String × Literal) :=
  match default with
  | none => []
  | some literal => if literal.kind = .enum then [(memberName owner member, literal)] else []

def argumentDefaults (owner : String) (arguments : List Argument) : List (String × Literal) :=
  arguments.flatMap fun argument => enumDefault owner argument.name argument.default

def objectDefaults (object : Object) : List (String × Literal) :=
  (object.constructors.flatMap fun constructor =>
    argumentDefaults (memberName object.name constructor.name) constructor.arguments) ++
  object.methods.flatMap fun method =>
    argumentDefaults (memberName object.name method.name) method.arguments

/-- Every default of a field or of an argument of a function, constructor or object method that is
meant as a variant. -/
def enumDefaults (interface : Interface) : List (String × Literal) :=
  (interface.records.flatMap fun record => record.fields.flatMap fun field =>
    enumDefault record.name field.name field.default) ++
  (interface.functions.flatMap fun function =>
    argumentDefaults function.name function.arguments) ++
  interface.objects.flatMap objectDefaults

/-- The literal is the name of a variant of the enum that its type names. -/
def isVariant (interface : Interface) (literal : Literal) : Bool :=
  match literal.type with
  | none => false
  | some type =>
      match interface.enum? (type.name.getD "") with
      | none => false
      | some declared => (declared.variant? literal.value.shown).isSome

/-- The names of the variants of all enums. -/
def variantNames (interface : Interface) : List String :=
  interface.enums.flatMap fun declared => declared.variants.map Variant.name

/-- The first of the items that a test turns down, as a problem. -/
def firstProblem {α : Type} (accepts : α → Bool) (problem : α → Problem) (items : List α) :
    Except Problem Unit :=
  match items.find? fun item => !accepts item with
  | none => .ok ()
  | some item => .error (problem item)

def check (interface : Interface) : Except Problem Unit := do
  if interface.spaceTag.isBlank then .error ⟨.noNamespace, none, none⟩
  firstProblem (fun variant => (interface.type? variant).isNone)
    (fun variant => ⟨.variantShadowsType variant, some variant, none⟩) interface.variantNames
  firstProblem (fun thrown => (interface.error? thrown.2).isSome)
    (fun thrown => ⟨.undeclaredError thrown.1 thrown.2, some thrown.1, none⟩) interface.throwing
  firstProblem (fun default => interface.isVariant default.2)
    (fun default => ⟨.danglingDefault default.2 default.1, some default.1, none⟩)
    interface.enumDefaults

end NativeBoundary.Interface

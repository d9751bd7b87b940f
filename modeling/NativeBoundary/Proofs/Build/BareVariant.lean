import NativeBoundary.Proofs.Build.Admission

/-!
# Variants without what a build overlooks

An interface that is marked as an enum or an error has its variants as operations.  Of an argument
of a variant only the name, the type and the optionality count.  Attributes and defaults that stand
there make no difference: without them, a document makes the same interface or meets the same
problem.
-/

namespace NativeBoundary

open NativeBoundary.Action

namespace Document

/-- An argument with no more than a field of a variant is made of. -/
def Argument.bare (argument : Argument) : Argument where
  name := argument.name
  type := argument.type
  optional := argument.optional

def Operation.bare (operation : Operation) : Operation :=
  { operation with arguments := operation.arguments.map Argument.bare }

theorem Operation.toVariant_bare (operation : Operation) (owner : String) :
    operation.bare.toVariant owner = operation.toVariant owner := by
  simp only [toVariant, bare, each_map]
  rfl

namespace Declaration

/-- A declaration whose variants are bare, if it is an interface that has variants. -/
def bareVariants (declaration : Declaration) : Declaration :=
  match declaration.body with
  | .interface constructors operations =>
      if declaration.isObject then declaration
      else { declaration with body := .interface constructors (operations.map Operation.bare) }
  | _ => declaration

variable {declaration : Declaration} {constructors : List Constructor} {operations : List Operation}

theorem bareVariants_of_isOther (shape : declaration.body = .interface constructors operations)
    (isOther : declaration.isObject = false) : declaration.bareVariants =
      { declaration with body := .interface constructors (operations.map Operation.bare) } := by
  simp only [bareVariants, shape, isOther, Bool.false_eq_true, if_false]

/-- Operations do not decide what an interface is. -/
theorem isObject_with (shape : declaration.body = .interface constructors operations)
    (others : List Operation) :
    isObject { declaration with body := .interface constructors others } =
      declaration.isObject := by
  simp only [isObject, shape]
  rfl

theorem bareVariants_eq_self_or (declaration : Declaration) :
    declaration.bareVariants = declaration ∨
      ∃ constructors operations, declaration.body = .interface constructors operations ∧
        declaration.isObject = false ∧ declaration.bareVariants =
          { declaration with body := .interface constructors (operations.map Operation.bare) } := by
  unfold bareVariants
  split
  · next constructors operations shape =>
    cases isObject : declaration.isObject with
    | true => exact .inl (if_pos rfl)
    | false => exact .inr ⟨constructors, operations, shape, rfl, if_neg Bool.false_ne_true⟩
  · exact .inl rfl

theorem toVariants_bare (declaration : Declaration) (constructors : List Constructor)
    (operations : List Operation) :
    declaration.toVariants constructors (operations.map Operation.bare) =
      declaration.toVariants constructors operations := by
  simp only [toVariants, List.map_map, each_map, Operation.toVariant_bare]
  rfl

theorem introduced_bareVariants (declaration : Declaration) :
    declaration.bareVariants.introduced = declaration.introduced := by
  rcases declaration.bareVariants_eq_self_or with same | ⟨constructors, operations, shape, -, same⟩
  · rw [same]
  · simp only [same, introduced, shape]
    rfl

end Declaration

end Document

open Document (Declaration Operation)

/-- A document whose variants are bare. -/
def Document.bareVariants (document : Document) : Document :=
  { document with definitions := document.definitions.map Declaration.bareVariants }

theorem Document.Declaration.bareVariants_name (declaration : Declaration) :
    declaration.bareVariants.name = declaration.name := by
  rcases declaration.bareVariants_eq_self_or with same | ⟨_, _, -, -, same⟩ <;> rw [same]

theorem Document.Declaration.bareVariants_location (declaration : Declaration) :
    declaration.bareVariants.location = declaration.location := by
  rcases declaration.bareVariants_eq_self_or with same | ⟨_, _, -, -, same⟩ <;> rw [same]

namespace Registry

theorem discoverOne_bareVariants (declaration : Declaration) :
    discoverOne declaration.bareVariants = discoverOne declaration := by
  simp only [discoverOne, Declaration.introduced_bareVariants, Declaration.bareVariants_name,
    Declaration.bareVariants_location]

theorem discover_bareVariants (declarations : List Declaration) :
    discover (declarations.map Declaration.bareVariants) = discover declarations := by
  simp only [discover, each_map, discoverOne_bareVariants]

end Registry

namespace Interface

open Metadata (Item)

theorem declareOne_bareVariants (declaration : Declaration) :
    declareOne declaration.bareVariants = declareOne declaration := by
  rcases declaration.bareVariants_eq_self_or with same |
    ⟨constructors, operations, shape, isOther, same⟩
  · rw [same]
  · simp only [same, declareOne, shape]
    refine lift_bind_congr fun attributes checked => ?_
    change declaration.checkAttributes .interface = .ok attributes at checked
    have variants : Declaration.toVariants
        { declaration with body := .interface constructors (operations.map Operation.bare) }
        constructors (operations.map Operation.bare) =
          declaration.toVariants constructors operations :=
      declaration.toVariants_bare constructors operations
    rw [has_of_checkAttributes .enum checked, has_of_checkAttributes .error checked, variants]
    simp only [Declaration.isObject, shape] at isOther
    -- The branch for objects is the only one in which the two differ.
    cases isEnum : declaration.marked .enum with
    | true => rfl
    | false =>
        cases isError : declaration.marked .error with
        | true => rfl
        | false => simp [isEnum, isError] at isOther

theorem declare_bareVariants (declarations : List Declaration) :
    declare (declarations.map Declaration.bareVariants) = declare declarations := by
  simp only [declare, forAll_map, declareOne_bareVariants]

/-- Attributes and defaults at the arguments of variants have no effect at all. -/
theorem build_bareVariants (document : Document) (items : List Item) (settings : Settings) :
    build (some document.bareVariants) items settings = build (some document) items settings := by
  have assembles : assemble (some document.bareVariants) items settings =
      assemble (some document) items settings := by
    simp only [assemble, Document.bareVariants, Option.map_some, Option.getD_some,
      Registry.discover_bareVariants, declare_bareVariants]
  rw [build, build, buildOutcome, buildOutcome, assembles]

end Interface

end NativeBoundary

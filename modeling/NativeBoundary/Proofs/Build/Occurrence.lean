import NativeBoundary.Proofs.Build.Origin
import NativeBoundary.Proofs.Registry.Binding

/-!
# Types that occur in declarations

A property of all types that expressions denote, nested ones included, is one of all types that
occur in declarations: whatever a declaration is read from, its members get their types from
expressions alone.  So every declared type that occurs in a built interface is bound to its name.
-/

namespace NativeBoundary

open Model (argumentTypes resultTypes)

/-- Every type that occurs in it has a property. -/
def Trait.throughout (holds : Ty → Prop) : Trait where
  record record := ∀ type ∈ record.types, holds type
  union union := ∀ type ∈ union.types, holds type
  callback callback := ∀ type ∈ callback.types, holds type
  function function := ∀ type ∈ function.types, holds type
  object object := ∀ type ∈ object.types, holds type

theorem Results.holds_of_mapM {α β : Type} {holds : Ty → Prop} {read : α → Except Problem β}
    {types : β → List Ty}
    (each : ∀ {item value}, read item = .ok value → ∀ type ∈ types value, holds type)
    {items : List α} {values : List β} (succeeded : items.mapM read = .ok values) :
    ∀ type ∈ values.flatMap types, holds type := by
  intro type member
  obtain ⟨value, inside, occurs⟩ := List.mem_flatMap.mp member
  obtain ⟨item, -, readItem⟩ := exists_of_map_ok (mapM_eq_ok.mp succeeded) inside
  exact each readItem type occurs

/-- What holds of the types in two lists of members holds of those in both. -/
theorem holds_append {holds : Ty → Prop} {first second : List Ty}
    (left : ∀ type ∈ first, holds type) (right : ∀ type ∈ second, holds type) :
    ∀ type ∈ first ++ second, holds type := by
  intro type member
  exact (List.mem_append.mp member).elim (left type) (right type)

/-- A property that all types have which expressions denote, with all types nested in them. -/
def Names.Gives (names : Names) (holds : Ty → Prop) : Prop :=
  ∀ (expr : TypeExpr) {type : Ty}, expr.denote names = .ok type → ∀ part ∈ type.types, holds part

variable {names : Names} {holds : Ty → Prop}

/-! ## Members of a document -/

namespace Document

theorem Argument.holds_of_denote (gives : names.Gives holds) {argument : Argument}
    {read : Model.Argument} (denoted : argument.denote names = .ok read) :
    ∀ type ∈ read.type.types, holds type := by
  obtain ⟨_, -, type, denotedType, _, -, rfl⟩ := denote_eq_ok.mp denoted
  exact gives argument.type denotedType

theorem Member.holds_of_denote (gives : names.Gives holds) {member : Member}
    {field : Model.Field} (denoted : member.denote names = .ok field) :
    ∀ type ∈ field.type.types, holds type := by
  obtain ⟨_, -, type, denotedType, _, -, rfl⟩ := denote_eq_ok.mp denoted
  exact gives member.type denotedType

theorem holds_of_denoteResult (gives : names.Gives holds) {result : Option TypeExpr}
    {read : Option Ty} (denoted : denoteResult result names = .ok read) :
    ∀ type ∈ resultTypes read, holds type := by
  cases result with
  | none =>
      cases denoted
      exact fun _ member => nomatch member
  | some expr =>
      obtain ⟨type, denotedType, finished⟩ := Results.bind_eq_ok.mp denoted
      cases finished
      exact gives expr denotedType

namespace Operation

theorem holds_of_denoteFunction (gives : names.Gives holds) {operation : Operation}
    {function : Model.Function} (denoted : operation.denoteFunction names = .ok function) :
    ∀ type ∈ function.types, holds type := by
  obtain ⟨_, -, arguments, readArguments, result, readResult, rfl⟩ :=
    denoteFunction_eq_ok.mp denoted
  exact holds_append (Results.holds_of_mapM (Argument.holds_of_denote gives) readArguments)
    (holds_of_denoteResult gives readResult)

theorem holds_of_denoteMethod (gives : names.Gives holds) {operation : Operation} {owner : String}
    {method : Model.Method} (denoted : operation.denoteMethod owner names = .ok method) :
    ∀ type ∈ method.types, holds type := by
  obtain ⟨_, -, arguments, readArguments, result, readResult, rfl⟩ :=
    denoteMethod_eq_ok.mp denoted
  exact holds_append (Results.holds_of_mapM (Argument.holds_of_denote gives) readArguments)
    (holds_of_denoteResult gives readResult)

theorem holds_of_denoteVariantField (gives : names.Gives holds) {argument : Argument}
    {field : Model.Field} (denoted : denoteVariantField argument names = .ok field) :
    ∀ type ∈ field.type.types, holds type := by
  obtain ⟨type, denotedType, rfl⟩ := denoteVariantField_eq_ok.mp denoted
  exact gives argument.type denotedType

theorem holds_of_denoteVariant (gives : names.Gives holds) {operation : Operation}
    {owner : String} {variant : Model.Variant}
    (denoted : operation.denoteVariant owner names = .ok variant) :
    ∀ type ∈ variant.types, holds type := by
  obtain ⟨-, _, -, fields, readFields, rfl⟩ := denoteVariant_eq_ok.mp denoted
  exact Results.holds_of_mapM (holds_of_denoteVariantField gives) readFields

end Operation

theorem Constructor.holds_of_denote (gives : names.Gives holds) {constructor : Constructor}
    {read : Model.Constructor} (denoted : constructor.denote names = .ok read) :
    ∀ type ∈ read.types, holds type := by
  obtain ⟨_, -, arguments, readArguments, rfl⟩ := denote_eq_ok.mp denoted
  exact Results.holds_of_mapM (Argument.holds_of_denote gives) readArguments

namespace Declaration

theorem holds_of_denoteRecord (gives : names.Gives holds) {declaration : Declaration}
    {members : List Member} {record : Model.Record}
    (denoted : declaration.denoteRecord members names = .ok record) :
    ∀ type ∈ record.types, holds type := by
  obtain ⟨_, -, -, fields, readFields, rfl⟩ := denoteRecord_eq_ok.mp denoted
  exact Results.holds_of_mapM (Member.holds_of_denote gives) readFields

theorem holds_of_denoteWords {declaration : Declaration} {values : List String}
    {union : Model.Union} (denoted : declaration.denoteWords values = .ok union) :
    ∀ type ∈ union.types, holds type := by
  obtain ⟨_, -, _, -, rfl⟩ := denoteWords_eq_ok.mp denoted
  intro type member
  simp [Model.Union.types, Model.Variant.types] at member

theorem holds_of_denoteUnion (gives : names.Gives holds) {declaration : Declaration}
    {constructors : List Constructor} {operations : List Operation} {union : Model.Union}
    (denoted : declaration.denoteUnion constructors operations names = .ok union) :
    ∀ type ∈ union.types, holds type := by
  obtain ⟨-, -, variants, readVariants, rfl⟩ := denoteUnion_parts denoted
  exact Results.holds_of_mapM (Operation.holds_of_denoteVariant gives) readVariants

theorem holds_of_denotePlain (gives : names.Gives holds) {declaration : Declaration}
    {constructors : List Constructor} {operations : List Operation} {object : Model.Object}
    (denoted : declaration.denotePlain constructors operations names = .ok object) :
    ∀ type ∈ object.types, holds type := by
  obtain ⟨attributes, -, read⟩ := denotePlain_eq_ok.mp denoted
  obtain ⟨built, methods, readConstructors, -, readMethods, rfl⟩ := denoteObject_parts read
  exact holds_append (Results.holds_of_mapM (Operation.holds_of_denoteMethod gives) readMethods)
    (Results.holds_of_mapM (Constructor.holds_of_denote gives) readConstructors)

theorem holds_of_denoteCallback (gives : names.Gives holds) {declaration : Declaration}
    {operations : List Operation} {callback : Model.CallbackInterface}
    (denoted : declaration.denoteCallback operations names = .ok callback) :
    ∀ type ∈ callback.types, holds type := by
  obtain ⟨methods, readMethods, rfl⟩ := denoteCallback_parts denoted
  exact Results.holds_of_mapM (Operation.holds_of_denoteMethod gives) readMethods

end Declaration

end Document

/-! ## Members of metadata -/

namespace Metadata

theorem holds_of_denoteText (gives : names.Gives holds) {text : String} {type : Ty}
    (denoted : denoteText text names = .ok type) : ∀ part ∈ type.types, holds part := by
  obtain ⟨expr, -, denotedExpr⟩ := denoteText_eq_ok.mp denoted
  exact gives expr denotedExpr

theorem holds_of_denoteOutput (gives : names.Gives holds) {output : Option String}
    {result : Option Ty} (denoted : denoteOutput output names = .ok result) :
    ∀ type ∈ resultTypes result, holds type := by
  cases output with
  | none =>
      cases denoted
      exact fun _ member => nomatch member
  | some text =>
      unfold denoteOutput at denoted
      simp only at denoted
      split at denoted
      · cases denoted
        exact fun _ member => nomatch member
      · obtain ⟨type, denotedType, finished⟩ := Results.bind_eq_ok.mp denoted
        cases finished
        exact holds_of_denoteText gives denotedType

theorem Slot.holds_of_denoteField (gives : names.Gives holds) {slot : Slot} {field : Model.Field}
    (denoted : slot.denoteField names = .ok field) : ∀ type ∈ field.type.types, holds type := by
  obtain ⟨type, denotedType, rfl⟩ := denoteField_eq_ok.mp denoted
  exact holds_of_denoteText gives denotedType

theorem Slot.holds_of_denoteArgument (gives : names.Gives holds) {slot : Slot}
    {argument : Model.Argument} (denoted : slot.denoteArgument names = .ok argument) :
    ∀ type ∈ argument.type.types, holds type := by
  obtain ⟨type, denotedType, rfl⟩ := denoteArgument_eq_ok.mp denoted
  exact holds_of_denoteText gives denotedType

theorem Variant.holds_of_denote (gives : names.Gives holds) {item : Variant}
    {variant : Model.Variant} (denoted : item.denote names = .ok variant) :
    ∀ type ∈ variant.types, holds type := by
  obtain ⟨fields, readFields, rfl⟩ := denote_eq_ok.mp denoted
  exact Results.holds_of_mapM (Slot.holds_of_denoteField gives) readFields

theorem Record.holds_of_denote (gives : names.Gives holds) {item : Record}
    {record : Model.Record} (denoted : item.denote names = .ok record) :
    ∀ type ∈ record.types, holds type := by
  obtain ⟨fields, readFields, rfl⟩ := denote_eq_ok.mp denoted
  exact Results.holds_of_mapM (Slot.holds_of_denoteField gives) readFields

theorem Enum.holds_of_denote (gives : names.Gives holds) {item : Enum} {union : Model.Union}
    (denoted : item.denote names = .ok union) : ∀ type ∈ union.types, holds type := by
  obtain ⟨variants, readVariants, rfl⟩ := denote_eq_ok.mp denoted
  exact Results.holds_of_mapM (Variant.holds_of_denote gives) readVariants

theorem Error.holds_of_denote (gives : names.Gives holds) {item : Error} {union : Model.Union}
    (denoted : item.denote names = .ok union) : ∀ type ∈ union.types, holds type := by
  rcases denote_eq_ok.mp denoted with ⟨-, rfl⟩ | ⟨-, variants, readVariants, rfl⟩
  · intro type member
    simp [Model.Union.types, Model.Variant.types] at member
  · exact Results.holds_of_mapM (Variant.holds_of_denote gives) readVariants

theorem Function.holds_of_denote (gives : names.Gives holds) {item : Function}
    {function : Model.Function} (denoted : item.denote names = .ok function) :
    ∀ type ∈ function.types, holds type := by
  obtain ⟨arguments, readArguments, result, readResult, rfl⟩ := denote_eq_ok.mp denoted
  exact holds_append (Results.holds_of_mapM (Slot.holds_of_denoteArgument gives) readArguments)
    (holds_of_denoteOutput gives readResult)

theorem Constructor.holds_of_denote (gives : names.Gives holds) {item : Constructor}
    {constructor : Model.Constructor} (denoted : item.denote names = .ok constructor) :
    ∀ type ∈ constructor.types, holds type := by
  obtain ⟨arguments, readArguments, rfl⟩ := denote_eq_ok.mp denoted
  exact Results.holds_of_mapM (Slot.holds_of_denoteArgument gives) readArguments

theorem Method.holds_of_denote (gives : names.Gives holds) {item : Method} {owner : String}
    {method : Model.Method} (denoted : item.denote owner names = .ok method) :
    ∀ type ∈ method.types, holds type := by
  obtain ⟨arguments, readArguments, result, readResult, rfl⟩ := denote_eq_ok.mp denoted
  exact holds_append (Results.holds_of_mapM (Slot.holds_of_denoteArgument gives) readArguments)
    (holds_of_denoteOutput gives readResult)

theorem Group.holds_of_complete (gives : names.Gives holds) {group : Group}
    {object completed : Model.Object} (own : ∀ type ∈ object.types, holds type)
    (done : group.complete names object = .ok completed) :
    ∀ type ∈ completed.types, holds type := by
  obtain ⟨constructors, methods, readConstructors, readMethods, rfl⟩ := complete_eq_ok.mp done
  have addedConstructors := Results.holds_of_mapM (Constructor.holds_of_denote gives)
    readConstructors
  have addedMethods := Results.holds_of_mapM (Method.holds_of_denote gives) readMethods
  intro type member
  simp only [Model.Object.types, withMethods, withConstructors, List.flatMap_append,
    List.mem_append] at member
  rcases member with (before | added) | (before | added)
  · exact own type (List.mem_append_left _ before)
  · exact addedMethods type added
  · exact own type (List.mem_append_right _ before)
  · exact addedConstructors type added

end Metadata

theorem Trait.throughout_denoted (gives : names.Gives holds) :
    (throughout holds).Denoted names where
  record := Document.Declaration.holds_of_denoteRecord gives
  words := Document.Declaration.holds_of_denoteWords
  union := Document.Declaration.holds_of_denoteUnion gives
  callback := Document.Declaration.holds_of_denoteCallback gives
  function := Document.Operation.holds_of_denoteFunction gives
  object := Document.Declaration.holds_of_denotePlain gives
  itemRecord := Metadata.Record.holds_of_denote gives
  itemEnum := Metadata.Enum.holds_of_denote gives
  itemError := Metadata.Error.holds_of_denote gives
  itemFunction := Metadata.Function.holds_of_denote gives
  itemObject _ := fun _ member => nomatch member
  complete := Metadata.Group.holds_of_complete gives

theorem Interface.introduction_of_mem {declarations : List Document.Declaration}
    {group : Metadata.Group} {binding : String × Ty}
    (member : binding ∈ introductions declarations group) : binding.2.Introduction binding.1 := by
  rcases List.mem_append.mp member with inDocument | inGroup
  · obtain ⟨declaration, -, inside⟩ := List.mem_flatMap.mp inDocument
    exact Document.Declaration.introduction_of_bindings inside
  · exact Metadata.Group.introduction inGroup

end NativeBoundary

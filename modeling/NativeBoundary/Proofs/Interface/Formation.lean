import NativeBoundary.Proofs.Interface.EnumDefault
import NativeBoundary.Proofs.Registry.Formation

/-!
# Types of an interface are denoted

Whatever occurs in an interface into which both sources were brought, in its declarations or among
the types that it knows, is denoted in the environment of its names.  A default has the type of its
member, so the types that are written down with the declarations are the types that they use.
-/

namespace NativeBoundary

/-- What is given by expressions is given by bound names. -/
theorem Names.Gives.bound {names : Names} {holds : Ty → Prop} (gives : names.Gives holds)
    (proper : names.Proper) {name : String} {type : Ty} (bound : names name = some type) :
    ∀ part ∈ type.types, holds part := by
  apply gives { shape := .identifier, name := some name }
  simp only [TypeExpr.denote, TypeExpr.denoteName, Option.getD_some, proper.meaning_of_bound bound]
  rfl

/-! ## Defaults -/

/-- A default has the type at which it was converted. -/
theorem DefaultNode.type_of_convert {node : DefaultNode} {type : Ty} {literal : Literal}
    (converted : node.convert type = .ok literal) : literal.type = some type := by
  unfold convert convertBoolean convertInteger convertFloat refuse at converted
  repeat' split at converted
  all_goals cases converted
  all_goals rfl

/-- A default of a member of this type has the type itself. -/
def Model.Typed (type : Ty) (default : Option Literal) : Prop :=
  ∀ literal, default = some literal → literal.type = some type

def Parts.typed : Parts where
  field field := Model.Typed field.type field.default
  payload field := Model.Typed field.type field.default
  argument argument := Model.Typed argument.type argument.default

theorem Names.Stands.typed {names : Names} {type : Ty} {default : Option Literal}
    (stands : names.Stands type default) : Model.Typed type default := by
  intro literal given
  obtain ⟨node, converted⟩ := stands.converted literal given
  exact DefaultNode.type_of_convert converted

theorem Parts.typed_denoted {names : Names} (closed : names.Closed) :
    Parts.typed.Denoted names where
  field read := ((Parts.defaults_denoted closed).field read).typed
  payload read := by
    have none := (Parts.defaults_denoted closed).payload read
    exact fun literal given => nomatch none.symm.trans given
  argument read := ((Parts.defaults_denoted closed).argument read).typed
  itemField read := by
    obtain ⟨stands, -⟩ := (Parts.defaults_denoted closed).itemField read
    exact ⟨stands.typed, stands.typed⟩
  itemArgument read := ((Parts.defaults_denoted closed).itemArgument read).typed

namespace Model

variable {type : Ty}

theorem mem_defaultType {default : Option Literal} (typed : Typed type default) {other : Ty}
    (member : other ∈ defaultType default) : other = type := by
  obtain ⟨literal, given, own⟩ := Option.bind_eq_some_iff.mp (Option.mem_toList.mp member)
  exact Option.some.inj (own.symm.trans (typed literal given))

theorem mem_writtenTypes_fields {fields : List Field}
    (typed : ∀ field ∈ fields, Typed field.type field.default) :
    type ∈ fields.flatMap Field.writtenTypes ↔ type ∈ fields.map Field.type := by
  simp only [List.mem_flatMap, List.mem_map, Field.writtenTypes, List.mem_cons]
  constructor
  · rintro ⟨field, inside, own | ofDefault⟩
    · exact ⟨field, inside, own.symm⟩
    · exact ⟨field, inside, (mem_defaultType (typed field inside) ofDefault).symm⟩
  · rintro ⟨field, inside, rfl⟩
    exact ⟨field, inside, .inl rfl⟩

theorem mem_writtenTypes_arguments {arguments : List Argument}
    (typed : ∀ argument ∈ arguments, Typed argument.type argument.default) :
    type ∈ arguments.flatMap Argument.writtenTypes ↔ type ∈ arguments.map Argument.type := by
  simp only [List.mem_flatMap, List.mem_map, Argument.writtenTypes, List.mem_cons]
  constructor
  · rintro ⟨argument, inside, own | ofDefault⟩
    · exact ⟨argument, inside, own.symm⟩
    · exact ⟨argument, inside, (mem_defaultType (typed argument inside) ofDefault).symm⟩
  · rintro ⟨argument, inside, rfl⟩
    exact ⟨argument, inside, .inl rfl⟩

end Model

/-- Two lists have the same items if they collect the same items from each item of a list. -/
theorem mem_flatMap_congr {α β : Type} {first second : α → List β} {items : List α} {value : β}
    (same : ∀ item ∈ items, value ∈ first item ↔ value ∈ second item) :
    value ∈ items.flatMap first ↔ value ∈ items.flatMap second := by
  simp only [List.mem_flatMap]
  exact exists_congr fun item => and_congr_right (same item)

namespace Interface

open Document (Declaration)
open Metadata (Group Item)
open Model (Union)

variable {declarations : List Declaration} {group : Group} {version : Option Tag}
  {brought interface : Interface} {holds : Ty → Prop}

/-- Where every default has the type of its member, the declarations are written down with the types
that they use. -/
theorem mem_writtenTypes_iff (typed : interface.Satisfies Parts.typed.trait) {type : Ty} :
    type ∈ interface.writtenTypes ↔ type ∈ interface.uses := by
  have union (given : Model.Union) (each : Parts.typed.trait.union given) :
      type ∈ given.writtenTypes ↔ type ∈ given.uses :=
    mem_flatMap_congr fun variant inside => Model.mem_writtenTypes_fields (each variant inside)
  have callable (arguments : List Model.Argument) (result : Option Ty)
      (each : ∀ argument ∈ arguments, Parts.typed.argument argument) :
      type ∈ arguments.flatMap Model.Argument.writtenTypes ++ result.toList ↔
        type ∈ arguments.map Model.Argument.type ++ result.toList := by
    rw [List.mem_append, List.mem_append, Model.mem_writtenTypes_arguments each]
  have object (given : Model.Object) (each : Parts.typed.trait.object given) :
      type ∈ given.writtenTypes ↔ type ∈ given.uses := by
    have constructors : type ∈ given.constructors.flatMap Model.Constructor.writtenTypes ↔
        type ∈ given.constructors.flatMap Model.Constructor.uses :=
      mem_flatMap_congr fun constructor inside =>
        Model.mem_writtenTypes_arguments (each.1 constructor inside)
    have methods : type ∈ given.methods.flatMap Model.Method.writtenTypes ↔
        type ∈ given.methods.flatMap Model.Method.uses :=
      mem_flatMap_congr fun method inside =>
        callable method.arguments method.result (each.2 method inside)
    rw [Model.Object.writtenTypes, Model.Object.uses, List.mem_append, List.mem_append,
      constructors, methods, or_comm]
  have enums := mem_flatMap_congr fun given inside => union given (typed.enums given inside)
  have errors := mem_flatMap_congr fun given inside => union given (typed.errors given inside)
  have objects := mem_flatMap_congr fun given inside => object given (typed.objects given inside)
  have records : type ∈ interface.records.flatMap Model.Record.writtenTypes ↔
      type ∈ interface.records.flatMap Model.Record.uses :=
    mem_flatMap_congr fun record inside =>
      Model.mem_writtenTypes_fields (typed.records record inside)
  have functions : type ∈ interface.functions.flatMap Model.Function.writtenTypes ↔
      type ∈ interface.functions.flatMap Model.Function.uses :=
    mem_flatMap_congr fun function inside =>
      callable function.arguments function.result (typed.functions function inside)
  have callbacks : type ∈ interface.callbacks.flatMap Model.CallbackInterface.writtenTypes ↔
      type ∈ interface.callbacks.flatMap Model.CallbackInterface.uses :=
    mem_flatMap_congr fun callback inside => mem_flatMap_congr fun method member =>
      callable method.arguments method.result (typed.callbacks callback inside method member)
  simp only [writtenTypes, uses, List.mem_append, enums, records, functions, objects, callbacks,
    errors]
  exact iff_of_eq (by ac_rfl)

theorem Plain.proper (stage : Plain declarations group interface) : interface.names.Proper :=
  stage.binds.proper fun _ => introduction_of_mem

theorem Plain.mem_writtenTypes_iff (stage : Plain declarations group interface) {type : Ty} :
    type ∈ interface.writtenTypes ↔ type ∈ interface.uses :=
  Interface.mem_writtenTypes_iff
    (stage.satisfies (Parts.trait_denoted (Parts.typed_denoted stage.closed)))

/-- A property of all types that expressions denote is one of all types that occur. -/
theorem holds_occurring_of_bring
    (ran : (bring declarations group).Yields (empty version) () brought)
    (gives : brought.names.Gives holds) : ∀ type ∈ brought.occurring, holds type := by
  have stage := plain_of_bring ran
  have each := stage.satisfies (Trait.throughout_denoted gives)
  have used : ∀ type ∈ brought.uses.flatMap Ty.types, holds type := by
    simp only [uses_types_eq, memberTypes, List.forall_mem_append, List.forall_mem_flatMap]
    exact ⟨⟨⟨⟨⟨each.records, each.enums⟩, each.errors⟩, each.objects⟩, each.callbacks⟩,
      each.functions⟩
  refine holds_append used fun part member => ?_
  obtain ⟨type, known, nested⟩ := List.mem_flatMap.mp member
  rcases ((Knows.bring ran).known_iff type).mp known with ⟨name, bound⟩ | ⟨use, inside, layer⟩
  · exact gives.bound stage.proper bound part nested
  · have deep := Ty.types_subset_of_mem (Ty.layers_subset_types use layer) nested
    exact used part (List.mem_flatMap.mpr ⟨use, inside, deep⟩)

/-- Whatever occurs where both sources have been brought in is denoted. -/
theorem denotes_occurring_of_bring
    (ran : (bring declarations group).Yields (empty version) () brought) :
    ∀ type ∈ brought.occurring, brought.names.Denotes type :=
  holds_occurring_of_bring ran (plain_of_bring ran).proper.gives_denotes

/-! ## Heights -/

/-- Where no used type is too high to be written down, no type is, whether it occurs in a
declaration or is known otherwise. -/
theorem height_le_of_bring
    (ran : (bring declarations group).Yields (empty version) () brought)
    (shallow : ∀ use ∈ brought.uses, use.height ≤ Model.deepestWritten) :
    ∀ type ∈ brought.occurring, type.height ≤ Model.deepestWritten := by
  have used : ∀ type ∈ brought.uses.flatMap Ty.types, type.height ≤ Model.deepestWritten := by
    rw [List.forall_mem_flatMap]
    intro use inside type nested
    exact Nat.le_trans (Ty.height_le_of_mem_types nested) (shallow use inside)
  refine holds_append used fun part member => ?_
  obtain ⟨type, known, nested⟩ := List.mem_flatMap.mp member
  rcases ((Knows.bring ran).known_iff type).mp known with ⟨name, bound⟩ | ⟨use, inside, layer⟩
  · have low : type.height ≤ 2 := ((plain_of_bring ran).proper.introduced bound).height_le
    have lower : part.height ≤ type.height := Ty.height_le_of_mem_types nested
    exact Nat.le_trans (Nat.le_trans lower low) (by decide)
  · have deep := Ty.types_subset_of_mem (Ty.layers_subset_types use layer) nested
    exact used part (List.mem_flatMap.mpr ⟨use, inside, deep⟩)

end Interface

end NativeBoundary

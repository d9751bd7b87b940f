import NativeBoundary.Proofs.Model.Declared

/-!
# Types that declarations use

The types of fields, arguments and results as they stand in a declaration, without what is nested in
them.  A used type is written in layers: optionals, sequences and maps around types that have names
or are builtin.
-/

namespace NativeBoundary

/-- The kinds that are made of other types by writing them, rather than by a declaration. -/
def TyKind.isStructural : TyKind → Bool
  | .optional | .sequence | .map => true
  | _ => false

namespace Ty

mutual

/-- A type with the types around which it is written, outermost first. -/
def layers : Ty → List Ty
  | ⟨kind, name, args, source⟩ =>
      ⟨kind, name, args, source⟩ :: if kind.isStructural then layersList args else []

def layersList : List Ty → List Ty
  | [] => []
  | type :: rest => layers type ++ layersList rest

end

theorem layers_optional (inner : Ty) : inner.optional.layers = inner.optional :: inner.layers := by
  simp [optional, layers, layersList, TyKind.isStructural]

theorem layers_sequence (element : Ty) :
    (sequence element).layers = sequence element :: element.layers := by
  simp [sequence, layers, layersList, TyKind.isStructural]

theorem layers_map (key value : Ty) :
    (map key value).layers = map key value :: (key.layers ++ value.layers) := by
  simp [map, layers, layersList, TyKind.isStructural]

theorem layers_of_not_structural {type : Ty} (single : type.kind.isStructural = false) :
    type.layers = [type] := by
  cases type
  simp [layers, single]

theorem self_mem_types (type : Ty) : type ∈ type.types := by
  obtain ⟨kind, name, args, source⟩ := type
  exact List.mem_cons_self

mutual

theorem layers_subset_types : ∀ type : Ty, type.layers ⊆ type.types
  | ⟨kind, name, args, source⟩ => by
      rw [layers, types]
      refine List.cons_subset_cons _ ?_
      split
      · exact layersList_subset_typesList args
      · exact List.nil_subset _

theorem layersList_subset_typesList : ∀ types : List Ty, layersList types ⊆ typesList types
  | [] => List.nil_subset _
  | type :: rest => by
      rw [layersList, typesList]
      exact List.append_subset.mpr
        ⟨List.subset_append_of_subset_left _ (layers_subset_types type),
          List.subset_append_of_subset_right _ (layersList_subset_typesList rest)⟩

end

mutual

/-- The layers of a layer are layers of the whole type. -/
theorem layers_subset_of_mem {part : Ty} :
    ∀ {type : Ty}, part ∈ type.layers → part.layers ⊆ type.layers
  | ⟨kind, name, args, source⟩, member => by
      have whole := member
      rw [layers] at whole ⊢
      rcases List.mem_cons.mp whole with rfl | inside
      · rw [layers]
        exact List.Subset.refl _
      · refine List.subset_cons_of_subset _ ?_
        split at inside
        · next structural =>
          rw [if_pos structural]
          exact layers_subset_of_mem_list inside
        · cases inside

theorem layers_subset_of_mem_list {part : Ty} :
    ∀ {types : List Ty}, part ∈ layersList types → part.layers ⊆ layersList types
  | type :: rest, member => by
      rw [layersList] at member ⊢
      rcases List.mem_append.mp member with first | later
      · exact List.subset_append_of_subset_left _ (layers_subset_of_mem first)
      · exact List.subset_append_of_subset_right _ (layers_subset_of_mem_list later)

end

mutual

/-- What is nested in a nested type is nested in the outer one. -/
theorem types_subset_of_mem {part : Ty} : ∀ {type : Ty}, part ∈ type.types → part.types ⊆ type.types
  | ⟨kind, name, args, source⟩, member => by
      rw [types] at member ⊢
      rcases List.mem_cons.mp member with rfl | inside
      · rw [types]
        exact List.Subset.refl _
      · exact List.subset_cons_of_subset _ (types_subset_of_mem_list inside)

theorem types_subset_of_mem_list {part : Ty} :
    ∀ {types : List Ty}, part ∈ typesList types → part.types ⊆ typesList types
  | type :: rest, member => by
      rw [typesList] at member ⊢
      rcases List.mem_append.mp member with first | later
      · exact List.subset_append_of_subset_left _ (types_subset_of_mem first)
      · exact List.subset_append_of_subset_right _ (types_subset_of_mem_list later)

end

end Ty

namespace Model

def Variant.uses (variant : Variant) : List Ty := variant.fields.map Field.type

def Record.uses (record : Record) : List Ty := record.fields.map Field.type

def Union.uses (union : Union) : List Ty := union.variants.flatMap Variant.uses

def Function.uses (function : Function) : List Ty :=
  function.arguments.map Argument.type ++ function.result.toList

def Constructor.uses (constructor : Constructor) : List Ty :=
  constructor.arguments.map Argument.type

def Method.uses (method : Method) : List Ty :=
  method.arguments.map Argument.type ++ method.result.toList

def Object.uses (object : Object) : List Ty :=
  object.methods.flatMap Method.uses ++ object.constructors.flatMap Constructor.uses

def CallbackInterface.uses (callback : CallbackInterface) : List Ty :=
  callback.methods.flatMap Method.uses

/-! ## Occurring types are nested in used ones -/

theorem Record.types_eq (record : Record) : record.types = record.uses.flatMap Ty.types := by
  simp only [types, uses, List.flatMap_map]

theorem Variant.types_eq (variant : Variant) : variant.types = variant.uses.flatMap Ty.types := by
  simp only [types, uses, List.flatMap_map]

/-- What every item of a list is nested in, the list is nested in. -/
theorem flatMap_types_eq {α : Type} {types uses : α → List Ty}
    (each : ∀ item, types item = (uses item).flatMap Ty.types) (items : List α) :
    items.flatMap types = (items.flatMap uses).flatMap Ty.types := by
  rw [List.flatMap_assoc]
  exact congrArg (List.flatMap · items) (funext each)

theorem Union.types_eq (union : Union) : union.types = union.uses.flatMap Ty.types :=
  flatMap_types_eq Variant.types_eq union.variants

theorem callable_types_eq (arguments : List Argument) (result : Option Ty) :
    argumentTypes arguments ++ resultTypes result =
      (arguments.map Argument.type ++ result.toList).flatMap Ty.types := by
  cases result <;> simp [argumentTypes, resultTypes, List.flatMap_map]

theorem Function.types_eq (function : Function) :
    function.types = function.uses.flatMap Ty.types :=
  callable_types_eq _ _

theorem Method.types_eq (method : Method) : method.types = method.uses.flatMap Ty.types :=
  callable_types_eq _ _

theorem Constructor.types_eq (constructor : Constructor) :
    constructor.types = constructor.uses.flatMap Ty.types := by
  simp only [types, argumentTypes, uses, List.flatMap_map]

theorem Object.types_eq (object : Object) : object.types = object.uses.flatMap Ty.types := by
  rw [types, uses, List.flatMap_append, flatMap_types_eq Method.types_eq,
    flatMap_types_eq Constructor.types_eq]

theorem CallbackInterface.types_eq (callback : CallbackInterface) :
    callback.types = callback.uses.flatMap Ty.types :=
  flatMap_types_eq Method.types_eq callback.methods

theorem Object.uses_declared (object : Object) : object.declared.uses = object.uses := by
  simp only [uses, declared, List.flatMap_map]
  rfl

theorem CallbackInterface.uses_declared (callback : CallbackInterface) :
    callback.declared.uses = callback.uses := by
  simp only [uses, declared, List.flatMap_map]
  rfl

theorem Function.uses_declared (function : Function) : function.declared.uses = function.uses := rfl

end Model

namespace Interface

/-- The types that all declarations use. -/
def uses (interface : Interface) : List Ty :=
  interface.records.flatMap Model.Record.uses ++ interface.enums.flatMap Model.Union.uses ++
    interface.errors.flatMap Model.Union.uses ++ interface.objects.flatMap Model.Object.uses ++
    interface.callbacks.flatMap Model.CallbackInterface.uses ++
    interface.functions.flatMap Model.Function.uses

theorem uses_declared (interface : Interface) : interface.declared.uses = interface.uses := by
  simp only [uses, declared, List.flatMap_map, Model.Object.uses_declared,
    Model.CallbackInterface.uses_declared, Model.Function.uses_declared]

end Interface

end NativeBoundary

import NativeBoundary.Proofs.Build.FunctionName
import NativeBoundary.Proofs.Build.Refinement

/-!
# Interfaces constructed call by call

An interface can be put together by single calls in any order, documents and metadata among them.
A function is refused where its name is bound to a type, but nothing looks at the functions when a
name is bound.  So names of functions and of types stay apart exactly if no call introduces a type
under the name of a function that came before it.
-/

namespace NativeBoundary

open Metadata (Item Group)

/-- An operation on an interface that is under construction. -/
inductive Call where
  | space (name : Tag) (location : Option Location)
  | enum (union : Model.Union)
  | record (record : Model.Record)
  | object (object : Model.Object)
  | callback (callback : Model.CallbackInterface)
  | error (union : Model.Union)
  | function (function : Model.Function) (location : Option Location)
  | replace (object : Model.Object)
  | discover (declarations : List Document.Declaration)
  | declare (declarations : List Document.Declaration)
  | merge (items : List Item)
  | derive

/-- The name under which an item introduces a type, if it does. -/
def Metadata.Item.typeName? : Item → Option String
  | .record item => some item.name
  | .enum item => some item.name
  | .error item => some item.name
  | .object item => some item.name
  | .function _ | .constructor _ | .method _ => none

theorem Metadata.Item.typeName?_eq_some {item : Item} {name : String} :
    item.typeName? = some name ↔
      (item.record?.map Metadata.Record.name = some name ∨
        item.enum?.map Metadata.Enum.name = some name) ∨
      item.error?.map Metadata.Error.name = some name ∨
        item.object?.map Metadata.Object.name = some name := by
  cases item <;> simp [Item.typeName?, Item.record?, Item.enum?, Item.error?, Item.object?]

namespace Call

def perform : Call → Action Interface Unit
  | .space name location => Interface.addSpace name location
  | .enum item => Interface.addEnum item
  | .record item => Interface.addRecord item
  | .object item => Interface.addObject item
  | .callback item => Interface.addCallback item
  | .error item => Interface.addError item
  | .function item location => Interface.addFunction item location
  | .replace item => Interface.replaceObject item
  | .discover declarations => Interface.onRegistry (Registry.discover declarations)
  | .declare declarations => Interface.declare declarations
  | .merge items => Interface.merge items
  | .derive => Interface.derive

/-- The names of the functions that a call lists. -/
def functionNames : Call → List String
  | .function item _ => [item.name]
  | .declare declarations => declarations.flatMap Document.Declaration.functionNames
  | .merge items => (items.filterMap Item.function?).map Metadata.Function.name
  | _ => []

/-- The names under which a call introduces types. -/
def typeNames : Call → List String
  | .discover declarations => (declarations.flatMap Document.Declaration.bindings).map Prod.fst
  | .merge items => items.filterMap Item.typeName?
  | _ => []

end Call

/-! ## Names in a group -/

namespace Metadata.Group

variable {items : List Item} {group : Group}

theorem mem_functions_of_ofItems (grouped : ofItems items = .ok group) {name : String} :
    name ∈ group.functions.map Function.name ↔
      name ∈ (items.filterMap Item.function?).map Function.name :=
  ((sorts_of_ofItems grouped).functions.perm.map Function.name).mem_iff

/-- A group introduces what its items introduce. -/
theorem mem_introduced_of_ofItems (grouped : ofItems items = .ok group) {name : String} :
    name ∈ group.introduced.map Prod.fst ↔ name ∈ items.filterMap Item.typeName? := by
  have sorts := sorts_of_ofItems grouped
  have records := (sorts.records.perm.map Record.name).mem_iff (a := name)
  have enums := (sorts.enums.perm.map Enum.name).mem_iff (a := name)
  have errors := (sorts.errors.perm.map Error.name).mem_iff (a := name)
  have objects := (sorts.objects.perm.map Object.name).mem_iff (a := name)
  simp only [List.map_filterMap, List.mem_filterMap] at records enums errors objects
  simp only [introduced, List.map_append, List.map_map, List.mem_append, Function.comp_def,
    List.mem_filterMap, Item.typeName?_eq_some, and_or_left, exists_or, ← records, ← enums,
    ← errors, ← objects, or_assoc]

end Metadata.Group

/-- A name is free after names were bound exactly if it was free and is not among them. -/
theorem Registry.Binds.type?_eq_none {introduced : List (String × Ty)} {before after : Registry}
    (binds : Binds introduced before after) {name : String} :
    after.type? name = none ↔ before.type? name = none ∧ name ∉ introduced.map Prod.fst := by
  have absent : introduced.lookup name = none ↔ name ∉ introduced.map Prod.fst := by
    simp only [List.lookup_eq_none_iff, bne_iff_ne, List.mem_map, not_exists, not_and]
    exact ⟨fun free binding member same => free binding member same.symm,
      fun free binding member same => free binding member same.symm⟩
  rw [binds.type?, Option.or_eq_none_iff, absent]

namespace Interface

open NativeBoundary.Action Document

variable {before middle after : Interface}

/-! ## Interfaces that stay open -/

/-- An interface takes more, and has nothing twice. -/
structure Growing (interface : Interface) : Prop where
  isOpen : interface.finalized = false
  distinct : interface.entries.Nodup

theorem growing_empty (version : Option Tag) : Growing (empty version) :=
  ⟨rfl, List.nodup_nil⟩

theorem Enters.growing {action : Action Interface Unit} {readable : Names → Prop}
    {entries : List Entry} (enters : Enters action readable entries) (growing : Growing before)
    (ran : action.Yields before () after) : Growing after := by
  have grown := enters.grown ran
  obtain ⟨-, room⟩ := (enters.admits growing.isOpen growing.distinct).mp ran.completes
  exact ⟨grown.finalized.trans growing.isOpen, grown.distinct room⟩

theorem growing_of_populate {group : Group} (growing : Growing before)
    (ran : (populate group).Yields before () after) : Growing after := by
  obtain ⟨stood, built, stands, constructs, equips⟩ := populate_yields.mp ran
  simp only [stand, yields_bind_unit] at stands
  obtain ⟨_, records, _, enums, _, errors, _, objects, functions⟩ := stands
  have unions := (Enters.forAllOne enters_mergeError group.errors).growing
    ((Enters.forAllOne enters_mergeEnum group.enums).growing
      ((Enters.forAllOne enters_mergeRecord group.records).growing growing records) enums) errors
  have stoodObjects : Growing _ :=
    ⟨(grown_of_mergeObjects objects).finalized.trans unions.isOpen,
      distinct_of_mergeObjects unions.distinct objects⟩
  have stands := (Enters.forAllOne enters_mergeFunction group.functions).growing stoodObjects
    functions
  have joined := (joined_of_forAll joins_mergeConstructor constructs).trans
    (joined_of_forAll joins_mergeMethod equips)
  exact ⟨joined.finalized.trans stands.isOpen, joined.entries ▸ stands.distinct⟩

/-! ## What a call does to names -/

/-- A call lists functions and introduces types under its names, and lists no function under the
name of a type that is there by then. -/
structure Effect (call : Call) (before after : Interface) : Prop where
  growing : Growing after
  functions : ∀ {name}, name ∈ after.functionNames ↔
    name ∈ before.functionNames ∨ name ∈ call.functionNames
  types : ∀ {name}, after.type? name = none ↔ before.type? name = none ∧ name ∉ call.typeNames
  unbound : ∀ name ∈ call.functionNames, after.type? name = none

/-- A call that binds nothing has the effect of what it lists. -/
theorem Lists.effect {call : Call} (lists : Lists call.functionNames before after)
    (typeless : call.typeNames = []) (growing : Growing after) : Effect call before after where
  growing := growing
  functions := lists.mem_iff
  types := by
    intro name
    have same : after.type? name = before.type? name := congrFun lists.names_eq name
    simp [same, typeless]
  unbound name member := by
    rw [← lists.unbound name member]
    exact congrFun lists.names_eq name

theorem Enters.effect {action : Action Interface Unit} {readable : Names → Prop}
    {entries : List Entry} (enters : Enters action readable entries) (call : Call)
    (typeless : call.typeNames = [])
    (same : ∀ {name}, Entry.declared .function name ∈ entries ↔ name ∈ call.functionNames)
    (growing : Growing before) (ran : action.Yields before () after) : Effect call before after :=
  (enters.lists growing.isOpen growing.distinct same ran).effect typeless
    (enters.growing growing ran)

theorem effect_of_replace {object : Model.Object} (growing : Growing before)
    (ran : (replaceObject object).Yields before () after) :
    Effect (.replace object) before after := by
  obtain ⟨-, objects, replaced, rfl⟩ := replaceObject_yields.mp ran
  have lists : Lists (Call.replace object).functionNames before { before with objects } :=
    ⟨rfl, rfl, by simp [functionNames, Call.functionNames], by simp [Call.functionNames]⟩
  have names := replaceFirst_names replaced
  have same : ({ before with objects } : Interface).entries = before.entries := by
    simp only [entries, ← List.map_map, ← Function.comp_def (Entry.declared .object), names]
  exact lists.effect rfl ⟨growing.isOpen, same ▸ growing.distinct⟩

theorem effect_of_discover {declarations : List Declaration} (growing : Growing before)
    (ran : (onRegistry (Registry.discover declarations)).Yields before () after) :
    Effect (.discover declarations) before after := by
  obtain ⟨registry, discovers, rfl⟩ := onRegistry_yields.mp ran
  have binds := Registry.binds_of_discover discovers
  exact ⟨⟨growing.isOpen, growing.distinct⟩, by simp [functionNames, Call.functionNames],
    binds.type?_eq_none, by simp [Call.functionNames]⟩

theorem effect_of_merge {items : List Item} (growing : Growing before)
    (ran : (merge items).Yields before () after) : Effect (.merge items) before after := by
  simp only [merge, yields_lift_bind, yields_bind_unit, onRegistry_yields] at ran
  obtain ⟨group, grouped, _, ⟨registry, discovers, rfl⟩, populates⟩ := ran
  have binds := Registry.binds_of_defineAll discovers
  have bound : Growing { before with registry } := ⟨growing.isOpen, growing.distinct⟩
  have lists := lists_of_populate bound.isOpen bound.distinct populates
  have sameNames (name : String) : after.type? name = registry.type? name :=
    congrFun lists.names_eq name
  refine ⟨growing_of_populate bound populates, ?_, ?_, ?_⟩
  · intro name
    rw [lists.mem_iff, Group.mem_functions_of_ofItems grouped]
    rfl
  · intro name
    rw [sameNames, binds.type?_eq_none, Group.mem_introduced_of_ofItems grouped]
    rfl
  · intro name member
    rw [sameNames]
    exact lists.unbound name ((Group.mem_functions_of_ofItems grouped).mpr member)

theorem entries_declared (interface : Interface) :
    interface.declared.entries = interface.entries := by
  simp only [entries, declared, List.map_map]
  rfl

theorem effect_of_derive (growing : Growing before) (ran : derive.Yields before () after) :
    Effect .derive before after := by
  have same := declared_of_derive ran
  have sameEntries : after.entries = before.entries := by
    rw [← entries_declared, same, entries_declared]
  have sameNames : after.functionNames = before.functionNames := by
    rw [← functionNames_declared, same, functionNames_declared]
  have sameRegistry := congrArg Interface.registry same
  have sameState := congrArg Interface.finalized same
  have lists : Lists Call.derive.functionNames before after :=
    ⟨congrArg Registry.bindings sameRegistry, sameState,
      by simp [sameNames, Call.functionNames], by simp [Call.functionNames]⟩
  exact lists.effect rfl ⟨lists.finalized.trans growing.isOpen, sameEntries ▸ growing.distinct⟩

theorem effect_of_perform {call : Call} (growing : Growing before)
    (ran : call.perform.Yields before () after) : Effect call before after := by
  have listed {name other : String} {kind : DeclarationKind} (notFunction : kind ≠ .function) :
      Entry.declared .function name ∈ [.declared kind other] ↔ name ∈ ([] : List String) := by
    simp [notFunction.symm]
  cases call with
  | space name location =>
      exact (enters_addSpace name location).effect (.space name location) rfl
        (by simp [Call.functionNames]) growing ran
  | enum item =>
      exact (enters_addEnum item).effect (.enum item) rfl (listed (by decide)) growing ran
  | record item =>
      exact (enters_addRecord item).effect (.record item) rfl (listed (by decide)) growing ran
  | object item =>
      exact (enters_addObject item).effect (.object item) rfl (listed (by decide)) growing ran
  | callback item =>
      exact (enters_addCallback item).effect (.callback item) rfl (listed (by decide)) growing ran
  | error item =>
      exact (enters_addError item).effect (.error item) rfl (listed (by decide)) growing ran
  | function item location =>
      exact (enters_addFunction item location).effect (.function item location) rfl
        (by simp [Call.functionNames]) growing ran
  | replace item => exact effect_of_replace growing ran
  | discover declarations => exact effect_of_discover growing ran
  | declare declarations =>
      exact (enters_declare declarations).effect (.declare declarations) rfl
        Document.function_mem_entries growing ran
  | merge items => exact effect_of_merge growing ran
  | derive => exact effect_of_derive growing ran

/-! ## What a sequence of calls does to names -/

/-- Names of functions are free after a sequence of calls exactly if those that were there are and
stay so, and no call introduces a type under the name of a function of an earlier call. -/
theorem unbound_iff_of_calls {calls : List Call} (growing : Growing before)
    (ran : (forAll Call.perform calls).Yields before () after) :
    (∀ name ∈ after.functionNames, after.type? name = none) ↔
      (∀ name ∈ before.functionNames,
        before.type? name = none ∧ ∀ call ∈ calls, name ∉ call.typeNames) ∧
      calls.Pairwise fun earlier later =>
        ∀ name ∈ earlier.functionNames, name ∉ later.typeNames := by
  induction calls generalizing before with
  | nil =>
      rw [yields_forAll_nil] at ran
      simp [ran]
  | cons call rest ih =>
      rw [yields_forAll_cons] at ran
      obtain ⟨middle, first, others⟩ := ran
      have effect := effect_of_perform growing first
      rw [ih effect.growing others, List.pairwise_cons, ← and_assoc]
      refine and_congr_left fun _ => ⟨fun free => ⟨?_, ?_⟩, ?_⟩
      · intro name member
        obtain ⟨unbound, apart⟩ := free name (effect.functions.mpr (.inl member))
        obtain ⟨unboundBefore, notHere⟩ := effect.types.mp unbound
        exact ⟨unboundBefore, List.forall_mem_cons.mpr ⟨notHere, apart⟩⟩
      · intro later member name listed
        exact (free name (effect.functions.mpr (.inr listed))).2 later member
      · rintro ⟨free, apart⟩ name member
        rcases effect.functions.mp member with earlier | listed
        · obtain ⟨unbound, notLater⟩ := free name earlier
          obtain ⟨notHere, notThere⟩ := List.forall_mem_cons.mp notLater
          exact ⟨effect.types.mpr ⟨unbound, notHere⟩, notThere⟩
        · exact ⟨effect.unbound name listed, fun later inside => apart later inside name listed⟩

/-- However an empty interface is filled, no function of it is named like a type exactly if no call
introduced a type under the name of a function that an earlier call had listed.  The consistency
check has no part in this. -/
theorem functions_unbound_iff {version : Option Tag} {calls : List Call} {last : Interface}
    (ran : (forAll Call.perform calls).Yields (empty version) () last) :
    (∀ name ∈ last.functionNames, last.type? name = none) ↔
      calls.Pairwise fun earlier later =>
        ∀ name ∈ earlier.functionNames, name ∉ later.typeNames := by
  rw [unbound_iff_of_calls (growing_empty version) ran]
  exact and_iff_right fun _ member => nomatch member

/-- A function, and metadata that comes behind it. -/
def lateCalls (items : List Item) : List Call := [
  .space (.text "shop") none,
  .function { name := "open" } none,
  .merge items]

def lateRecord (name : String) : Item := .record { crateModule := "shop", name }

theorem functions_unbound_iff_ledger :
    ∃ last, (forAll Call.perform (lateCalls [lateRecord "Ledger"])).Yields (empty none) () last ∧
      last.check = .ok () ∧ last.functionNames = ["open"] ∧
      last.type? "Ledger" = some (.named .record "Ledger") ∧
      ∀ name ∈ last.functionNames, last.type? name = none := by
  have ran : (forAll Call.perform (lateCalls [lateRecord "Ledger"])).Yields (empty none) ()
      (forAll Call.perform (lateCalls [lateRecord "Ledger"]) (empty none)).state :=
    ⟨by decide +kernel, rfl⟩
  exact ⟨_, ran, by decide +kernel, by decide +kernel, by decide +kernel,
    (functions_unbound_iff ran).mpr (by decide +kernel)⟩

/-- A record of the metadata takes the name of a function, and the interface is consistent. -/
theorem functions_bound_late :
    ∃ last, (forAll Call.perform (lateCalls [lateRecord "open"])).Yields (empty none) () last ∧
      last.check = .ok () ∧ ∃ name ∈ last.functionNames, last.type? name ≠ none := by
  refine ⟨(forAll Call.perform (lateCalls [lateRecord "open"]) (empty none)).state,
    ⟨by decide +kernel, rfl⟩, by decide +kernel, "open", by decide +kernel, by decide +kernel⟩

end Interface

end NativeBoundary

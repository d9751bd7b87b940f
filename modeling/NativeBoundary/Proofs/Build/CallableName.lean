import NativeBoundary.Proofs.Build.Arrival
import NativeBoundary.Proofs.Build.Parameter

/-!
# Names of callables

The constructors and methods of an object are looked up, and exported, by one set of names.  A
document gives an object all of its callables at once and refuses a repeated name; metadata adds
callables one by one and refuses each that is there already.  So in a built interface each callable
is found by its name, wherever it comes from.
-/

namespace NativeBoundary

/-! ## Callables of an object -/

namespace Model.Object

variable {object : Object}

/-- The callables of an object can be told apart, split and looked up by their names. -/
structure Named (object : Object) : Prop where
  distinct : object.callables.Nodup
  primary : (object.constructors.filter Constructor.isPrimary).length ≤ 1
  split : (object.primary?.toList ++ object.alternates).Perm object.constructors
  once : (object.primary?.toList ++ object.alternates).Nodup
  found : ∀ method ∈ object.methods, object.method method.name = .ok method
  missing : ∀ name, (∀ method ∈ object.methods, method.name ≠ name) → object.method name = .error 0

theorem method_eq (distinct : (object.methods.map Method.name).Nodup) (name : String) :
    object.method name =
      match object.methods.find? fun method => method.name == name with
      | some method => .ok method
      | none => .error 0 := by
  unfold method
  rw [Interface.filter_eq_find? distinct name]
  cases object.methods.find? fun method => method.name == name <;> rfl

theorem Named.of_callables (distinct : object.callables.Nodup) : object.Named := by
  obtain ⟨apart, apartMethods, -⟩ := List.nodup_append.mp distinct
  have primary : object.constructors.filter Constructor.isPrimary = object.primary?.toList :=
    Interface.filter_eq_find? apart primaryName
  have split : (object.primary?.toList ++ object.alternates).Perm object.constructors := by
    rw [← primary]
    exact List.filter_append_perm _ _
  refine ⟨distinct, ?_, split, split.nodup_iff.mpr (apart.of_map _), ?_, ?_⟩
  · rw [primary]
    exact Option.length_toList_le
  · intro method member
    rw [method_eq apartMethods, (Interface.find?_eq_some_iff apartMethods).mpr ⟨member, rfl⟩]
  · intro name absent
    have turnedDown : ∀ method ∈ object.methods, ¬(method.name == name) = true :=
      fun method member same => absent method member (eq_of_beq same)
    rw [method_eq apartMethods, List.find?_eq_none.mpr turnedDown]

end Model.Object

/-! ## Callables in the sources -/

namespace Document

variable {names : Names}

/-- The callables that a declaration gives to an object, each with the object. -/
def Declaration.members (declaration : Declaration) : List (String × String) :=
  match declaration.body with
  | .interface constructors operations =>
      if declaration.isObject then
        (constructors.map Constructor.statedName ++ operations.map Operation.name).map
          (declaration.name, ·)
      else []
  | _ => []

theorem Constructor.denote_name {constructor : Constructor} {read : Model.Constructor}
    (denoted : constructor.denote names = .ok read) : read.name = constructor.statedName := by
  obtain ⟨attributes, checked, arguments, -, rfl⟩ := denote_eq_ok.mp denoted
  simp only [statedName, checked]

namespace Declaration

variable {declaration : Declaration}

theorem callables_of_denotePlain {constructors : List Constructor} {operations : List Operation}
    {object : Model.Object}
    (denoted : declaration.denotePlain constructors operations names = .ok object) :
    object.callables.map (object.name, ·) =
      (constructors.map Constructor.statedName ++ operations.map Operation.name).map
        (declaration.name, ·) := by
  obtain ⟨attributes, -, parts⟩ := denotePlain_eq_ok.mp denoted
  obtain ⟨built, methods, readConstructors, -, readMethods, rfl⟩ := denoteObject_parts parts
  rw [Model.Object.callables,
    Results.keys_of_map_ok Constructor.denote_name (Results.mapM_eq_ok.mp readConstructors),
    Results.keys_of_map_ok Operation.denoteMethod_name (Results.mapM_eq_ok.mp readMethods)]

/-- The objects that were read of a declaration have the callables that it gives. -/
theorem callables_of_objects {objects : List Model.Object}
    (read : objects.map .ok = (declaration.contents names).objects) :
    (objects.flatMap fun object => object.callables.map (object.name, ·)) =
      declaration.members := by
  have nothing (isOther : declaration.isObject = false) : objects = [] :=
    List.map_eq_nil_iff.mp (read.trans (Interface.objects_of_not_isObject isOther names))
  unfold members
  cases shape : declaration.body with
  | interface constructors operations =>
      cases isObject : declaration.isObject with
      | false =>
          rw [nothing isObject]
          rfl
      | true =>
          simp only [Declaration.isObject, shape, Bool.and_eq_true, Bool.not_eq_true'] at isObject
          simp only [contents, shape, isObject, Bool.false_eq_true, if_false] at read
          obtain ⟨object, rfl, denoted⟩ := List.map_eq_singleton_iff.mp read
          rw [List.flatMap_singleton, callables_of_denotePlain denoted.symm]
          rfl
  | space _ | dictionary _ | enum _ | callbackInterface _ | typedef _ =>
      rw [nothing (by rw [Declaration.isObject, shape])]
      rfl

/-- The same for the objects of a whole document. -/
theorem callables_of_document {declarations : List Declaration} {objects : List Model.Object}
    (read : objects.map .ok =
      declarations.flatMap fun declaration => (declaration.contents names).objects) :
    (objects.flatMap fun object => object.callables.map (object.name, ·)) =
      declarations.flatMap members := by
  induction declarations generalizing objects with
  | nil =>
      rw [List.map_eq_nil_iff.mp read]
      rfl
  | cons first rest ih =>
      rw [List.flatMap_cons] at read
      obtain ⟨own, others, rfl, readFirst, readRest⟩ := List.map_eq_append_iff.mp read
      rw [List.flatMap_append, List.flatMap_cons, callables_of_objects readFirst, ih readRest]

/-! ## Methods of a callback interface -/

theorem methods_nodup_of_denoteCallback {operations : List Operation}
    {callback : Model.CallbackInterface}
    (denoted : declaration.denoteCallback operations names = .ok callback) :
    (callback.methods.map Model.Method.name).Nodup := by
  simp only [denoteCallback, Results.bind_eq_ok, Results.pure_eq_ok] at denoted
  obtain ⟨_, -, _, distinct, methods, read, rfl⟩ := denoted
  rw [Results.keys_of_map_ok Operation.denoteMethod_name (Results.mapM_eq_ok.mp read)]
  exact nodup_of_ensureDistinct distinct

theorem methods_nodup_of_contents {callback : Model.CallbackInterface}
    (read : .ok callback ∈ (declaration.contents names).callbacks) :
    (callback.methods.map Model.Method.name).Nodup := by
  unfold contents at read
  cases shape : declaration.body with
  | callbackInterface operations =>
      simp only [shape, List.mem_singleton] at read
      exact methods_nodup_of_denoteCallback read.symm
  | enum _ => cases marked : declaration.marked .error <;> simp [shape, marked] at read
  | interface _ _ =>
      cases isEnum : declaration.marked .enum <;> cases isError : declaration.marked .error <;>
        simp [shape, isEnum, isError] at read
  | space _ | dictionary _ | typedef _ => simp [shape] at read

end Declaration

end Document

def Document.members (document : Document) : List (String × String) :=
  document.definitions.flatMap Document.Declaration.members

namespace Metadata

/-- The callables that items give to objects, each with the object. -/
def members (items : List Item) : List (String × String) :=
  ((items.filterMap Item.constructor?).map fun item => (item.owner, item.name)) ++
    (items.filterMap Item.method?).map fun item => (item.owner, item.name)

theorem Group.members_perm_of_ofItems {items : List Item} {group : Group}
    (grouped : Group.ofItems items = .ok group) : group.members.Perm (Metadata.members items) := by
  rw [Group.ofItems_eq] at grouped
  obtain ⟨crate, -, rfl⟩ := Results.map_eq_ok.mp grouped
  exact ((Order.sort_perm _ _).map _).append ((Order.sort_perm _ _).map _)

end Metadata

namespace Interface

open NativeBoundary.Action
open Document (Declaration)
open Metadata (Group Item)

variable {interface : Interface}

theorem members_declared (interface : Interface) :
    interface.declared.members = interface.members := by
  simp only [members, declared, List.flatMap_map, Model.Object.callables_declared]
  rfl

/-- Whatever metadata gives to objects joins what the document gave to them. -/
theorem members_of_bring {declarations : List Declaration} {group : Group} {version : Option Tag}
    {brought : Interface} (ran : (bring declarations group).Yields (empty version) () brought) :
    brought.members.Perm (declarations.flatMap Declaration.members ++ group.members) := by
  obtain ⟨first, registry, middle, -, -, declares, populates⟩ := bring_yields.mp ran
  obtain ⟨stood, built, stands, constructs, equips⟩ := populate_yields.mp populates
  have joined := (joined_of_forAll joins_mergeConstructor constructs).trans
    (joined_of_forAll joins_mergeMethod equips)
  have written : middle.members = declarations.flatMap Declaration.members :=
    Declaration.callables_of_document (objects_declared declares)
  rw [← written, ← members_of_stand stands]
  exact joined.members_perm

variable {document : Option Document} {items : List Item} {settings : Settings}

theorem members_perm_of_build (built : build document items settings = .ok interface) :
    interface.members.Perm
      ((document.map Document.members).getD [] ++ Metadata.members items) := by
  obtain ⟨group, brought, grouped, brings, -, same⟩ := brought_of_build built
  have joined := members_of_bring brings
  have kept : interface.members = brought.members := by
    rw [← members_declared, same]
    rfl
  rw [kept]
  refine joined.trans (.append (.of_eq ?_) (Group.members_perm_of_ofItems grouped))
  cases document <;> rfl

theorem callbackMethods_of_build (built : build document items settings = .ok interface) :
    ∀ callback ∈ interface.callbacks, (callback.methods.map Model.Method.name).Nodup := by
  obtain ⟨group, plain, -, stage, -, -, same⟩ := Plain.of_build built
  intro callback member
  have listed : callback.declared ∈ plain.callbacks := by
    have there : callback.declared ∈ interface.declared.callbacks := List.mem_map_of_mem member
    rwa [same] at there
  obtain ⟨declaration, -, read⟩ := stage.mem_callbacks_iff.mp listed
  have distinct := Declaration.methods_nodup_of_contents read
  rwa [Model.CallbackInterface.declared, List.map_map] at distinct

/-- The callables of a built interface are those of its document and of its metadata, and no two of
an object have the same name; so its constructors are split, and its methods found, by name. -/
theorem callables_of_build (built : build document items settings = .ok interface) :
    interface.members.Perm
      ((document.map Document.members).getD [] ++ Metadata.members items) ∧
    interface.members.Nodup ∧
    (∀ object ∈ interface.objects, object.Named) ∧
    ∀ callback ∈ interface.callbacks, (callback.methods.map Model.Method.name).Nodup := by
  have named := wellNamed_of_build built
  exact ⟨members_perm_of_build built, members_nodup named,
    fun object member => .of_callables (named.callables object member),
    callbackMethods_of_build built⟩

/-- An object with callables of both sources, and a callback interface. -/
def harborDocument : Document where
  definitions := [
    { name := "harbor", body := .space [] },
    { name := "Ship", body := .interface
        [{ }, { attributes := some [{ key := "Name", value := some "steam" }] }]
        [{ name := "sail" }, { name := "anchor" }] },
    { name := "Watch", body := .callbackInterface [{ name := "ring" }, { name := "sail" }] }]

def harborItems : List Item := [
  .constructor ⟨"harbor", "Ship", "tow", [], none⟩,
  .method ⟨"harbor", "Ship", "dock", [⟨"berth", "u32"⟩], none, none⟩]

theorem callables_of_build_harbor :
    ∃ interface, build (some harborDocument) harborItems {} = .ok interface ∧
      interface.members.Perm [("Ship", "new"), ("Ship", "steam"), ("Ship", "sail"),
        ("Ship", "anchor"), ("Ship", "tow"), ("Ship", "dock")] ∧
      interface.members.Nodup := by
  have built := build_ok_of_result (by decide +kernel :
    (buildOutcome (some harborDocument) harborItems {}).result = .ok ())
  obtain ⟨listed, distinct, -⟩ := callables_of_build built
  exact ⟨_, built, listed, distinct⟩

end Interface

end NativeBoundary

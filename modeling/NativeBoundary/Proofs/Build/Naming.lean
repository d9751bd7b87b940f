import Mathlib.Data.List.Nodup
import NativeBoundary.Proofs.Action.Results
import NativeBoundary.Proofs.Build.Membership
import NativeBoundary.Proofs.Model.Declared

/-!
# Names of their own

No list of a growing interface has two declarations of a name, and no object has two callables of a
name.  Additions refuse a name that is taken, a document declares no object with a callable twice,
and metadata gives an object only members that are new to it; replacing an object keeps its name.
-/

namespace NativeBoundary

/-- Constructors and methods of an object share one set of names. -/
def Model.Object.callables (object : Model.Object) : List String :=
  object.constructors.map Model.Constructor.name ++ object.methods.map Model.Method.name

theorem Model.Object.callables_declared (object : Model.Object) :
    object.declared.callables = object.callables := by
  simp only [callables, declared, Constructor.declared, Method.declared, List.map_map,
    Function.comp_def]

namespace Document

theorem nodup_of_firstRepeated {seen names : List String}
    (unrepeated : firstRepeated seen names = none) :
    names.Nodup ∧ ∀ name ∈ names, name ∉ seen := by
  induction names generalizing seen with
  | nil => exact ⟨List.nodup_nil, fun name member => nomatch member⟩
  | cons first rest ih =>
      unfold firstRepeated at unrepeated
      by_cases known : first ∈ seen
      · rw [if_pos known] at unrepeated
        cases unrepeated
      · rw [if_neg known] at unrepeated
        obtain ⟨distinct, apart⟩ := ih unrepeated
        constructor
        · refine List.nodup_cons.mpr ⟨fun member => ?_, distinct⟩
          exact apart first member List.mem_cons_self
        · intro name member
          rcases List.mem_cons.mp member with rfl | later
          · exact known
          · exact fun inside => apart name later (List.mem_cons_of_mem first inside)

theorem Declaration.nodup_of_ensureDistinct {declaration : Declaration} {kind : MemberKind}
    {names : List String} {value : Unit}
    (distinct : declaration.ensureDistinct kind names = .ok value) : names.Nodup := by
  unfold Declaration.ensureDistinct at distinct
  cases repeated : firstRepeated [] names with
  | none => exact (nodup_of_firstRepeated repeated).1
  | some name =>
      rw [repeated] at distinct
      cases distinct

theorem firstRepeated_of_nodup {seen names : List String} (distinct : names.Nodup)
    (apart : ∀ name ∈ names, name ∉ seen) : firstRepeated seen names = none := by
  induction names generalizing seen with
  | nil => rfl
  | cons first rest ih =>
      obtain ⟨fresh, distinctRest⟩ := List.nodup_cons.mp distinct
      obtain ⟨apartFirst, apartRest⟩ := List.forall_mem_cons.mp apart
      rw [firstRepeated, if_neg apartFirst]
      refine ih distinctRest fun name member =>
        List.not_mem_cons_of_ne_of_not_mem ?_ (apartRest name member)
      rintro rfl
      exact fresh member

theorem Declaration.ensureDistinct_eq_ok_iff {declaration : Declaration} {kind : MemberKind}
    {names : List String} :
    declaration.ensureDistinct kind names = .ok () ↔ names.Nodup := by
  refine ⟨nodup_of_ensureDistinct, fun distinct => ?_⟩
  rw [ensureDistinct, firstRepeated_of_nodup distinct fun _ _ => List.not_mem_nil]

theorem Operation.denoteMethod_name {operation : Operation} {owner : String} {names : Names}
    {method : Model.Method} (denoted : operation.denoteMethod owner names = .ok method) :
    method.name = operation.name := by
  obtain ⟨_, -, _, -, _, -, rfl⟩ := denoteMethod_eq_ok.mp denoted
  rfl

namespace Declaration

variable {declaration : Declaration} {attributes : List Attribute}
  {constructors : List Constructor} {operations : List Operation} {names : Names}
  {object : Model.Object}

theorem denoteObject_name
    (denoted : declaration.denoteObject attributes constructors operations names = .ok object) :
    object.name = declaration.name := by
  obtain ⟨built, methods, -, -, -, rfl⟩ := denoteObject_parts denoted
  rfl

theorem denoteObject_callables
    (denoted : declaration.denoteObject attributes constructors operations names = .ok object) :
    object.callables.Nodup := by
  obtain ⟨built, methods, -, distinct, read, rfl⟩ := denoteObject_parts denoted
  have methodNames : methods.map Model.Method.name = operations.map Operation.name :=
    Results.keys_of_map_ok Operation.denoteMethod_name (Results.mapM_eq_ok.mp read)
  change (built.map Model.Constructor.name ++ methods.map Model.Method.name).Nodup
  rw [methodNames]
  exact nodup_of_ensureDistinct distinct

/-- Where the names of the callables are distinct, the methods are read behind the constructors. -/
theorem denoteObject_eq {built : List Model.Constructor}
    (read : constructors.mapM (Constructor.denote · names) = .ok built)
    (distinct : (built.map Model.Constructor.name ++ operations.map Operation.name).Nodup) :
    declaration.denoteObject attributes constructors operations names =
      (fun methods => {
        name := declaration.name
        constructors := built
        methods
        threadsafe := Attribute.has .threadsafe attributes }) <$>
          operations.mapM (Operation.denoteMethod declaration.name · names) := by
  obtain ⟨apart, apartMethods, -⟩ := List.nodup_append.mp distinct
  rw [denoteObject, read]
  change (declaration.ensureDistinct .constructor _ >>= fun _ =>
    declaration.ensureDistinct .method _ >>= fun _ =>
      declaration.ensureDistinct .callable _ >>= fun _ => _) = _
  rw [ensureDistinct_eq_ok_iff.mpr apart, ensureDistinct_eq_ok_iff.mpr apartMethods,
    ensureDistinct_eq_ok_iff.mpr distinct]
  cases operations.mapM (Operation.denoteMethod declaration.name · names) <;> rfl

end Declaration

end Document

namespace Metadata

theorem Constructor.denote_name {item : Constructor} {names : Names}
    {constructor : Model.Constructor} (denoted : item.denote names = .ok constructor) :
    constructor.name = item.name := by
  obtain ⟨arguments, -, rfl⟩ := denote_eq_ok.mp denoted
  rfl

theorem Method.denote_name {item : Method} {owner : String} {names : Names}
    {method : Model.Method} (denoted : item.denote owner names = .ok method) :
    method.name = item.name := by
  obtain ⟨arguments, -, result, -, rfl⟩ := denote_eq_ok.mp denoted
  rfl

end Metadata

namespace Interface

open NativeBoundary.Action Document Metadata

variable {before after : Interface} {value : Unit}

structure WellNamed (interface : Interface) : Prop where
  records : (interface.records.map Model.Record.name).Nodup
  enums : (interface.enums.map Model.Union.name).Nodup
  errors : (interface.errors.map Model.Union.name).Nodup
  callbacks : (interface.callbacks.map Model.CallbackInterface.name).Nodup
  functions : (interface.functions.map Model.Function.name).Nodup
  objects : DistinctObjects interface
  callables : ∀ object ∈ interface.objects, object.callables.Nodup

theorem wellNamed_empty (version : Option Tag) : WellNamed (empty version) := by
  constructor <;> simp [empty, DistinctObjects]

theorem nodup_append_one {α : Type} {nameOf : α → String} {items : List α} {item : α}
    (distinct : (items.map nameOf).Nodup) (fresh : nameOf item ∉ items.map nameOf) :
    ((items ++ [item]).map nameOf).Nodup := by
  rw [List.map_append, List.map_singleton]
  refine List.nodup_append.mpr ⟨distinct, List.nodup_singleton _, ?_⟩
  rintro name member other inside rfl
  rw [List.mem_singleton.mp inside] at member
  exact fresh member

theorem SameBindings.wellNamed (same : SameBindings before after) (named : WellNamed before) :
    WellNamed after := by
  obtain ⟨registry, -, rfl⟩ := same
  exact { named with }

namespace WellNamed

theorem addRecord {record : Model.Record} (named : WellNamed before)
    (ran : (addRecord record).Yields before value after) : WellNamed after := by
  obtain ⟨-, fresh, rfl⟩ := addTo_yields.mp ran
  exact { named with records := nodup_append_one named.records fresh }

theorem addEnum {union : Model.Union} (named : WellNamed before)
    (ran : (addEnum union).Yields before value after) : WellNamed after := by
  obtain ⟨-, fresh, rfl⟩ := addTo_yields.mp ran
  exact { named with enums := nodup_append_one named.enums fresh }

theorem addError {union : Model.Union} (named : WellNamed before)
    (ran : (addError union).Yields before value after) : WellNamed after := by
  obtain ⟨-, fresh, rfl⟩ := addTo_yields.mp ran
  exact { named with errors := nodup_append_one named.errors fresh }

theorem addCallback {callback : Model.CallbackInterface} (named : WellNamed before)
    (ran : (addCallback callback).Yields before value after) : WellNamed after := by
  obtain ⟨-, fresh, rfl⟩ := addTo_yields.mp ran
  exact { named with callbacks := nodup_append_one named.callbacks fresh }

theorem addFunction {function : Model.Function} {location : Option Location}
    (named : WellNamed before) (ran : (addFunction function location).Yields before value after) :
    WellNamed after := by
  obtain ⟨-, fresh, -, rfl⟩ := addFunction_yields.mp ran
  exact { named with functions := nodup_append_one named.functions fresh }

theorem addSpace {tag : Tag} {location : Option Location} (named : WellNamed before)
    (ran : (addSpace tag location).Yields before value after) : WellNamed after := by
  obtain ⟨-, -, rfl⟩ := addSpace_yields.mp ran
  exact { named with }

theorem addObject {object : Model.Object} (named : WellNamed before)
    (callables : object.callables.Nodup) (ran : (addObject object).Yields before value after) :
    WellNamed after := by
  obtain ⟨-, fresh, rfl⟩ := addTo_yields.mp ran
  refine { named with objects := nodup_append_one named.objects fresh, callables := ?_ }
  intro other member
  rcases List.mem_append.mp member with inside | added
  · exact named.callables other inside
  · rw [List.mem_singleton.mp added]
    exact callables

/-- A reading before an addition leaves the lists alone. -/
theorem reading {α : Type} {action : Action Registry α} {denoted : Names → Except Problem α}
    {add : α → Action Interface Unit} (named : WellNamed before)
    (reads : Registry.Reads action denoted)
    (adds : ∀ {item middle}, denoted before.names = .ok item → WellNamed middle →
      (add item).Yields middle value after → WellNamed after)
    (ran : (onRegistry action >>= add).Yields before value after) : WellNamed after := by
  obtain ⟨item, middle, read, added⟩ := yields_bind.mp ran
  obtain ⟨denotes, same⟩ := onRegistry_yields_of_reads reads read
  exact adds denotes (same.wellNamed named) added

theorem declareOne {declaration : Declaration} (named : WellNamed before)
    (ran : (declareOne declaration).Yields before value after) : WellNamed after := by
  unfold Interface.declareOne at ran
  cases shape : declaration.body with
  | space functions =>
      simp only [shape, yields_lift_bind, yields_bind_unit] at ran
      obtain ⟨_, -, middle, spaced, added⟩ := ran
      refine forAll_invariant ?_ added (named.addSpace spaced)
      intro operation _ first second step namedFirst
      exact namedFirst.reading operation.toFunction_reads (fun _ => addFunction) step
  | dictionary members =>
      simp only [shape] at ran
      exact named.reading (declaration.toRecord_reads members) (fun _ => addRecord) ran
  | enum values =>
      simp only [shape, yields_lift_bind] at ran
      obtain ⟨attributes, -, _, -, added⟩ := ran
      split at added
      · exact named.addError added
      · exact named.addEnum added
  | interface constructors operations =>
      simp only [shape, yields_lift_bind] at ran
      obtain ⟨attributes, -, added⟩ := ran
      have readsVariants := declaration.toVariants_reads constructors operations
      have readsObject := declaration.toObject_reads attributes constructors operations
      split at added
      · exact named.reading readsVariants (fun _ => addEnum) added
      · split at added
        · exact named.reading readsVariants (fun _ => addError) added
        · refine named.reading readsObject (fun denoted namedMiddle => ?_) added
          exact namedMiddle.addObject (Declaration.denoteObject_callables denoted)
  | callbackInterface operations =>
      simp only [shape] at ran
      exact named.reading (declaration.toCallback_reads operations) (fun _ => addCallback) ran
  | typedef typeName =>
      simp only [shape] at ran
      obtain ⟨-, rfl⟩ := yields_pure.mp ran
      exact named

theorem declare {declarations : List Declaration} (named : WellNamed before)
    (ran : (declare declarations).Yields before value after) : WellNamed after :=
  forAll_invariant (fun _ _ _ _ step namedFirst => namedFirst.declareOne step) ran named

theorem mergeObject {item : Metadata.Object} (named : WellNamed before)
    (ran : (mergeObject item).Yields before value after) : WellNamed after := by
  rcases mergeObject_yields.mp ran with ⟨-, rfl⟩ | ⟨fresh, isOpen, rfl⟩
  · exact named
  · have callables : ({ name := item.name } : Model.Object).callables.Nodup := List.nodup_nil
    have added : (Interface.addObject { name := item.name }).Yields before value _ :=
      addTo_yields.mpr ⟨isOpen, fresh, rfl⟩
    exact named.addObject callables added

theorem replaceObject {object : Model.Object} (named : WellNamed before)
    (callables : object.callables.Nodup)
    (ran : (replaceObject object).Yields before value after) : WellNamed after := by
  obtain ⟨-, objects, replaced, rfl⟩ := replaceObject_yields.mp ran
  refine { named with objects := ?_, callables := ?_ }
  · change (objects.map Model.Object.name).Nodup
    rw [replaceFirst_names replaced]
    exact named.objects
  · intro other member
    rw [replaceFirst_eq_map named.objects replaced] at member
    obtain ⟨former, inside, rfl⟩ := List.mem_map.mp member
    split
    · exact callables
    · exact named.callables former inside

theorem mergeConstructor {item : Metadata.Constructor} (named : WellNamed before)
    (ran : (mergeConstructor item).Yields before value after) : WellNamed after := by
  obtain ⟨object, found, fresh, rest⟩ := joining_yields.mp ran
  refine named.reading item.convert_reads (fun denoted namedLast => ?_) rest
  obtain ⟨inside, -⟩ := object?_eq_some found
  refine namedLast.replaceObject ?_
  have apart := named.callables object inside
  change ((object.constructors ++ [_]).map Model.Constructor.name ++ _).Nodup
  rw [List.map_append, List.append_assoc, List.map_singleton, List.singleton_append]
  rw [List.nodup_middle, Constructor.denote_name denoted]
  exact List.nodup_cons.mpr ⟨fresh, apart⟩

theorem mergeMethod {item : Metadata.Method} (named : WellNamed before)
    (ran : (mergeMethod item).Yields before value after) : WellNamed after := by
  obtain ⟨object, found, fresh, rest⟩ := joining_yields.mp ran
  refine named.reading (item.convert_reads object.name) (fun denoted namedLast => ?_) rest
  obtain ⟨inside, -⟩ := object?_eq_some found
  refine namedLast.replaceObject ?_
  have apart := named.callables object inside
  change (_ ++ (object.methods ++ [_]).map Model.Method.name).Nodup
  rw [List.map_append, ← List.append_assoc, List.map_singleton]
  rw [← List.concat_eq_append, List.nodup_concat, Method.denote_name denoted]
  exact ⟨fresh, apart⟩

theorem stand {group : Group} (named : WellNamed before)
    (ran : (stand group).Yields before value after) : WellNamed after := by
  simp only [Interface.stand, yields_bind_unit] at ran
  obtain ⟨_, records, _, enums, _, errors, _, objects, functions⟩ := ran
  have first := forAll_invariant (fun item _ _ _ step namedFirst =>
    namedFirst.reading item.convert_reads (fun _ => addRecord) step) records named
  have second := forAll_invariant (fun item _ _ _ step namedFirst =>
    namedFirst.reading item.convert_reads (fun _ => addEnum) step) enums first
  have third := forAll_invariant (fun item _ _ _ step namedFirst =>
    namedFirst.reading item.convert_reads (fun _ => addError) step) errors second
  have fourth := forAll_invariant (fun _ _ _ _ step namedFirst =>
    namedFirst.mergeObject step) objects third
  exact forAll_invariant (fun item _ _ _ step namedFirst =>
    namedFirst.reading item.convert_reads (fun _ => addFunction) step) functions fourth

theorem populate {group : Group} (named : WellNamed before)
    (ran : (populate group).Yields before value after) : WellNamed after := by
  obtain ⟨stood, built, stands, constructors, methods⟩ := populate_yields.mp ran
  have constructed := forAll_invariant (fun _ _ _ _ step namedFirst =>
    namedFirst.mergeConstructor step) constructors (named.stand stands)
  exact forAll_invariant (fun _ _ _ _ step namedFirst =>
    namedFirst.mergeMethod step) methods constructed

/-- Deriving gives nothing another name. -/
theorem of_declared {interface : Interface} (named : WellNamed interface.declared) :
    WellNamed interface where
  records := named.records
  enums := named.enums
  errors := named.errors
  callbacks := by
    simpa [declared, Function.comp_def, Model.CallbackInterface.declared] using named.callbacks
  functions := by simpa [declared, Function.comp_def, Model.Function.declared] using named.functions
  objects := by
    simpa [DistinctObjects, declared, Function.comp_def, Model.Object.declared] using named.objects
  callables object member := by
    rw [← object.callables_declared]
    exact named.callables object.declared (List.mem_map_of_mem member)

end WellNamed

end Interface

end NativeBoundary

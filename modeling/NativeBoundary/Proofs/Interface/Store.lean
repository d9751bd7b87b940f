import NativeBoundary.Proofs.Interface.Rearrangement
import NativeBoundary.Proofs.Interface.Snapshot

/-!
# The store of declarations

An empty interface is asked for anything, in any order, and what fails is left where it failed.
Names stay in their lists, no list gets a name twice, and a namespace stays once it is given.
Merging and deriving can stop halfway; a single update that fails has changed nothing.
-/

namespace NativeBoundary

open NativeBoundary.Action

/-- The call is a single update: it gives the namespace, or adds or replaces one declaration. -/
def Call.isUpdate : Call → Bool
  | .discover _ | .declare _ | .merge _ | .derive => false
  | _ => true

/-- What an interface can be asked for while it is put together. -/
inductive Request where
  | call (call : Call)
  | check
  | finalize

def Request.perform : Request → Action Interface Unit
  | .call request => request.perform
  | .check => do
      let interface ← Action.get
      Action.lift interface.check
  | .finalize => Interface.finalize

namespace Interface

variable {before after : Interface}

/-- The names in the list of the kind. -/
def namesOf (kind : DeclarationKind) (interface : Interface) : List String :=
  match kind with
  | .enum => interface.enums.map Model.Union.name
  | .record => interface.records.map Model.Record.name
  | .object => interface.objects.map Model.Object.name
  | .callbackInterface => interface.callbacks.map Model.CallbackInterface.name
  | .error => interface.errors.map Model.Union.name
  | .function => interface.functions.map Model.Function.name

/-- Names stay in their lists in their order, none comes twice into a list, and a namespace stays
what it is. -/
structure Persists (before after : Interface) : Prop where
  names : ∀ kind, before.namesOf kind <+: after.namesOf kind
  distinct : (∀ kind, (before.namesOf kind).Nodup) → ∀ kind, (after.namesOf kind).Nodup
  space : ∀ tag, before.space = some tag → after.space = some tag

instance : IsPreorder Interface Persists where
  refl _ := ⟨fun _ => List.prefix_rfl, id, fun _ => id⟩
  trans _ _ _ left right :=
    ⟨fun kind => (left.names kind).trans (right.names kind),
      fun distinct => right.distinct (left.distinct distinct),
      fun tag given => right.space tag (left.space tag given)⟩

theorem persists_of_same (names : ∀ kind, after.namesOf kind = before.namesOf kind)
    (space : after.space = before.space) : Persists before after where
  names := by simp [names]
  distinct := by simp [names]
  space := by simp [space]

/-- One new name comes behind those of one list. -/
theorem persists_of_added {kind : DeclarationKind} {name : String}
    (fresh : name ∉ before.namesOf kind)
    (added : ∀ other, after.namesOf other =
      if other = kind then before.namesOf kind ++ [name] else before.namesOf other)
    (space : after.space = before.space) : Persists before after where
  names other := by
    rw [added]
    split
    · next same => exact same ▸ List.prefix_append _ _
    · exact List.prefix_rfl
  distinct distinct other := by
    rw [added]
    split
    · rw [← List.concat_eq_append]
      exact (distinct kind).concat fresh
    · exact distinct other
  space := by simp [space]

/-! ## Single updates -/

theorem atomic_addSpace (name : Tag) (location : Option Location) :
    Atomic (addSpace name location) := by
  refine quiet_ensureOpen.bind_atomic fun _ => quiet_get.bind_atomic fun interface => ?_
  cases interface.space with
  | none => exact atomic_of_completes fun _ => ⟨(), rfl⟩
  | some existing => exact (quiet_fail _).atomic

theorem atomic_addTo {α : Type} (kind : DeclarationKind) (nameOf : α → String)
    (declared : Interface → List α) (update : List α → Interface → Interface) (item : α) :
    Atomic (addTo kind nameOf declared update item) :=
  quiet_ensureOpen.bind_atomic fun _ => quiet_get.bind_atomic fun _ =>
    (quiet_ensure _ _).bind_atomic fun _ => atomic_of_completes fun _ => ⟨(), rfl⟩

theorem atomic_addFunction (function : Model.Function) (location : Option Location) :
    Atomic (addFunction function location) :=
  quiet_ensureOpen.bind_atomic fun _ => quiet_get.bind_atomic fun _ =>
    (quiet_ensure _ _).bind_atomic fun _ => (quiet_ensure _ _).bind_atomic fun _ =>
      atomic_of_completes fun _ => ⟨(), rfl⟩

theorem atomic_replaceObject (object : Model.Object) : Atomic (replaceObject object) := by
  refine quiet_ensureOpen.bind_atomic fun _ => quiet_get.bind_atomic fun interface => ?_
  cases replaceFirst object interface.objects with
  | none => exact (quiet_fail _).atomic
  | some objects => exact atomic_of_completes fun _ => ⟨(), rfl⟩

theorem atomic_of_isUpdate {call : Call} (update : call.isUpdate = true) :
    Atomic call.perform := by
  cases call with
  | space name location => exact atomic_addSpace name location
  | enum item => exact atomic_addTo _ _ _ _ _
  | record item => exact atomic_addTo _ _ _ _ _
  | object item => exact atomic_addTo _ _ _ _ _
  | callback item => exact atomic_addTo _ _ _ _ _
  | error item => exact atomic_addTo _ _ _ _ _
  | function item location => exact atomic_addFunction item location
  | replace item => exact atomic_replaceObject item
  | discover declarations => cases update
  | declare declarations => cases update
  | merge items => cases update
  | derive => cases update

theorem persists_addTo {α : Type} {kind : DeclarationKind} {nameOf : α → String}
    {declared : Interface → List α} {update : List α → Interface → Interface}
    (list : ∀ interface, interface.namesOf kind = (declared interface).map nameOf)
    (updated : ∀ items interface other, (update items interface).namesOf other =
      if other = kind then items.map nameOf else interface.namesOf other)
    (space : ∀ items interface, (update items interface).space = interface.space) (item : α) :
    Leads Persists (addTo kind nameOf declared update item) := by
  refine (atomic_addTo kind nameOf declared update item).leads fun {before _ _} ran => ?_
  obtain ⟨-, fresh, rfl⟩ := addTo_yields.mp ran
  rw [← list before] at fresh
  refine persists_of_added fresh (fun other => ?_) (space _ _)
  rw [updated, list, List.map_append, List.map_singleton]

theorem persists_addFunction (function : Model.Function) (location : Option Location) :
    Leads Persists (addFunction function location) := by
  refine (atomic_addFunction function location).leads fun {before _ _} ran => ?_
  obtain ⟨-, fresh, -, rfl⟩ := addFunction_yields.mp ran
  refine @persists_of_added _ _ .function _ fresh (fun other => ?_) rfl
  cases other <;> simp [namesOf]

theorem persists_addSpace (name : Tag) (location : Option Location) :
    Leads Persists (addSpace name location) := by
  refine (atomic_addSpace name location).leads fun {before _ _} ran => ?_
  obtain ⟨-, absent, rfl⟩ := addSpace_yields.mp ran
  exact ⟨fun _ => List.prefix_rfl, id, fun tag given => by simp [absent] at given⟩

theorem persists_replaceObject (object : Model.Object) :
    Leads Persists (replaceObject object) := by
  refine (atomic_replaceObject object).leads fun {before _ _} ran => ?_
  obtain ⟨-, objects, replaced, rfl⟩ := replaceObject_yields.mp ran
  refine persists_of_same (fun kind => ?_) rfl
  cases kind with
  | object => exact replaceFirst_names replaced
  | _ => rfl

/-- An action on the registry leaves lists and namespace alone. -/
theorem persists_onRegistry {α : Type} (action : Action Registry α) :
    Leads Persists (onRegistry action) :=
  fun _ => persists_of_same (fun kind => by cases kind <;> rfl) rfl

theorem steady_persists : Steady Persists where
  reading _ := persists_onRegistry _
  space := persists_addSpace
  record := persists_addTo (fun _ => rfl) (fun _ _ other => by cases other <;> rfl) fun _ _ => rfl
  enum := persists_addTo (fun _ => rfl) (fun _ _ other => by cases other <;> rfl) fun _ _ => rfl
  error := persists_addTo (fun _ => rfl) (fun _ _ other => by cases other <;> rfl) fun _ _ => rfl
  callback :=
    persists_addTo (fun _ => rfl) (fun _ _ other => by cases other <;> rfl) fun _ _ => rfl
  object := persists_addTo (fun _ => rfl) (fun _ _ other => by cases other <;> rfl) fun _ _ => rfl
  function := persists_addFunction
  replacement := persists_replaceObject

/-! ## Deriving -/

theorem quiet_ensureWritable : Quiet ensureWritable := by
  intro before
  unfold ensureWritable
  rw [bind_run_ok (rfl : Action.get before = ⟨.ok before, before, []⟩)]
  cases before.breakdown? <;> rfl

/-- Where a derivation is incomplete, nothing comes behind it. -/
theorem leads_orIncomplete_bind {α β : Type} {relation : Interface → Interface → Prop}
    [IsPreorder Interface relation] {given : Option α} {next : α → Action Interface β}
    (leads : ∀ value, given = some value → relation before (next value before).state) :
    relation before ((orIncomplete given >>= next) before).state := by
  cases given with
  | none => exact refl_of relation before
  | some value => exact leads value rfl

/-- Functions are derived already when an object turns out to be incomplete.  All names are the same
in either case. -/
theorem persists_derive : Leads Persists derive := by
  refine (leads_of_state_eq quiet_ensureWritable).bind fun _ => leads_get_bind fun before =>
    leads_orIncomplete_bind fun functions functionsDone => ?_
  have functionNames : functions.map Model.Function.name =
      before.functions.map Model.Function.name :=
    Model.collect_keeps
      (fun done => congrArg Model.Function.name (Model.Function.declared_of_derive done))
      functionsDone
  have functionsDerived : Persists before { before with functions } := by
    refine persists_of_same (fun kind => ?_) rfl
    cases kind with
    | function => exact functionNames
    | _ => rfl
  -- From here on the run may end at an incomplete object, with the functions derived.
  refine trans_of Persists functionsDerived (leads_orIncomplete_bind fun objects objectsDone => ?_)
  have objectNames : objects.map Model.Object.name = before.objects.map Model.Object.name :=
    Model.collect_keeps
      (fun done => congrArg Model.Object.name (Model.Object.declared_of_derive done)) objectsDone
  refine persists_of_same (fun kind => ?_) rfl
  cases kind with
  | object => exact objectNames
  | callbackInterface => exact List.map_map
  | _ => rfl

/-! ## Requests -/

theorem persists_request (request : Request) : Leads Persists request.perform := by
  cases request with
  | call call =>
      exact steady_persists.leads_perform (fun _ => persists_onRegistry _)
        (fun _ => persists_onRegistry _) persists_derive call
  | check => exact leads_get.bind fun _ => leads_lift _
  | finalize => exact fun _ => persists_of_same (fun kind => by cases kind <;> rfl) rfl

/-- The interface after it was asked for each in turn, and whatever failed was left there. -/
def serve (requests : List Request) (interface : Interface) : Interface :=
  requests.foldl (fun current request => (request.perform current).state) interface

theorem persists_serve (requests : List Request) (interface : Interface) :
    Persists interface (serve requests interface) := by
  induction requests generalizing interface with
  | nil => exact refl_of Persists interface
  | cons request rest ih =>
      exact trans_of Persists (persists_request request interface)
        (ih (request.perform interface).state)

/-! ## Look-ups -/

/-- Whatever has a name in one of the lists is what is looked up under it. -/
structure FindsOnly (interface : Interface) : Prop where
  enums : ∀ name, (interface.enums.filter fun declared => declared.name == name) =
    (interface.enum? name).toList
  records : ∀ name, (interface.records.filter fun declared => declared.name == name) =
    (interface.record? name).toList
  objects : ∀ name, (interface.objects.filter fun declared => declared.name == name) =
    (interface.object? name).toList
  callbacks : ∀ name, (interface.callbacks.filter fun declared => declared.name == name) =
    (interface.callback? name).toList
  errors : ∀ name, (interface.errors.filter fun declared => declared.name == name) =
    (interface.error? name).toList
  functions : ∀ name, (interface.functions.filter fun declared => declared.name == name) =
    (interface.function? name).toList

theorem findsOnly_of_distinct {interface : Interface}
    (distinct : ∀ kind, (interface.namesOf kind).Nodup) : FindsOnly interface where
  enums := filter_eq_find? (distinct .enum)
  records := filter_eq_find? (distinct .record)
  objects := filter_eq_find? (distinct .object)
  callbacks := filter_eq_find? (distinct .callbackInterface)
  errors := filter_eq_find? (distinct .error)
  functions := filter_eq_find? (distinct .function)

/-- Whatever an empty interface is asked for, each of its six lists has a name at most once, so that
what is looked up under a name is all that has it.  A namespace and the names in each list stay
whatever comes later.  A single update that fails leaves all as it was. -/
theorem store_of_requests (version : Option Tag) (earlier later : List Request) :
    let reached := serve earlier (empty version)
    let last := serve (earlier ++ later) (empty version)
    (∀ kind, (reached.namesOf kind).Nodup) ∧ FindsOnly reached ∧
    (∀ tag, reached.space = some tag → last.space = some tag) ∧
    (∀ kind, reached.namesOf kind <+: last.namesOf kind) ∧
    ∀ call : Call, call.isUpdate = true → ∀ problem,
      (call.perform reached).result = .error problem → (call.perform reached).state = reached := by
  intro reached last
  have distinct : ∀ kind, (reached.namesOf kind).Nodup :=
    (persists_serve earlier (empty version)).distinct fun kind => by
      cases kind <;> exact List.nodup_nil
  have persists : Persists reached last := by
    have continued : last = serve later reached := List.foldl_append
    exact continued ▸ persists_serve later reached
  exact ⟨distinct, findsOnly_of_distinct distinct, persists.space, persists.names,
    fun call update => atomic_of_isUpdate update reached⟩

/-- A run in which a second namespace, a second record of one name and a method without its object
are turned down, the last only after a record has come with it. -/
def hastyRequests : List Request := [
  .call (.space (.text "shop") none),
  .call (.record { name := "Item" }),
  .call (.space (.text "store") none),
  .call (.record { name := "Item" }),
  .call (.merge [
    .method { crateModule := "shop", owner := "Ghost", name := "haunt" }, lateRecord "Late"]),
  .check,
  .call .derive,
  .finalize]

/-- The finalized interface has the namespace and the records that it got before, and a record that
comes too late changes nothing. -/
theorem store_of_requests_hasty :
    let early := serve (hastyRequests.take 2) (empty none)
    let late := serve hastyRequests (empty none)
    let call := Call.record { name := "New" }
    early.space = some (.text "shop") ∧ late.space = some (.text "shop") ∧
      late.namesOf .record = ["Item", "Late"] ∧ (late.namesOf .record).Nodup ∧
      (call.perform late).result = .error ⟨.finalized, none, none⟩ ∧
      (call.perform late).state = late := by
  intro early late call
  have given : early.space = some (.text "shop") := rfl
  have refused : (call.perform late).result = .error ⟨.finalized, none, none⟩ := by
    decide +kernel
  obtain ⟨-, -, space, -, -⟩ :=
    store_of_requests none (hastyRequests.take 2) (hastyRequests.drop 2)
  obtain ⟨distinct, -, -, -, atomic⟩ := store_of_requests none hastyRequests []
  exact ⟨given, space _ given, by decide +kernel, distinct .record, refused,
    atomic call rfl _ refused⟩

end Interface

end NativeBoundary

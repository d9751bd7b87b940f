import Mathlib.Data.List.Nodup
import NativeBoundary.Proofs.Action.Results
import NativeBoundary.Proofs.Build.Addition

/-!
# Members that metadata gives to objects

A constructor or a method of a metadata group goes behind those of the object of its owner's name.
Objects are replaced one by one, each as often as it gets a member; where their names are distinct,
all replacements together carry every object over to the one with all of its members, and change
neither the order of the objects nor anything else.
-/

namespace NativeBoundary.Interface

open NativeBoundary.Action Metadata

variable {before middle after : Interface} {value : Unit}

/-- Every object is carried over to what a reading makes of it; nothing else changes. -/
structure Carries (read : Model.Object → Except Problem Model.Object)
    (before after : Interface) : Prop where
  bindings : after.registry.bindings = before.registry.bindings
  contents_eq : after.contents = before.contents.through read

namespace Carries

variable {read readNext : Model.Object → Except Problem Model.Object}

theorem objects_eq (carries : Carries read before after) :
    after.objects.map .ok = before.objects.map read := by
  have objects := congrArg Contents.objects carries.contents_eq
  change after.objects.map Except.ok = (before.objects.map Except.ok).map (· >>= read) at objects
  rw [objects, List.map_map]
  rfl

theorem refl (interface : Interface) : Carries pure interface interface :=
  ⟨rfl, (Contents.through_pure _).symm⟩

theorem trans (left : Carries read before middle) (right : Carries readNext middle after) :
    Carries (fun object => read object >>= readNext) before after where
  bindings := right.bindings.trans left.bindings
  contents_eq := by
    rw [right.contents_eq, left.contents_eq, Contents.through_through]

theorem congr (carries : Carries read before after)
    (same : ∀ object ∈ before.objects, read object = readNext object) :
    Carries readNext before after where
  bindings := carries.bindings
  contents_eq := by
    rw [carries.contents_eq]
    apply Contents.through_congr
    intro result member
    obtain ⟨object, inside, rfl⟩ := List.mem_map.mp member
    exact same object inside

theorem names_eq (carries : Carries read before after) : after.names = before.names :=
  Registry.names_eq_of_bindings carries.bindings

/-- Readings that keep names keep the list of names. -/
theorem objectNames_eq (carries : Carries read before after)
    (keeps : ∀ {object result}, read object = .ok result → result.name = object.name) :
    after.objects.map Model.Object.name = before.objects.map Model.Object.name :=
  Results.keys_of_map_ok keeps carries.objects_eq.symm

end Carries

/-- The objects of an interface have names of their own. -/
def DistinctObjects (interface : Interface) : Prop :=
  (interface.objects.map Model.Object.name).Nodup

theorem object?_eq_some {name : String} {object : Model.Object}
    (found : before.object? name = some object) :
    object ∈ before.objects ∧ object.name = name := by
  have accepted := List.find?_some found
  exact ⟨List.mem_of_find?_eq_some found, eq_of_beq accepted⟩

theorem eq_of_object? {name : String} {object other : Model.Object}
    (distinct : DistinctObjects before) (found : before.object? name = some object)
    (member : other ∈ before.objects) (same : other.name = name) : other = object := by
  obtain ⟨inside, named⟩ := object?_eq_some found
  exact List.inj_on_of_nodup_map distinct member inside (same.trans named.symm)

theorem ensureNewMember_bind_yields {β : Type} {kind : MemberKind} {name : String}
    {object : Model.Object} {next : Unit → Action Interface β} {result : β} :
    (ensureNewMember kind name object >>= next).Yields before result after ↔
      name ∉ object.constructors.map Model.Constructor.name ++
          object.methods.map Model.Method.name ∧
        (next ()).Yields before result after := by
  simp only [ensureNewMember, yields_ensure_bind, List.contains_eq_mem, Bool.not_eq_true',
    decide_eq_false_iff_not]

theorem owningObject_yields {owner member : String} {object : Model.Object} :
    (owningObject owner member).Yields before object after ↔
      before.object? owner = some object ∧ after = before := by
  cases found : before.object? owner with
  | none => simp [owningObject, found]
  | some declared => simp [owningObject, found, eq_comm]

/-- A member joins the object of its owner's name, where no callable may have the member's name. -/
theorem joining_yields {β : Type} {kind : MemberKind} {owner name : String}
    {next : Model.Object → Action Interface β} {result : β} :
    (owningObject owner name >>= fun object =>
        ensureNewMember kind name object >>= fun _ => next object).Yields before result after ↔
      ∃ object, before.object? owner = some object ∧
        name ∉ object.constructors.map Model.Constructor.name ++
          object.methods.map Model.Method.name ∧
        (next object).Yields before result after := by
  constructor
  · intro ran
    obtain ⟨object, _, owned, rest⟩ := yields_bind.mp ran
    obtain ⟨found, rfl⟩ := owningObject_yields.mp owned
    exact ⟨object, found, ensureNewMember_bind_yields.mp rest⟩
  · rintro ⟨object, found, rest⟩
    exact yields_bind.mpr ⟨object, before, owningObject_yields.mpr ⟨found, rfl⟩,
      ensureNewMember_bind_yields.mpr rest⟩

/-- One member is read and put to the object of its owner's name. -/
theorem carries_of_joining {β : Type} {kind : MemberKind} {owner name : String}
    {convert : String → Action Registry β} {denoted : String → Names → Except Problem β}
    (put : Model.Object → β → Model.Object)
    (reads : ∀ owner, Registry.Reads (convert owner) (denoted owner))
    (putName : ∀ object item, (put object item).name = object.name)
    (distinct : DistinctObjects before)
    (ran : (owningObject owner name >>= fun object => ensureNewMember kind name object >>= fun _ =>
      onRegistry (convert object.name) >>= fun item =>
        replaceObject (put object item)).Yields before value after) :
    Carries (fun object => if object.name = owner then put object <$> denoted owner before.names
      else pure object) before after := by
  obtain ⟨object, found, -, rest⟩ := joining_yields.mp ran
  obtain ⟨item, middle, converted, replaced⟩ := yields_bind.mp rest
  obtain ⟨read, registry, bindings, rfl⟩ :=
    onRegistry_yields_of_reads (reads object.name) converted
  obtain ⟨-, objects, done, rfl⟩ := replaceObject_yields.mp replaced
  obtain ⟨-, named⟩ := object?_eq_some found
  rw [named] at read
  refine ⟨bindings, congrArg (fun objects => { before.contents with objects }) ?_⟩
  rw [replaceFirst_eq_map distinct done, contents, List.map_map, List.map_map]
  apply List.map_congr_left
  intro other member
  change Except.ok (if other.name = _ then _ else _) = _
  rw [putName, named]
  change _ = if other.name = owner then _ else _
  by_cases sameName : other.name = owner
  · rw [if_pos sameName, if_pos sameName, read,
      eq_of_object? distinct found member sameName]
    rfl
  · rw [if_neg sameName, if_neg sameName]
    rfl

section Members

variable {α β : Type} {action : α → Action Interface Unit} {ownerOf : α → String}
  {denoted : String → α → Names → Except Problem β} {put : Model.Object → List β → Model.Object}

/-- The members of a list that belong to an object, read and put to it all at once. -/
def gather (ownerOf : α → String) (denoted : String → α → Names → Except Problem β)
    (put : Model.Object → List β → Model.Object) (items : List α) (names : Names)
    (object : Model.Object) : Except Problem Model.Object :=
  put object <$> (items.filter fun item => ownerOf item = object.name).mapM
    (denoted object.name · names)

theorem gather_nil (putNil : ∀ object, put object [] = object) (names : Names)
    (object : Model.Object) : gather ownerOf denoted put [] names object = pure object := by
  change Except.ok (put object []) = Except.ok object
  rw [putNil]

theorem gather_cons (putName : ∀ object items, (put object items).name = object.name)
    (putAppend : ∀ object first rest, put (put object first) rest = put object (first ++ rest))
    (item : α) (rest : List α) (names : Names) (object : Model.Object) :
    gather ownerOf denoted put (item :: rest) names object =
      (if object.name = ownerOf item then
          (fun read => put object [read]) <$> denoted (ownerOf item) item names
        else pure object) >>= gather ownerOf denoted put rest names := by
  unfold gather
  by_cases owned : ownerOf item = object.name
  · rw [List.filter_cons_of_pos (by simpa using owned), if_pos owned.symm, List.mapM_cons, owned]
    cases denoted object.name item names with
    | error problem => rfl
    | ok read =>
        change put object <$> (Except.ok read >>= fun first => _ >>= fun others => _) =
          put (put object [read]) <$> (rest.filter fun item =>
            ownerOf item = (put object [read]).name).mapM (denoted (put object [read]).name · names)
        rw [putName]
        cases (rest.filter fun item => ownerOf item = object.name).mapM
            (denoted object.name · names) with
        | error problem => rfl
        | ok others => exact congrArg Except.ok (putAppend object [read] others).symm
  · rw [List.filter_cons_of_neg (by simpa using owned), if_neg (Ne.symm owned)]
    rfl

theorem gather_name (put : Model.Object → List β → Model.Object)
    (putName : ∀ object items, (put object items).name = object.name) {items : List α}
    {names : Names} {object result : Model.Object}
    (gathered : gather ownerOf denoted put items names object = .ok result) :
    result.name = object.name := by
  obtain ⟨members, -, rfl⟩ := Results.map_eq_ok.mp gathered
  exact putName object members

/-- Replacing objects member by member comes to the same as giving each all of its members. -/
theorem carries_of_members (ownerOf : α → String) (denoted : String → α → Names → Except Problem β)
    (put : Model.Object → List β → Model.Object)
    (putName : ∀ object items, (put object items).name = object.name)
    (putNil : ∀ object, put object [] = object)
    (putAppend : ∀ object first rest, put (put object first) rest = put object (first ++ rest))
    (step : ∀ {item first result second}, DistinctObjects first →
      (action item).Yields first result second →
      Carries (fun object => if object.name = ownerOf item then
          (fun read => put object [read]) <$> denoted (ownerOf item) item first.names
        else pure object) first second)
    {items : List α} (distinct : DistinctObjects before)
    (ran : (forAll action items).Yields before value after) :
    Carries (gather ownerOf denoted put items before.names) before after := by
  induction items generalizing before with
  | nil =>
      rw [yields_forAll_nil] at ran
      rw [ran]
      exact (Carries.refl before).congr fun object _ =>
        (gather_nil putNil before.names object).symm
  | cons item rest ih =>
      rw [yields_forAll_cons] at ran
      obtain ⟨middle, first, others⟩ := ran
      have carriesFirst := step distinct first
      have sameNames := carriesFirst.objectNames_eq (by
        intro object result read
        split at read
        · obtain ⟨member, -, rfl⟩ := Results.map_eq_ok.mp read
          exact putName object [member]
        · cases read
          rfl)
      have distinctMiddle : DistinctObjects middle := by
        unfold DistinctObjects
        rw [sameNames]
        exact distinct
      have carriesRest := ih distinctMiddle others
      rw [carriesFirst.names_eq] at carriesRest
      exact (carriesFirst.trans carriesRest).congr fun object _ =>
        (gather_cons putName putAppend item rest before.names object).symm

end Members

theorem carries_of_mergeConstructor {item : Metadata.Constructor}
    (distinct : DistinctObjects before)
    (ran : (mergeConstructor item).Yields before value after) :
    Carries (fun object => if object.name = item.owner then
        (fun read => Group.withConstructors object [read]) <$> item.denote before.names
      else pure object) before after :=
  carries_of_joining (fun object read => Group.withConstructors object [read])
    (fun _ => item.convert_reads) (fun _ _ => rfl) distinct ran

theorem carries_of_mergeMethod {item : Metadata.Method} (distinct : DistinctObjects before)
    (ran : (mergeMethod item).Yields before value after) :
    Carries (fun object => if object.name = item.owner then
        (fun read => Group.withMethods object [read]) <$> item.denote item.owner before.names
      else pure object) before after :=
  carries_of_joining (fun object read => Group.withMethods object [read]) item.convert_reads
    (fun _ _ => rfl) distinct ran

theorem withConstructors_append (object : Model.Object) (first rest : List Model.Constructor) :
    Group.withConstructors (Group.withConstructors object first) rest =
      Group.withConstructors object (first ++ rest) := by
  simp [Group.withConstructors]

theorem withConstructors_nil (object : Model.Object) :
    Group.withConstructors object [] = object := by
  simp [Group.withConstructors]

theorem withMethods_append (object : Model.Object) (first rest : List Model.Method) :
    Group.withMethods (Group.withMethods object first) rest =
      Group.withMethods object (first ++ rest) := by
  simp [Group.withMethods]

theorem withMethods_nil (object : Model.Object) : Group.withMethods object [] = object := by
  simp [Group.withMethods]

/-- Both loops over the members of a group complete every object. -/
theorem carries_of_mergeMembers {group : Group} (distinct : DistinctObjects before)
    (constructed : (forAll mergeConstructor group.constructors).Yields before value middle)
    (equipped : (forAll mergeMethod group.methods).Yields middle value after) :
    Carries (group.complete before.names) before after := by
  have first := carries_of_members Metadata.Constructor.owner (fun _ item => item.denote)
    Group.withConstructors (fun _ _ => rfl) withConstructors_nil withConstructors_append
    carries_of_mergeConstructor distinct constructed
  have sameNames := first.objectNames_eq (gather_name Group.withConstructors fun _ _ => rfl)
  have distinctMiddle : DistinctObjects middle := by
    unfold DistinctObjects
    rw [sameNames]
    exact distinct
  have second := carries_of_members Metadata.Method.owner (fun owner item => item.denote owner)
    Group.withMethods (fun _ _ => rfl) withMethods_nil withMethods_append
    carries_of_mergeMethod distinctMiddle equipped
  rw [first.names_eq] at second
  refine (first.trans second).congr fun object _ => ?_
  unfold gather Group.complete
  cases (group.constructors.filter fun item => item.owner = object.name).mapM
      (Metadata.Constructor.denote · before.names) with
  | error problem => rfl
  | ok constructors => rfl

end NativeBoundary.Interface

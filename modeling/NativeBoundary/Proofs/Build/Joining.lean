import NativeBoundary.Proofs.Build.Admission

/-!
# Metadata that is admitted

Items of a metadata group that stand on their own enter like declarations; an object that is there
already is left as it is, so objects are never refused.  A constructor or a method joins the object
of its owner's name, which must be there, under a name that no callable of the object has.
-/

namespace NativeBoundary

namespace Metadata

theorem Record.denote_name {item : Record} {names : Names} {record : Model.Record}
    (denoted : item.denote names = .ok record) : record.name = item.name := by
  obtain ⟨fields, -, rfl⟩ := denote_eq_ok.mp denoted
  rfl

theorem Enum.denote_name {item : Enum} {names : Names} {union : Model.Union}
    (denoted : item.denote names = .ok union) : union.name = item.name := by
  obtain ⟨variants, -, rfl⟩ := denote_eq_ok.mp denoted
  rfl

theorem Error.denote_name {item : Error} {names : Names} {union : Model.Union}
    (denoted : item.denote names = .ok union) : union.name = item.name := by
  rcases denote_eq_ok.mp denoted with ⟨-, rfl⟩ | ⟨-, variants, -, rfl⟩ <;> rfl

theorem Function.denote_name {item : Function} {names : Names} {function : Model.Function}
    (denoted : item.denote names = .ok function) : function.name = item.name := by
  obtain ⟨arguments, -, result, -, rfl⟩ := denote_eq_ok.mp denoted
  rfl

namespace Group

/-- What a group takes, apart from its objects. -/
def entries (group : Group) : List Entry :=
  (group.records.map fun item => .declared .record item.name) ++
    ((group.enums.map fun item => .declared .enum item.name) ++
      ((group.errors.map fun item => .declared .error item.name) ++
        group.functions.map fun item => .declared .function item.name))

/-- The members of a group, each with its owner. -/
def members (group : Group) : List (String × String) :=
  (group.constructors.map fun item => (item.owner, item.name)) ++
    group.methods.map fun item => (item.owner, item.name)

/-- Everything in a group can be read. -/
structure Readable (group : Group) (names : Names) : Prop where
  records : ∀ item ∈ group.records, ∃ record, item.denote names = .ok record
  enums : ∀ item ∈ group.enums, ∃ union, item.denote names = .ok union
  errors : ∀ item ∈ group.errors, ∃ union, item.denote names = .ok union
  functions : ∀ item ∈ group.functions, ∃ function, item.denote names = .ok function
  constructors : ∀ item ∈ group.constructors, ∃ constructor, item.denote names = .ok constructor
  methods : ∀ item ∈ group.methods, ∃ method, item.denote item.owner names = .ok method

end Group

end Metadata

/-- The members of all objects of an interface, each with its owner. -/
def Interface.members (interface : Interface) : List (String × String) :=
  interface.objects.flatMap fun object => object.callables.map (object.name, ·)

namespace Interface

open NativeBoundary.Action Metadata

variable {before middle after : Interface} {value : Unit}

/-! ## Items that stand on their own -/

theorem enters_mergeRecord (item : Metadata.Record) :
    Enters (mergeRecord item) (fun names => ∃ record, item.denote names = .ok record)
      [.declared .record item.name] :=
  Enters.reading item.convert_reads fun denoted => by
    rw [← Record.denote_name denoted]
    exact enters_addRecord _

theorem enters_mergeEnum (item : Metadata.Enum) :
    Enters (mergeEnum item) (fun names => ∃ union, item.denote names = .ok union)
      [.declared .enum item.name] :=
  Enters.reading item.convert_reads fun denoted => by
    rw [← Enum.denote_name denoted]
    exact enters_addEnum _

theorem enters_mergeError (item : Metadata.Error) :
    Enters (mergeError item) (fun names => ∃ union, item.denote names = .ok union)
      [.declared .error item.name] :=
  Enters.reading item.convert_reads fun denoted => by
    rw [← Error.denote_name denoted]
    exact enters_addError _

theorem enters_mergeFunction (item : Metadata.Function) :
    Enters (mergeFunction item) (fun names => ∃ function, item.denote names = .ok function)
      [.declared .function item.name] :=
  Enters.reading item.convert_reads fun denoted => by
    rw [← Function.denote_name denoted]
    exact enters_addFunction _ _

theorem completes_mergeObjects (isOpen : before.finalized = false)
    (items : List Metadata.Object) : (forAll mergeObject items).Completes before := by
  induction items generalizing before with
  | nil => exact completes_forAll_nil.mpr trivial
  | cons item rest ih =>
      rw [completes_forAll_cons]
      by_cases known : item.name ∈ before.objects.map Model.Object.name
      · exact ⟨before, mergeObject_yields.mpr (.inl ⟨known, rfl⟩), ih isOpen⟩
      · exact ⟨_, mergeObject_yields.mpr (.inr ⟨known, isOpen, rfl⟩), ih isOpen⟩

theorem mem_freshNames {name : String} {declared names : List String} :
    name ∈ Group.freshNames declared names ↔ name ∈ names ∧ name ∉ declared := by
  simp [Group.freshNames, List.mem_eraseDups]

theorem freshNames_nodup (declared names : List String) :
    (Group.freshNames declared names).Nodup := by
  induction names generalizing declared with
  | nil => simp [Group.freshNames]
  | cons name rest ih =>
      by_cases known : name ∈ declared
      · rw [freshNames_cons_of_mem rest known]
        exact ih declared
      · rw [freshNames_cons_of_not_mem rest known]
        refine List.nodup_cons.mpr ⟨fun later => ?_, ih _⟩
        exact (mem_freshNames.mp later).2 (List.mem_append_right _ List.mem_cons_self)

theorem grown_of_mergeObjects {items : List Metadata.Object}
    (ran : (forAll mergeObject items).Yields before value after) :
    Grown ((Group.freshNames (before.objects.map Model.Object.name)
      (items.map Metadata.Object.name)).map (.declared .object ·)) before after := by
  rw [mergeObjects_yields ran]
  refine ⟨rfl, rfl, fun _ => rfl, rfl, List.perm_iff_count.mpr fun _ => ?_⟩
  simp only [entries, List.map_append, List.map_map, Function.comp_def, List.count_append]
  omega

theorem mem_entries_of_mergeObjects {items : List Metadata.Object} {entry : Entry}
    (ran : (forAll mergeObject items).Yields before value after) :
    entry ∈ after.entries ↔ entry ∈ before.entries ∨
      entry ∈ items.map fun item => .declared .object item.name := by
  rw [(grown_of_mergeObjects ran).mem_iff]
  constructor
  · rintro (taken | added)
    · exact .inl taken
    · obtain ⟨name, fresh, rfl⟩ := List.mem_map.mp added
      obtain ⟨item, inside, rfl⟩ := List.mem_map.mp (mem_freshNames.mp fresh).1
      exact .inr (List.mem_map_of_mem inside)
  · rintro (taken | offered)
    · exact .inl taken
    · obtain ⟨item, inside, rfl⟩ := List.mem_map.mp offered
      by_cases known : item.name ∈ before.objects.map Model.Object.name
      · exact .inl (mem_entries.mpr known)
      · exact .inr (List.mem_map_of_mem
          (mem_freshNames.mpr ⟨List.mem_map_of_mem inside, known⟩))

/-- Merged objects take no name twice. -/
theorem distinct_of_mergeObjects {items : List Metadata.Object} (distinct : before.entries.Nodup)
    (ran : (forAll mergeObject items).Yields before value after) : after.entries.Nodup := by
  rw [(grown_of_mergeObjects ran).entries_perm.nodup_iff]
  have injective : Function.Injective (Entry.declared .object) :=
    fun _ _ same => (Entry.declared.inj same).2
  refine List.nodup_append.mpr ⟨distinct, (freshNames_nodup _ _).map injective, ?_⟩
  rintro entry taken _ added rfl
  obtain ⟨name, fresh, rfl⟩ := List.mem_map.mp added
  exact (mem_freshNames.mp fresh).2 (mem_entries.mp taken)

/-- Merged objects take no room from functions. -/
theorem room_functions_iff {items : List Metadata.Object} {functions : List Metadata.Function}
    (distinct : before.entries.Nodup)
    (ran : (forAll mergeObject items).Yields before value after) :
    Room (functions.map fun item => .declared .function item.name) after ↔
      Room (functions.map fun item => .declared .function item.name) before := by
  have grown := grown_of_mergeObjects ran
  have taken : ∀ entry ∈ functions.map fun item => Entry.declared .function item.name,
      entry ∈ after.entries ↔ entry ∈ before.entries := by
    intro entry member
    obtain ⟨item, -, rfl⟩ := List.mem_map.mp member
    simp [grown.entries_perm.mem_iff]
  have distinctAfter := distinct_of_mergeObjects distinct ran
  have same : (after.entries ++ functions.map fun item =>
        Entry.declared .function item.name).Nodup ↔
      (before.entries ++ functions.map fun item => Entry.declared .function item.name).Nodup := by
    rw [List.nodup_append', List.nodup_append', List.disjoint_right, List.disjoint_right]
    simp +contextual only [distinct, distinctAfter, taken]
  constructor
  · rintro ⟨apart, unbound⟩
    rw [grown.names_eq] at unbound
    exact ⟨same.mp apart, unbound⟩
  · rintro ⟨apart, unbound⟩
    rw [← grown.names_eq] at unbound
    exact ⟨same.mpr apart, unbound⟩

theorem admits_objectsAndFunctions (objects : List Metadata.Object)
    (functions : List Metadata.Function) :
    Admits (forAll mergeObject objects >>= fun _ => forAll mergeFunction functions)
      (fun names => ∀ item ∈ functions, ∃ function, item.denote names = .ok function)
      (functions.map fun item => .declared .function item.name) := by
  intro before isOpen distinct
  have enters := Enters.forAllOne enters_mergeFunction functions
  obtain ⟨_, middle, ran⟩ := completes_mergeObjects isOpen objects
  have grown := grown_of_mergeObjects ran
  have admits := enters.admits (grown.finalized.trans isOpen)
    (distinct_of_mergeObjects distinct ran)
  rw [grown.names_eq, room_functions_iff distinct ran] at admits
  rw [← admits, completes_bind_unit]
  constructor
  · rintro ⟨other, ranOther, rest⟩
    rw [mergeObjects_yields ranOther, ← mergeObjects_yields ran] at rest
    exact rest
  · intro rest
    exact ⟨middle, ran, rest⟩

theorem admits_stand (group : Group) :
    Admits (stand group)
      (fun names => (∀ item ∈ group.records, ∃ record, item.denote names = .ok record) ∧
        (∀ item ∈ group.enums, ∃ union, item.denote names = .ok union) ∧
        (∀ item ∈ group.errors, ∃ union, item.denote names = .ok union) ∧
        ∀ item ∈ group.functions, ∃ function, item.denote names = .ok function)
      group.entries := by
  have behind := admits_objectsAndFunctions group.objects group.functions
  exact (Enters.forAllOne enters_mergeRecord group.records).bind_admits
    ((Enters.forAllOne enters_mergeEnum group.enums).bind_admits
      ((Enters.forAllOne enters_mergeError group.errors).bind_admits behind))

/-- What stands on its own changes no label and takes the namespace from nobody. -/
theorem grown_of_stand {group : Group} (ran : (stand group).Yields before value after) :
    ∃ made, Entry.space ∉ made ∧ Grown made before after := by
  simp only [stand, yields_bind_unit] at ran
  obtain ⟨_, records, _, enums, _, errors, _, objects, functions⟩ := ran
  have grown := ((Enters.forAllOne enters_mergeRecord group.records).grown records).trans
    (((Enters.forAllOne enters_mergeEnum group.enums).grown enums).trans
      (((Enters.forAllOne enters_mergeError group.errors).grown errors).trans
        ((grown_of_mergeObjects objects).trans
          ((Enters.forAllOne enters_mergeFunction group.functions).grown functions))))
  exact ⟨_, by simp, grown⟩

theorem mem_entries_of_stand {group : Group} {entry : Entry}
    (ran : (stand group).Yields before value after) :
    entry ∈ after.entries ↔ entry ∈ before.entries ∨ entry ∈ group.entries ∨
      entry ∈ group.objects.map fun item => .declared .object item.name := by
  simp only [stand, yields_bind_unit] at ran
  obtain ⟨_, records, _, enums, _, errors, _, objects, functions⟩ := ran
  rw [((Enters.forAllOne enters_mergeFunction group.functions).grown functions).mem_iff,
    mem_entries_of_mergeObjects objects,
    ((Enters.forAllOne enters_mergeError group.errors).grown errors).mem_iff,
    ((Enters.forAllOne enters_mergeEnum group.enums).grown enums).mem_iff,
    ((Enters.forAllOne enters_mergeRecord group.records).grown records).mem_iff]
  simp only [Group.entries, List.mem_append]
  grind

theorem objects_of_stand {group : Group} (ran : (stand group).Yields before value after) :
    after.objects = before.objects ++ (Group.freshNames (before.objects.map Model.Object.name)
      (group.objects.map Metadata.Object.name)).map fun name => ({ name } : Model.Object) := by
  have objects := congrArg Contents.objects (adds_of_stand ran).contents_eq
  change after.objects.map Except.ok = before.objects.map Except.ok ++ List.map _ _ at objects
  rw [← Function.comp_def Except.ok, ← List.map_map, ← List.map_append] at objects
  exact Results.eq_of_map_ok objects

/-! ## Members that join objects -/

/-- Members were put to objects that were there, and nothing else changed. -/
structure Joined (members : List (String × String)) (before after : Interface) : Prop where
  bindings : after.registry.bindings = before.registry.bindings
  version : after.version = before.version
  space : after.space = before.space
  finalized : after.finalized = before.finalized
  entries : after.entries = before.entries
  objectNames : after.objects.map Model.Object.name = before.objects.map Model.Object.name
  members_perm : after.members.Perm (before.members ++ members)

namespace Joined

variable {first second : List (String × String)}

theorem refl (interface : Interface) : Joined [] interface interface :=
  ⟨rfl, rfl, rfl, rfl, rfl, rfl, by rw [List.append_nil]⟩

theorem trans (left : Joined first before middle) (right : Joined second middle after) :
    Joined (first ++ second) before after where
  bindings := right.bindings.trans left.bindings
  version := right.version.trans left.version
  space := right.space.trans left.space
  finalized := right.finalized.trans left.finalized
  entries := right.entries.trans left.entries
  objectNames := right.objectNames.trans left.objectNames
  members_perm := by
    rw [← List.append_assoc]
    exact right.members_perm.trans (left.members_perm.append_right second)

theorem names_eq (joined : Joined first before after) : after.names = before.names :=
  Registry.names_eq_of_bindings joined.bindings

theorem distinct (joined : Joined first before after) (distinct : DistinctObjects before) :
    DistinctObjects after := by
  unfold DistinctObjects
  rw [joined.objectNames]
  exact distinct

end Joined

/-- A member can be read, and its object is there and has no callable of its name. -/
structure Joins (action : Action Interface Unit) (readable : Names → Prop)
    (member : String × String) : Prop where
  completes_iff : ∀ {before : Interface}, before.finalized = false → DistinctObjects before →
    (action.Completes before ↔ readable before.names ∧
      member.1 ∈ before.objects.map Model.Object.name ∧ member ∉ before.members)
  joined : ∀ {before after : Interface} {value : Unit},
    action.Yields before value after → Joined [member] before after

theorem replaceFirst_of_split {former object : Model.Object} {front rest : List Model.Object}
    (apart : ∀ other ∈ front, other.name ≠ object.name) (same : former.name = object.name) :
    replaceFirst object (front ++ former :: rest) = some (front ++ object :: rest) := by
  induction front with
  | nil => simp [replaceFirst, same]
  | cons first others ih =>
      have differs := apart first List.mem_cons_self
      have later := ih fun other member => apart other (List.mem_cons_of_mem first member)
      simp [replaceFirst, differs, later]

/-- The object that a name finds is the one that is replaced under that name. -/
theorem replaceFirst_of_object? {owner : String} {former object : Model.Object}
    (found : before.object? owner = some former) (named : object.name = owner) :
    ∃ front rest, before.objects = front ++ former :: rest ∧
      replaceFirst object before.objects = some (front ++ object :: rest) := by
  obtain ⟨-, formerNamed⟩ := object?_eq_some found
  obtain ⟨-, front, rest, split, apart⟩ := List.find?_eq_some_iff_append.mp found
  refine ⟨front, rest, split, ?_⟩
  rw [split]
  refine replaceFirst_of_split (fun other member same => ?_) (formerNamed.trans named.symm)
  have turnedDown := apart other member
  simp [same, named] at turnedDown

theorem mem_members_iff {owner name : String} {object : Model.Object}
    (distinct : DistinctObjects before) (found : before.object? owner = some object) :
    (owner, name) ∈ before.members ↔ name ∈ object.callables := by
  obtain ⟨inside, named⟩ := object?_eq_some found
  simp only [members, List.mem_flatMap, List.mem_map, Prod.mk.injEq]
  constructor
  · rintro ⟨other, member, callable, has, same, rfl⟩
    rw [← eq_of_object? distinct found member same]
    exact has
  · intro has
    exact ⟨object, inside, name, has, named, rfl⟩

/-- A member that is read for the object of its owner's name and put to it. -/
theorem joins_of_reading {β : Type} {kind : MemberKind} {owner name : String}
    {convert : String → Action Registry β} {denoted : String → Names → Except Problem β}
    {put : Model.Object → β → Model.Object}
    (reads : ∀ owner, Registry.Reads (convert owner) (denoted owner))
    (putName : ∀ object read, (put object read).name = object.name)
    (putCallables : ∀ object {read names}, denoted owner names = .ok read →
      (put object read).callables.Perm (name :: object.callables)) :
    Joins (owningObject owner name >>= fun object =>
        ensureNewMember kind name object >>= fun _ =>
          onRegistry (convert object.name) >>= fun read => replaceObject (put object read))
      (fun names => ∃ read, denoted owner names = .ok read) (owner, name) where
  completes_iff {before} isOpen distinct := by
    constructor
    · rintro ⟨_, after, ran⟩
      obtain ⟨object, found, fresh, rest⟩ := joining_yields.mp ran
      obtain ⟨read, last, converted, -⟩ := yields_bind.mp rest
      obtain ⟨denotes, -⟩ := onRegistry_yields_of_reads (reads object.name) converted
      obtain ⟨inside, named⟩ := object?_eq_some found
      rw [named] at denotes
      refine ⟨⟨read, denotes⟩, List.mem_map.mpr ⟨object, inside, named⟩, ?_⟩
      rwa [mem_members_iff distinct found]
    · rintro ⟨⟨read, denotes⟩, there, fresh⟩
      obtain ⟨object, found⟩ := Option.ne_none_iff_exists'.mp
        fun absent => object?_eq_none_iff.mp absent there
      obtain ⟨-, named⟩ := object?_eq_some found
      have converts : (onRegistry (convert object.name)).Completes before := by
        rw [onRegistry, completes_onPart, completes_iff_result, named]
        exact ⟨read, ((reads owner).result _).trans denotes⟩
      obtain ⟨given, middle, converted⟩ := converts
      obtain ⟨-, registry, -, rfl⟩ := onRegistry_yields_of_reads (reads object.name) converted
      obtain ⟨front, behind, -, replaced⟩ := replaceFirst_of_object? found
        ((putName object given).trans named)
      rw [mem_members_iff distinct found] at fresh
      exact ⟨(), _, joining_yields.mpr ⟨object, found, fresh, yields_bind.mpr ⟨given, _, converted,
        replaceObject_yields.mpr ⟨isOpen, _, replaced, rfl⟩⟩⟩⟩
  joined {before after value} ran := by
    obtain ⟨object, found, -, rest⟩ := joining_yields.mp ran
    obtain ⟨read, last, converted, replaced⟩ := yields_bind.mp rest
    obtain ⟨denotes, registry, bindings, rfl⟩ :=
      onRegistry_yields_of_reads (reads object.name) converted
    obtain ⟨-, objects, done, rfl⟩ := replaceObject_yields.mp replaced
    obtain ⟨-, named⟩ := object?_eq_some found
    rw [named] at denotes
    obtain ⟨front, behind, split, replacedHere⟩ := replaceFirst_of_object? found
      ((putName object read).trans named)
    cases done.symm.trans replacedHere
    have names : (front ++ put object read :: behind).map Model.Object.name =
        before.objects.map Model.Object.name := by
      simp [split, putName]
    refine ⟨bindings, rfl, rfl, rfl, ?_, names, ?_⟩
    · simp only [entries, ← List.map_map, ← Function.comp_def (Entry.declared .object), names]
    · refine List.perm_iff_count.mpr fun member => ?_
      have callables := ((putCallables object denotes).map (owner, ·)).count_eq member
      rw [List.map_cons, ← List.singleton_append, List.count_append] at callables
      simp only [members, split, putName, named, List.flatMap_append, List.flatMap_cons,
        List.count_append, callables]
      omega

theorem joins_mergeConstructor (item : Metadata.Constructor) :
    Joins (mergeConstructor item)
      (fun names => ∃ constructor, item.denote names = .ok constructor)
      (item.owner, item.name) :=
  joins_of_reading (fun _ => item.convert_reads) (fun _ _ => rfl) fun object {read _} denoted => by
    change ((object.constructors ++ [read]).map Model.Constructor.name ++ _).Perm _
    rw [List.map_append, List.append_assoc, List.map_singleton, List.singleton_append,
      Constructor.denote_name denoted]
    exact List.perm_middle

theorem joins_mergeMethod (item : Metadata.Method) :
    Joins (mergeMethod item) (fun names => ∃ method, item.denote item.owner names = .ok method)
      (item.owner, item.name) :=
  joins_of_reading item.convert_reads (fun _ _ => rfl) fun object {read _} denoted => by
    change (_ ++ (object.methods ++ [read]).map Model.Method.name).Perm _
    rw [List.map_append, ← List.append_assoc, List.map_singleton, Method.denote_name denoted]
    exact List.perm_append_singleton _ _

section Lists

variable {α : Type} {step : α → Action Interface Unit} {each : α → Names → Prop}
  {memberOf : α → String × String}

theorem joined_of_forAll (joins : ∀ item, Joins (step item) (each item) (memberOf item))
    {items : List α} (ran : (forAll step items).Yields before value after) :
    Joined (items.map memberOf) before after := by
  induction items generalizing before with
  | nil =>
      rw [yields_forAll_nil] at ran
      rw [ran]
      exact Joined.refl before
  | cons item rest ih =>
      rw [yields_forAll_cons] at ran
      obtain ⟨middle, first, others⟩ := ran
      exact ((joins item).joined first).trans (ih others)

/-- All members of a list join exactly if all can be read, all owners are there, and no member
occurs twice among those that are there and the new ones. -/
theorem completes_members_iff (joins : ∀ item, Joins (step item) (each item) (memberOf item))
    (items : List α) (isOpen : before.finalized = false) (distinct : DistinctObjects before)
    (nodup : before.members.Nodup) :
    (forAll step items).Completes before ↔
      (∀ item ∈ items, each item before.names) ∧
      (∀ item ∈ items, (memberOf item).1 ∈ before.objects.map Model.Object.name) ∧
      (before.members ++ items.map memberOf).Nodup := by
  induction items generalizing before with
  | nil => simp [nodup]
  | cons item rest ih =>
      have behind {middle : Interface} (joined : Joined [memberOf item] before middle)
          (fresh : memberOf item ∉ before.members) :
          (forAll step rest).Completes middle ↔
            (∀ other ∈ rest, each other before.names) ∧
            (∀ other ∈ rest, (memberOf other).1 ∈ before.objects.map Model.Object.name) ∧
            (before.members ++ (item :: rest).map memberOf).Nodup := by
        have grown : (before.members ++ [memberOf item]).Nodup :=
          List.nodup_append'.mpr ⟨nodup, List.nodup_singleton _, by simpa using fresh⟩
        rw [ih (joined.finalized.trans isOpen) (joined.distinct distinct)
          (joined.members_perm.nodup_iff.mpr grown), joined.names_eq, joined.objectNames,
          (joined.members_perm.append_right _).nodup_iff, List.append_assoc]
        rfl
      rw [completes_forAll_cons]
      constructor
      · rintro ⟨middle, first, others⟩
        obtain ⟨read, there, fresh⟩ := ((joins item).completes_iff isOpen distinct).mp
          first.completes
        obtain ⟨readRest, thereRest, apart⟩ := (behind ((joins item).joined first) fresh).mp others
        exact ⟨List.forall_mem_cons.mpr ⟨read, readRest⟩,
          List.forall_mem_cons.mpr ⟨there, thereRest⟩, apart⟩
      · rintro ⟨read, there, apart⟩
        obtain ⟨readFirst, readRest⟩ := List.forall_mem_cons.mp read
        obtain ⟨thereFirst, thereRest⟩ := List.forall_mem_cons.mp there
        have fresh : memberOf item ∉ before.members := fun taken =>
          (List.nodup_append'.mp apart).2.2 taken List.mem_cons_self
        obtain ⟨_, middle, first⟩ := ((joins item).completes_iff isOpen distinct).mpr
          ⟨readFirst, thereFirst, fresh⟩
        exact ⟨middle, first, (behind ((joins item).joined first) fresh).mpr
          ⟨readRest, thereRest, apart⟩⟩

end Lists

theorem members_nodup (named : WellNamed before) : before.members.Nodup := by
  refine List.nodup_flatMap.mpr ⟨?_, ?_⟩
  · intro object member
    exact (named.callables object member).map fun _ _ same => (Prod.mk.inj same).2
  · have distinct : before.objects.Pairwise fun first second => first.name ≠ second.name :=
      List.pairwise_map.mp named.objects
    refine distinct.imp fun {first second} differ => List.disjoint_left.mpr ?_
    intro member inFirst inSecond
    obtain ⟨_, -, rfl⟩ := List.mem_map.mp inFirst
    obtain ⟨_, -, same⟩ := List.mem_map.mp inSecond
    exact differ (Prod.mk.inj same).1.symm

theorem members_of_stand {group : Group} (ran : (stand group).Yields before value after) :
    after.members = before.members := by
  rw [members, members, objects_of_stand ran]
  simp [Model.Object.callables]

/-- The members of a group join one after the other. -/
theorem completes_joining_iff {group : Group} (isOpen : before.finalized = false)
    (distinct : DistinctObjects before) (nodup : before.members.Nodup) :
    (forAll mergeConstructor group.constructors >>= fun _ =>
        forAll mergeMethod group.methods).Completes before ↔
      (∀ item ∈ group.constructors, ∃ read, item.denote before.names = .ok read) ∧
      (∀ item ∈ group.methods, ∃ read, item.denote item.owner before.names = .ok read) ∧
      (∀ member ∈ group.members, member.1 ∈ before.objects.map Model.Object.name) ∧
      (before.members ++ group.members).Nodup := by
  have constructs := completes_members_iff joins_mergeConstructor group.constructors isOpen
    distinct nodup
  have equips {built : Interface} (joined : Joined
      (group.constructors.map fun item => (item.owner, item.name)) before built)
      (apart : (before.members ++ group.constructors.map fun item =>
        (item.owner, item.name)).Nodup) :
      (forAll mergeMethod group.methods).Completes built ↔
        (∀ item ∈ group.methods, ∃ read, item.denote item.owner before.names = .ok read) ∧
        (∀ item ∈ group.methods, item.owner ∈ before.objects.map Model.Object.name) ∧
        (before.members ++ group.members).Nodup := by
    rw [completes_members_iff joins_mergeMethod group.methods (joined.finalized.trans isOpen)
      (joined.distinct distinct) (joined.members_perm.nodup_iff.mpr apart), joined.names_eq,
      joined.objectNames, (joined.members_perm.append_right _).nodup_iff, List.append_assoc]
    rfl
  have owners : (∀ member ∈ group.members, member.1 ∈ before.objects.map Model.Object.name) ↔
      (∀ item ∈ group.constructors, item.owner ∈ before.objects.map Model.Object.name) ∧
        ∀ item ∈ group.methods, item.owner ∈ before.objects.map Model.Object.name := by
    simp only [Group.members, List.forall_mem_append, List.forall_mem_map]
  rw [owners, completes_bind_unit]
  constructor
  · rintro ⟨built, constructed, equipped⟩
    obtain ⟨readConstructors, ownersFirst, apart⟩ := constructs.mp constructed.completes
    have joined := joined_of_forAll joins_mergeConstructor constructed
    obtain ⟨readMethods, ownersSecond, apartAll⟩ := (equips joined apart).mp equipped
    exact ⟨readConstructors, readMethods, ⟨ownersFirst, ownersSecond⟩, apartAll⟩
  · rintro ⟨readConstructors, readMethods, ⟨ownersFirst, ownersSecond⟩, apartAll⟩
    have apart : (before.members ++
        group.constructors.map fun item => (item.owner, item.name)).Nodup := by
      rw [Group.members, ← List.append_assoc] at apartAll
      exact (List.nodup_append.mp apartAll).1
    obtain ⟨_, built, constructed⟩ := constructs.mpr ⟨readConstructors, ownersFirst, apart⟩
    have joined := joined_of_forAll joins_mergeConstructor constructed
    exact ⟨built, constructed, (equips joined apart).mpr ⟨readMethods, ownersSecond, apartAll⟩⟩

/-- An interface admits a group exactly if all of it can be read, there is room for what stands on
its own, every owner is an object on either side, and no member occurs twice on both sides. -/
theorem completes_populate_iff {group : Group} (isOpen : before.finalized = false)
    (distinct : before.entries.Nodup) (named : WellNamed before) :
    (populate group).Completes before ↔
      group.Readable before.names ∧ Room group.entries before ∧
      (∀ member ∈ group.members, member.1 ∈ before.objects.map Model.Object.name ∨
        member.1 ∈ group.objects.map Metadata.Object.name) ∧
      (before.members ++ group.members).Nodup := by
  have joining {stood : Interface} (stands : (stand group).Yields before () stood) :
      (forAll mergeConstructor group.constructors >>= fun _ =>
          forAll mergeMethod group.methods).Completes stood ↔
        (∀ item ∈ group.constructors, ∃ read, item.denote before.names = .ok read) ∧
        (∀ item ∈ group.methods, ∃ read, item.denote item.owner before.names = .ok read) ∧
        (∀ member ∈ group.members, member.1 ∈ before.objects.map Model.Object.name ∨
          member.1 ∈ group.objects.map Metadata.Object.name) ∧
        (before.members ++ group.members).Nodup := by
    obtain ⟨made, -, grown⟩ := grown_of_stand stands
    have objects : ∀ name, name ∈ stood.objects.map Model.Object.name ↔
        name ∈ before.objects.map Model.Object.name ∨
          name ∈ group.objects.map Metadata.Object.name := by
      intro name
      rw [objects_of_stand stands, List.map_append, List.map_map, List.mem_append]
      simp only [Function.comp_def, List.map_id']
      rw [mem_freshNames]
      tauto
    have named' := named.stand stands
    rw [completes_joining_iff (grown.finalized.trans isOpen) named'.objects (members_nodup named'),
      grown.names_eq, members_of_stand stands]
    simp only [objects]
  have parts : (populate group).Completes before ↔
      ∃ stood, (stand group).Yields before () stood ∧
        (forAll mergeConstructor group.constructors >>= fun _ =>
          forAll mergeMethod group.methods).Completes stood := by
    constructor
    · rintro ⟨_, after, ran⟩
      obtain ⟨stood, built, stands, constructs, equips⟩ := populate_yields.mp ran
      exact ⟨stood, stands, (), after, yields_bind_unit.mpr ⟨built, constructs, equips⟩⟩
    · rintro ⟨stood, stands, _, after, ran⟩
      obtain ⟨built, constructs, equips⟩ := yields_bind_unit.mp ran
      exact ⟨(), after, populate_yields.mpr ⟨stood, built, stands, constructs, equips⟩⟩
  have admits := admits_stand group isOpen distinct
  rw [parts]
  constructor
  · rintro ⟨stood, stands, joins⟩
    obtain ⟨⟨records, enums, errors, functions⟩, room⟩ := admits.mp stands.completes
    obtain ⟨constructors, methods, there, apart⟩ := (joining stands).mp joins
    exact ⟨⟨records, enums, errors, functions, constructors, methods⟩, room, there, apart⟩
  · rintro ⟨⟨records, enums, errors, functions, constructors, methods⟩, room, there, apart⟩
    obtain ⟨_, stood, stands⟩ := admits.mpr ⟨⟨records, enums, errors, functions⟩, room⟩
    exact ⟨stood, stands, (joining stands).mpr ⟨constructors, methods, there, apart⟩⟩

theorem labels_of_populate {group : Group} (ran : (populate group).Yields before value after) :
    after.version = before.version ∧ after.space = before.space ∧
      after.finalized = before.finalized := by
  obtain ⟨stood, built, stands, constructs, equips⟩ := populate_yields.mp ran
  obtain ⟨made, apart, grown⟩ := grown_of_stand stands
  have joined := (joined_of_forAll joins_mergeConstructor constructs).trans
    (joined_of_forAll joins_mergeMethod equips)
  exact ⟨joined.version.trans grown.version, joined.space.trans (grown.space apart),
    joined.finalized.trans grown.finalized⟩

theorem mem_entries_of_populate {group : Group} {entry : Entry}
    (ran : (populate group).Yields before value after) :
    entry ∈ after.entries ↔ entry ∈ before.entries ∨ entry ∈ group.entries ∨
      entry ∈ group.objects.map fun item => .declared .object item.name := by
  obtain ⟨stood, built, stands, constructs, equips⟩ := populate_yields.mp ran
  rw [(joined_of_forAll joins_mergeMethod equips).entries,
    (joined_of_forAll joins_mergeConstructor constructs).entries, mem_entries_of_stand stands]

/-- What a document leaves for the metadata: an open interface with what it declares in it. -/
theorem declared_of_declare {declarations : List Document.Declaration} {version : Option Tag}
    {registry : Registry}
    (ran : (declare declarations).Yields { empty version with registry } () middle) :
    Grown (declarations.flatMap Document.Declaration.entries)
        { empty version with registry } middle ∧
      middle.finalized = false ∧ middle.entries.Nodup ∧ WellNamed middle := by
  have enters := enters_declare declarations
  have grown := enters.grown ran
  have named : WellNamed { empty version with registry } := { wellNamed_empty version with }
  obtain ⟨-, distinct, -⟩ := completes_declare_iff.mp ran.completes
  exact ⟨grown, grown.finalized, grown.entries_perm.nodup_iff.mpr distinct, named.declare ran⟩

end Interface

end NativeBoundary

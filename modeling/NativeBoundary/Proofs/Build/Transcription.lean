import NativeBoundary.Proofs.Build.Arrival
import NativeBoundary.Proofs.Build.Compatibility
import NativeBoundary.Proofs.Build.Reordering
import NativeBoundary.Proofs.Build.Transcript
import NativeBoundary.Proofs.Interface.Coherence

/-!
# Building from metadata and from its transcript

Metadata adds its members one at a time to objects that are there, and refuses a name that is taken;
a document has each object in one piece, and checks the names in it.  Both come to the same.  Either
metadata and its transcript are built or neither is, and what is built is the same but for the form
of a document, with the same foreign functions under the symbol space of each.
-/

namespace NativeBoundary

/-- Pairs are distinct where those of each owner are. -/
theorem nodup_iff_of_owned {pairs : List (String × String)} {owners : List String}
    (owned : ∀ pair ∈ pairs, pair.1 ∈ owners) :
    pairs.Nodup ↔
      ∀ owner ∈ owners, ((pairs.filter (·.1 = owner)).map Prod.snd).Nodup := by
  constructor
  · intro distinct owner _
    refine List.Nodup.map_on (fun first member second other same => ?_) (distinct.filter _)
    have firstOwned := of_decide_eq_true (List.mem_filter.mp member).2
    have secondOwned := of_decide_eq_true (List.mem_filter.mp other).2
    exact Prod.ext (firstOwned.trans secondOwned.symm) same
  · intro each
    refine List.nodup_iff_sublist.mpr fun pair twice => ?_
    have member : pair ∈ pairs := twice.subset List.mem_cons_self
    refine List.nodup_iff_sublist.mp (each pair.1 (owned pair member)) pair.2 ?_
    simpa using (twice.filter (·.1 = pair.1)).map Prod.snd

namespace Contents

theorem whole_sum {parts : List Contents} : (sum parts).Whole ↔ ∀ part ∈ parts, part.Whole := by
  simp only [sum_eq, whole_iff, List.forall_mem_flatMap]
  grind

end Contents

namespace Metadata

/-- The object to which an item belongs. -/
def Item.owner? : Item → Option String
  | .constructor item => some item.owner
  | .method item => some item.owner
  | _ => none

/-- The items can be written as a document: each of them can, no two objects share a name, and every
owner is one of them.  Other names that occur twice are refused in either form. -/
@[mk_iff]
structure Expressible (items : List Item) : Prop where
  each : ∀ item ∈ items, item.Expressible
  distinct : ((items.filterMap Item.object?).map Object.name).Nodup
  owned : ∀ owner ∈ items.filterMap Item.owner?,
    owner ∈ (items.filterMap Item.object?).map Object.name

instance (items : List Item) : Decidable (Expressible items) :=
  decidable_of_iff _ (expressible_iff items).symm

namespace Group

variable {group : Group} {names : Names}

/-- What is sorted into a list comes from an item. -/
theorem mem_of_sort {α : Type} {precedes : α → α → Bool} {pick : Item → Option α} {put : α → Item}
    (puts : ∀ {item value}, pick item = some value → item = put value) {items : List Item}
    {value : α} (member : value ∈ Order.sort precedes (items.filterMap pick)) :
    put value ∈ items := by
  obtain ⟨item, inside, picked⟩ :=
    List.mem_filterMap.mp ((Order.sort_perm _ _).mem_iff.mp member)
  rwa [← puts picked]

theorem expressible_of_ofItems {items : List Item} (expressible : Metadata.Expressible items)
    (grouped : ofItems items = .ok group) : group.Expressible := by
  rw [ofItems_eq] at grouped
  obtain ⟨crate, -, rfl⟩ := Results.map_eq_ok.mp grouped
  have objects := (Order.sort_perm (fun first second =>
    Order.before (Object.name first) (Object.name second)) (items.filterMap Item.object?)).map
      Object.name
  have each {α : Type} {precedes : α → α → Bool} {pick : Item → Option α} {put : α → Item}
      (puts : ∀ {item value}, pick item = some value → item = put value) :
      ∀ value ∈ Order.sort precedes (items.filterMap pick), (put value).Expressible :=
    fun value member => expressible.each _ (mem_of_sort puts member)
  have ofConstructor {item : Item} {value : Constructor}
      (picked : item.constructor? = some value) : item = .constructor value := by
    cases item <;> cases picked
    rfl
  have ofMethod {item : Item} {value : Method}
      (picked : item.method? = some value) : item = .method value := by
    cases item <;> cases picked
    rfl
  have owned {item : Item} {owner : String} (inside : item ∈ items)
      (belongs : item.owner? = some owner) :=
    objects.mem_iff.mpr (expressible.owned owner (List.mem_filterMap.mpr ⟨item, inside, belongs⟩))
  exact {
    records := each fun {item _} picked => by cases item <;> cases picked; rfl
    enums := each fun {item _} picked => by cases item <;> cases picked; rfl
    errors := each fun {item _} picked => by cases item <;> cases picked; rfl
    functions := each fun {item _} picked => by cases item <;> cases picked; rfl
    constructors := each ofConstructor
    methods := each ofMethod
    distinct := objects.nodup_iff.mpr expressible.distinct
    owned := List.forall_mem_append.mpr
      ⟨List.forall_mem_map.mpr fun _ member => owned (mem_of_sort ofConstructor member) rfl,
        List.forall_mem_map.mpr fun _ member => owned (mem_of_sort ofMethod member) rfl⟩ }

/-! ## What both can read -/

theorem filter_members (group : Group) (owner : String) :
    (group.members.filter (·.1 = owner)).map Prod.snd = group.callablesOf owner := by
  simp only [members, callablesOf, constructorsOf, methodsOf, List.filter_append, List.filter_map,
    List.map_append, List.map_map]
  rfl

variable (expressible : group.Expressible)

include expressible

theorem members_nodup_iff :
    group.members.Nodup ↔ ∀ item ∈ group.objects, (group.callablesOf item.name).Nodup := by
  rw [nodup_iff_of_owned expressible.owned]
  simp only [List.forall_mem_map, filter_members]

theorem denoteObject_ok_iff {item : Object} :
    (∃ object, group.denoteObject names item = .ok object) ↔
      (group.callablesOf item.name).Nodup ∧
      (∀ constructor ∈ group.constructorsOf item.name,
        ∃ read, constructor.denote names = .ok read) ∧
      ∀ method ∈ group.methodsOf item.name, ∃ read, method.denote item.name names = .ok read := by
  rw [← Results.exists_mapM_iff, ← Results.exists_mapM_iff]
  constructor
  · rintro ⟨object, denoted⟩
    have distinct := callablesOf_nodup expressible denoted
    rw [denoteObject_eq expressible distinct] at denoted
    obtain ⟨plain, completed, -⟩ := Results.map_eq_ok.mp denoted
    obtain ⟨constructors, methods, built, equipped, -⟩ := complete_eq_ok.mp completed
    exact ⟨distinct, ⟨constructors, built⟩, methods, equipped⟩
  · rintro ⟨distinct, ⟨constructors, built⟩, methods, equipped⟩
    rw [denoteObject_eq expressible distinct]
    exact ⟨_, Results.map_eq_ok.mpr ⟨_, complete_eq_ok.mpr
      ⟨constructors, methods, built, equipped, rfl⟩, rfl⟩⟩

theorem readable_members_iff :
    (∀ item ∈ group.objects, ∃ object, group.denoteObject names item = .ok object) ↔
      group.members.Nodup ∧
      (∀ item ∈ group.constructors, ∃ read, item.denote names = .ok read) ∧
      ∀ item ∈ group.methods, ∃ read, item.denote item.owner names = .ok read := by
  rw [members_nodup_iff expressible]
  simp only [denoteObject_ok_iff expressible]
  have owned : ∀ member ∈ group.members, ∃ object ∈ group.objects, object.name = member.1 :=
    fun member inside => List.mem_map.mp (expressible.owned member inside)
  constructor
  · intro each
    refine ⟨fun item member => (each item member).1, fun item member => ?_,
      fun item member => ?_⟩
    · obtain ⟨object, inside, same⟩ := owned (item.owner, item.name)
        (List.mem_append_left _ (List.mem_map_of_mem member))
      exact (each object inside).2.1 item (List.mem_filter.mpr ⟨member, by simp [same]⟩)
    · obtain ⟨object, inside, same⟩ := owned (item.owner, item.name)
        (List.mem_append_right _ (List.mem_map_of_mem member))
      change object.name = item.owner at same
      rw [← same]
      exact (each object inside).2.2 item (List.mem_filter.mpr ⟨member, by simp [same]⟩)
  · rintro ⟨distinct, constructors, methods⟩ object inside
    refine ⟨distinct object inside, fun item member => ?_, fun item member => ?_⟩
    · exact constructors item (List.mem_filter.mp member).1
    · obtain ⟨member, same⟩ := List.mem_filter.mp member
      rw [← of_decide_eq_true same]
      exact methods item member

/-- The transcript can be read where the group can, unless a member occurs twice. -/
theorem readable_declarations_iff :
    (∀ declaration ∈ group.declarations, declaration.Readable names) ↔
      group.Readable names ∧ group.members.Nodup := by
  -- Only a namespace is checked for more than its contents, and it has no attributes here.
  have bare : ∀ declaration ∈ group.declarations, ∀ functions,
      declaration.body = .space functions →
        ∃ attributes, declaration.checkAttributes .base = .ok attributes := by
    simp only [declarations, List.forall_mem_cons, List.forall_mem_append, List.forall_mem_map]
    refine ⟨fun _ _ => ⟨_, rfl⟩, ⟨⟨?_, ?_⟩, ?_⟩, ?_⟩
    all_goals
      intro item _ functions shape
      cases shape
  have whole : (∀ declaration ∈ group.declarations, (declaration.contents names).Whole) ↔
      (Contents.sum (group.declarations.map (Document.Declaration.contents · names))).Whole := by
    rw [Contents.whole_sum, List.forall_mem_map]
  have readable : (∀ declaration ∈ group.declarations, declaration.Readable names) ↔
      ∀ declaration ∈ group.declarations, (declaration.contents names).Whole :=
    forall₂_congr fun declaration member =>
      ⟨fun readable => readable.whole, fun whole => ⟨bare declaration member, whole⟩⟩
  have demanded {read : Except Problem Model.Union} :
      (∃ union, Model.Union.demanding <$> read = .ok union) ↔ ∃ union, read = .ok union := by
    simp only [Results.map_eq_ok]
    constructor
    · rintro ⟨_, union, given, rfl⟩
      exact ⟨union, given⟩
    · rintro ⟨union, given⟩
      exact ⟨_, union, given, rfl⟩
  rw [readable, whole, sum_contents expressible, Contents.whole_iff]
  simp only [List.forall_mem_map, demanded, readable_members_iff expressible]
  constructor
  · rintro ⟨records, enums, errors, -, functions, apart, constructors, methods⟩
    exact ⟨⟨records, enums, errors, functions, constructors, methods⟩, apart⟩
  · rintro ⟨readable, apart⟩
    exact ⟨readable.records, readable.enums, readable.errors, List.forall_mem_nil _,
      readable.functions, apart, readable.constructors, readable.methods⟩

theorem entries_nodup_iff :
    (group.declarations.flatMap Document.Declaration.entries).Nodup ↔ group.entries.Nodup := by
  have objects : (group.objects.map fun item => Entry.declared .object item.name).Nodup := by
    have injective : Function.Injective (Entry.declared .object) :=
      fun _ _ same => (Entry.declared.inj same).2
    have distinct := expressible.distinct.map injective
    rwa [List.map_map] at distinct
  have apart : group.entries.Disjoint
      (group.objects.map fun item => Entry.declared .object item.name) := by
    intro entry taken object
    obtain ⟨item, -, rfl⟩ := List.mem_map.mp object
    simp [entries] at taken
  have space : Entry.space ∉ group.entries ++
      group.objects.map fun item => Entry.declared .object item.name := by
    simp [entries]
  rw [(entries_declarations group).nodup_iff, List.nodup_cons, List.nodup_append']
  exact ⟨fun distinct => distinct.2.1, fun distinct => ⟨space, distinct, objects, apart⟩⟩

omit expressible

theorem function_mem_entries_iff {name : String} :
    .declared .function name ∈ group.declarations.flatMap Document.Declaration.entries ↔
      .declared .function name ∈ group.entries := by
  rw [(entries_declarations group).mem_iff]
  simp

end Group

end Metadata

namespace Interface

open NativeBoundary.Action
open Metadata (Group Item)

variable {group : Group} {version : Option Tag} {brought other : Interface}

/-! ## Bringing in -/

theorem environment_declarations (group : Group) :
    environment group.declarations {} = environment [] group := by
  funext name
  change (group.declarations.flatMap Document.Declaration.bindings ++ []).lookup name = _
  rw [List.append_nil, Group.bindings_declarations]
  rfl

/-- The transcript can be brought in where the group can. -/
theorem compatible_declarations_iff (expressible : group.Expressible) :
    Compatible [] group ↔ Compatible group.declarations {} := by
  -- Both introduce the same bindings in the same order, so everything is read in one environment.
  have names := environment_declarations group
  have introductions : introductions group.declarations {} = introductions [] group := by
    change group.declarations.flatMap Document.Declaration.bindings ++ [] = group.introduced
    rw [List.append_nil, Group.bindings_declarations]
  constructor
  · intro compatible
    exact {
      introduced := Group.introduced_declarations group
      definable := introductions ▸ compatible.definable
      document := (Group.readable_declarations_iff expressible).mpr
        ⟨names ▸ compatible.metadata, compatible.apart⟩
      metadata := by constructor <;> exact List.forall_mem_nil _
      distinct := by
        change (_ ++ []).Nodup
        rw [List.append_nil, Group.entries_nodup_iff expressible]
        exact compatible.distinct
      unbound := by
        change ∀ name, _ ∈ _ ++ [] → _
        simp only [List.append_nil, Group.function_mem_entries_iff, names]
        exact compatible.unbound
      apart := List.nodup_nil
      joinable := fun _ _ => List.forall_mem_nil _ }
  · intro compatible
    obtain ⟨readable, apart⟩ :=
      (Group.readable_declarations_iff expressible).mp compatible.document
    exact {
      introduced := List.forall_mem_nil _
      definable := introductions ▸ compatible.definable
      document := List.forall_mem_nil _
      metadata := names ▸ readable
      distinct := by
        have distinct := compatible.distinct
        change (_ ++ []).Nodup at distinct
        rwa [List.append_nil, Group.entries_nodup_iff expressible] at distinct
      unbound := by
        have unbound := compatible.unbound
        change ∀ name, _ ∈ _ ++ [] → _ at unbound
        simp only [List.append_nil, Group.function_mem_entries_iff, names] at unbound
        exact unbound
      apart
      joinable := by
        intro objects none member inside
        obtain rfl : objects = [] := List.map_eq_nil_iff.mp none.symm
        exact ⟨.inr (expressible.owned member inside), List.not_mem_nil⟩ }

theorem freshNames_eq {declared names : List String} (distinct : names.Nodup)
    (fresh : ∀ name ∈ names, name ∉ declared) : Group.freshNames declared names = names := by
  induction names generalizing declared with
  | nil => rfl
  | cons name rest ih =>
      obtain ⟨apart, distinctRest⟩ := List.nodup_cons.mp distinct
      obtain ⟨freshFirst, freshRest⟩ := List.forall_mem_cons.mp fresh
      rw [freshNames_cons_of_not_mem rest freshFirst, ih distinctRest]
      intro other member
      rw [List.mem_append, List.mem_singleton, not_or]
      refine ⟨freshRest other member, ?_⟩
      rintro rfl
      exact apart member

/-- A group on its own completes the objects that it has. -/
theorem outline_metadata (distinct : (group.objects.map Metadata.Object.name).Nodup)
    (names : Names) :
    outline [] group names = {
      records := group.records.map (·.denote names)
      enums := group.enums.map (·.denote names)
      errors := group.errors.map (·.denote names)
      functions := group.functions.map (·.denote names)
      objects := group.objects.map fun item => group.complete names { name := item.name } } := by
  have fresh := freshNames_eq distinct fun name _ => List.not_mem_nil
  have objects : (plainObjects [] group names).map (fun plain => plain >>= group.complete names) =
      group.objects.map fun item => group.complete names { name := item.name } := by
    change ((Group.freshNames [] _).map _).map _ = _
    rw [fresh, List.map_map, List.map_map]
    rfl
  unfold outline
  rw [objects]
  rfl

theorem outline_document (declarations : List Document.Declaration) (names : Names) :
    outline declarations {} names =
      Contents.sum (declarations.map (Document.Declaration.contents · names)) := by
  have nothing (objects : List String) : standing objects {} names = {} := rfl
  have kept : ({} : Group).complete names = pure := by
    funext object
    simp [Group.complete, Group.withMethods, Group.withConstructors]
  rw [outline_eq, nothing, Contents.append_empty, kept, Contents.through_pure]

/-- What the transcript declares is what the group declares, in the form of a document. -/
theorem transcribes_of_bring (expressible : group.Expressible) {space : Option Tag}
    (brings : (bring [] group).Yields (empty version) () brought)
    (bringsOther : (bring group.declarations {}).Yields (empty version) () other)
    (spaced : other.spaceTag = { brought with space }.spaceTag) :
    Transcribes { brought with space } other := by
  have stage := plain_of_bring brings
  have stageOther := plain_of_bring bringsOther
  have compatible := completes_bring_iff.mp brings.completes
  have names : other.names = brought.names := by
    rw [stage.names_eq, stageOther.names_eq, environment_declarations]
  have contents := stage.contents
  have contentsOther := stageOther.contents
  rw [outline_metadata expressible.distinct] at contents
  rw [outline_document, names, Group.sum_contents expressible] at contentsOther
  obtain ⟨records, enums, errors, callbacks, functions, objects⟩ := Contents.mk.inj contents
  obtain ⟨recordsOther, enumsOther, errorsOther, callbacksOther, functionsOther, objectsOther⟩ :=
    Contents.mk.inj contentsOther
  have completed : group.objects.map (group.denoteObject brought.names) =
      group.objects.map fun item =>
        Model.Object.labelled <$> group.complete brought.names { name := item.name } :=
    List.map_congr_left fun item member => Group.denoteObject_eq expressible
      ((Group.members_nodup_iff expressible).mp compatible.apart item member) brought.names
  exact {
    version := (labels_of_bring bringsOther).1.trans (labels_of_bring brings).1.symm
    space := spaced
    names
    records := Results.eq_of_map_ok (recordsOther.trans records.symm)
    enums := Results.eq_map_of_map_ok enums enumsOther
    errors := Results.eq_map_of_map_ok errors errorsOther
    callbacks := Results.eq_of_map_ok (callbacksOther.trans callbacks.symm)
    functions := Results.eq_of_map_ok (functionsOther.trans functions.symm)
    objects := Results.eq_map_of_map_ok objects (objectsOther.trans completed) }

/-! ## The namespace -/

theorem filter_text {name : String} (stated : name ≠ "") :
    (some (Tag.text name)).filter (fun tag => !tag.isBlank) = some (.text name) := by
  have blank : (Tag.text name).isBlank = (name == "") := rfl
  exact Option.filter_some_pos (by simpa [blank] using stated)

theorem spaceTag_of_text {interface : Interface} {name : String}
    (space : interface.space = some (.text name)) : interface.spaceTag = .text name := by
  rw [spaceTag, space]
  by_cases blank : name = ""
  · rw [blank]
    rfl
  · rw [Tag.orElse, filter_text blank]
    rfl

theorem spaceTag_of_crate {interface : Interface} {crate : Option String}
    (space : interface.space = Tag.orElse none (crate.map Tag.text)) :
    interface.spaceTag = .text (crate.getD "") := by
  cases crate with
  | none =>
      rw [spaceTag, space]
      rfl
  | some name =>
      by_cases blank : name = ""
      · rw [spaceTag, space, blank]
        rfl
      · rw [Option.map_some, Tag.orElse, filter_text blank] at space
        exact spaceTag_of_text space

theorem space_of_transcript
    (brings : (bring group.declarations {}).Yields (empty version) () other) :
    other.space = some (.text (group.crate.getD "")) := by
  have first : Document.Declaration.listed .function group.declarations =
      group.spaceDeclaration :: _ := List.filter_cons_of_pos (by rfl)
  rw [(labels_of_bring brings).2.2, first]
  rfl

/-! ## Builds -/

variable {items : List Item} {settings : Settings} {interface : Interface}

/-- Under the crate of the group, unless that is blank. -/
def underCrate (group : Group) (brought : Interface) : Interface :=
  { brought with space := Tag.orElse none (group.crate.map Tag.text) }

theorem build_metadata_iff (grouped : Group.ofItems items = .ok group)
    (unnamed : settings.spaceTag = none) :
    build none items settings = .ok interface ↔ ∃ brought derived,
      (bring [] group).Yields (empty settings.versionTag) () brought ∧
      (underCrate group brought).check = .ok () ∧
      derive.Yields (underCrate group brought) () derived ∧
      interface = { derived with finalized := true } := by
  have spaced {brought plain : Interface}
      (brings : (bring [] group).Yields (empty settings.versionTag) () brought) :
      (fallBackSpace settings group.crate).Yields brought () plain ↔
        plain = underCrate group brought := by
    obtain ⟨-, isOpen, space⟩ := labels_of_bring brings
    rw [fallBackSpace_yields_iff isOpen space, unnamed]
    rfl
  rw [build_eq_ok, assemble_yields]
  constructor
  · rintro ⟨other, brought, plain, derived, sorted, brings, named, checked, derives, finished⟩
    obtain rfl : group = other := Except.ok.inj (grouped.symm.trans sorted)
    obtain rfl := (spaced brings).mp named
    exact ⟨brought, derived, brings, checked, derives, finished⟩
  · rintro ⟨brought, derived, brings, checked, derives, finished⟩
    exact ⟨group, brought, _, derived, grouped, brings, (spaced brings).mpr rfl, checked, derives,
      finished⟩

theorem build_transcript_iff :
    build (some group.transcript) [] settings = .ok interface ↔ ∃ brought derived,
      (bring group.declarations {}).Yields (empty settings.versionTag) () brought ∧
      brought.check = .ok () ∧ derive.Yields brought () derived ∧
      interface = { derived with finalized := true } := by
  rw [build_eq_ok, assemble_yields]
  constructor
  · rintro ⟨other, brought, plain, derived, sorted, brings, named, checked, derives, finished⟩
    obtain rfl : ({} : Group) = other := Except.ok.inj sorted
    obtain rfl := (fallBackSpace_yields_of_named (space_of_transcript brings)).mp named
    exact ⟨_, derived, brings, checked, derives, finished⟩
  · rintro ⟨brought, derived, brings, checked, derives, finished⟩
    exact ⟨{}, brought, brought, derived, rfl, brings,
      (fallBackSpace_yields_of_named (space_of_transcript brings)).mpr rfl, checked, derives,
      finished⟩

theorem transcribes_underCrate (expressible : group.Expressible)
    (brings : (bring [] group).Yields (empty version) () brought)
    (bringsOther : (bring group.declarations {}).Yields (empty version) () other) :
    Transcribes (underCrate group brought) other :=
  transcribes_of_bring expressible brings bringsOther
    ((spaceTag_of_text (space_of_transcript bringsOther)).trans (spaceTag_of_crate rfl).symm)

/-- Metadata and its transcript come to interfaces from which foreign functions can be derived, or
neither does. -/
theorem built_iff (expressible : group.Expressible) :
    (∃ brought derived, (bring [] group).Yields (empty version) () brought ∧
      (underCrate group brought).check = .ok () ∧
      derive.Yields (underCrate group brought) () derived) ↔
    ∃ brought derived, (bring group.declarations {}).Yields (empty version) () brought ∧
      brought.check = .ok () ∧ derive.Yields brought () derived := by
  constructor
  · rintro ⟨brought, derived, brings, checked, derives⟩
    have compatible := completes_bring_iff.mp brings.completes
    obtain ⟨_, other, bringsOther⟩ :=
      completes_bring_iff.mpr ((compatible_declarations_iff expressible).mp compatible)
    have same := transcribes_underCrate expressible brings bringsOther
    obtain ⟨derivedOther, derivesOther⟩ := same.derives_iff.mp ⟨derived, derives⟩
    exact ⟨other, derivedOther, bringsOther, same.check_iff.mp checked, derivesOther⟩
  · rintro ⟨other, derivedOther, bringsOther, checked, derives⟩
    have compatible := completes_bring_iff.mp bringsOther.completes
    obtain ⟨_, brought, brings⟩ :=
      completes_bring_iff.mpr ((compatible_declarations_iff expressible).mpr compatible)
    have same := transcribes_underCrate expressible brings bringsOther
    obtain ⟨derived, derives⟩ := same.derives_iff.mpr ⟨derivedOther, derives⟩
    exact ⟨brought, derived, brings, same.check_iff.mpr checked, derives⟩

/-- What both are built into. -/
theorem transcribed_of_build (expressible : group.Expressible)
    (grouped : Group.ofItems items = .ok group) (unnamed : settings.spaceTag = none)
    {first second : Interface} (built : build none items settings = .ok first)
    (builtOther : build (some group.transcript) [] settings = .ok second) :
    Transcribes first.declared second.declared ∧
      first.spaceTag = .text (group.crate.getD "") := by
  obtain ⟨brought, derived, brings, -, derives, rfl⟩ := (build_metadata_iff grouped unnamed).mp built
  obtain ⟨other, derivedOther, bringsOther, -, derivesOther, rfl⟩ :=
    build_transcript_iff.mp builtOther
  have same := transcribes_underCrate expressible brings bringsOther
  have plain : (underCrate group brought).declared = underCrate group brought :=
    congrArg (underCrate group) (plain_of_bring brings).declared_eq
  have declared := (declared_of_derive derives).trans plain
  have declaredOther := (declared_of_derive derivesOther).trans
    (plain_of_bring bringsOther).declared_eq
  have space := (declaresAlike_of_derive derives).space
  rw [← declared, ← declaredOther] at same
  exact ⟨{ same with }, space.trans (spaceTag_of_crate rfl)⟩

/-- Items of one crate and the document that says the same are both built or both not.  Of what is
built, the names stand for the same, the declarations are the same but for the form of a document,
the same is thrown in the same places, and the foreign functions are the same, in the same order,
but for the symbol space, which is the crate and the end of a checksum. -/
theorem build_transcript (expressible : Metadata.Expressible items)
    (grouped : Group.ofItems items = .ok group) (unnamed : settings.spaceTag = none) :
    ((∃ interface, build none items settings = .ok interface) ↔
      ∃ interface, build (some group.transcript) [] settings = .ok interface) ∧
    ∀ first second, build none items settings = .ok first →
      build (some group.transcript) [] settings = .ok second →
      Transcribes first.declared second.declared ∧ second.throwing = first.throwing ∧
      first.symbolSpace = group.crate.getD "" ++ "_" ++ hexText 4 first.checksum ∧
      second.symbolSpace = group.crate.getD "" ++ "_" ++ hexText 4 second.checksum ∧
      List.Forall₂ (ForeignFunction.Respaced first.symbolSpace second.symbolSpace)
        first.foreignFunctions second.foreignFunctions := by
  have each := Group.expressible_of_ofItems expressible grouped
  constructor
  · have finishing {condition : Interface → Interface → Prop} :
        (∃ interface brought derived, condition brought derived ∧
          interface = { derived with finalized := true }) ↔
        ∃ brought derived, condition brought derived := by
      constructor
      · rintro ⟨_, brought, derived, holds, rfl⟩
        exact ⟨brought, derived, holds⟩
      · rintro ⟨brought, derived, holds⟩
        exact ⟨_, brought, derived, holds, rfl⟩
    simp only [build_metadata_iff grouped unnamed, build_transcript_iff, ← and_assoc, finishing]
    simpa only [← and_assoc] using built_iff each
  · intro first second built builtOther
    obtain ⟨same, space⟩ := transcribed_of_build each grouped unnamed built builtOther
    have spaceOther : second.spaceTag = .text (group.crate.getD "") := same.space.trans space
    have throwing := same.throwing_eq
    rw [throwing_declared, throwing_declared] at throwing
    refine ⟨same, throwing, ?_, ?_,
      same.respaced (exported_of_build built) (exported_of_build builtOther)⟩
    · rw [symbolSpace, space, Tag.shown_text]
    · rw [symbolSpace, spaceOther, Tag.shown_text]

/-- A desk that sells tickets, in two modules of one crate. -/
def kioskItems : List Item := [
  .method {
    crateModule := "kiosk::desk", owner := "Desk", name := "sell", inputs := [⟨"fare", "Fare"⟩]
    output := some "Ticket", throws := some "Shut" },
  .constructor {
    crateModule := "kiosk::desk", owner := "Desk", name := "at_stop"
    inputs := [⟨"zone", "u8"⟩] },
  .constructor { crateModule := "kiosk::desk", owner := "Desk" },
  .object { crateModule := "kiosk::desk", name := "Desk" },
  .error { crateModule := "kiosk", name := "Shut", variants := [{ name := "Late" }] },
  .enum {
    crateModule := "kiosk", name := "Fare"
    variants := [{ name := "Day" }, { name := "Single", fields := [⟨"zone", "u8"⟩] }] },
  .record { crateModule := "kiosk", name := "Ticket", fields := [⟨"fare", "Fare"⟩] },
  .function { crateModule := "kiosk", name := "open", output := some "Desk" }]

theorem build_transcript_kiosk :
    ∃ group first second, Group.ofItems kioskItems = .ok group ∧
      build none kioskItems {} = .ok first ∧ build (some group.transcript) [] {} = .ok second ∧
      Transcribes first.declared second.declared ∧ first.foreignFunctions.length = 9 ∧
      List.Forall₂ (ForeignFunction.Respaced first.symbolSpace second.symbolSpace)
        first.foreignFunctions second.foreignFunctions := by
  have expressible : Metadata.Expressible kioskItems := by decide +kernel
  have unnamed : Settings.spaceTag {} = none := rfl
  have built := build_ok_of_result
    (by decide +kernel : (buildOutcome none kioskItems {}).result = .ok ())
  obtain ⟨group, -, -, grouped, -⟩ := build_stages built
  obtain ⟨either, agree⟩ := build_transcript expressible grouped unnamed
  obtain ⟨second, builtSecond⟩ := either.mp ⟨_, built⟩
  obtain ⟨same, -, -, -, respaced⟩ := agree _ second built builtSecond
  exact ⟨group, _, second, grouped, built, builtSecond, same, by decide +kernel, respaced⟩

end Interface

end NativeBoundary

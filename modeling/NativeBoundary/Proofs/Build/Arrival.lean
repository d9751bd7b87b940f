import NativeBoundary.Proofs.Build.Joining
import NativeBoundary.Proofs.Build.Refinement

/-!
# Arrival of metadata

The order in which metadata items arrive and what their modules are called below their crate have
no effect on a build.  Modules are looked at for their crates only.  Sorting is by name, so the
order of arrival could show among equal names; but of two equal names one is refused, whatever the
order, unless they are names of objects, which then are the same item.
-/

namespace NativeBoundary

namespace Metadata

/-! ## Items at the root of their crates -/

/-- A module path without what stands behind its crate. -/
def rootOf (path : String) : String := String.ofList (Item.firstSegment path.toList)

def Function.atRoot (item : Function) : Function :=
  { item with crateModule := rootOf item.crateModule }

def Method.atRoot (item : Method) : Method :=
  { item with crateModule := rootOf item.crateModule }

def Constructor.atRoot (item : Constructor) : Constructor :=
  { item with crateModule := rootOf item.crateModule }

def Record.atRoot (item : Record) : Record :=
  { item with crateModule := rootOf item.crateModule }

def Enum.atRoot (item : Enum) : Enum :=
  { item with crateModule := rootOf item.crateModule }

def Error.atRoot (item : Error) : Error :=
  { item with crateModule := rootOf item.crateModule }

def Object.atRoot (item : Object) : Object :=
  { item with crateModule := rootOf item.crateModule }

/-- The same item in the root module of its crate. -/
def Item.atRoot : Item → Item
  | .function item => .function item.atRoot
  | .method item => .method item.atRoot
  | .constructor item => .constructor item.atRoot
  | .record item => .record item.atRoot
  | .enum item => .enum item.atRoot
  | .error item => .error item.atRoot
  | .object item => .object item.atRoot

def Group.atRoot (group : Group) : Group where
  crate := group.crate
  records := group.records.map Record.atRoot
  enums := group.enums.map Enum.atRoot
  errors := group.errors.map Error.atRoot
  objects := group.objects.map Object.atRoot
  functions := group.functions.map Function.atRoot
  constructors := group.constructors.map Constructor.atRoot
  methods := group.methods.map Method.atRoot

theorem Item.head_of_firstSegment {c : Char} {path rest : List Char}
    (starts : firstSegment path = c :: rest) : ∃ tail, path = c :: tail := by
  unfold firstSegment at starts
  split at starts
  · cases starts
  · cases starts
    exact ⟨_, rfl⟩
  · cases starts

theorem Item.firstSegment_firstSegment (path : List Char) :
    firstSegment (firstSegment path) = firstSegment path := by
  fun_induction firstSegment path with
  | case1 => rfl
  | case2 c rest single ih =>
      have stillSingle : ∀ tail, c = ':' → firstSegment rest = ':' :: tail → False := by
        intro tail colon starts
        obtain ⟨behind, starts⟩ := head_of_firstSegment starts
        exact single behind colon starts
      rw [firstSegment.eq_2 c _ stillSingle, ih]
  | case3 => rfl

theorem rootOf_rootOf (path : String) : rootOf (rootOf path) = rootOf path := by
  simp only [rootOf, String.toList_ofList, Item.firstSegment_firstSegment]

namespace Item

theorem crate_atRoot (item : Item) : item.atRoot.crate = item.crate := by
  cases item <;> exact rootOf_rootOf _

theorem atRoot_atRoot (item : Item) : item.atRoot.atRoot = item.atRoot := by
  cases item <;> simp [atRoot, Function.atRoot, Method.atRoot, Constructor.atRoot, Record.atRoot,
    Enum.atRoot, Error.atRoot, Object.atRoot, rootOf_rootOf]

theorem name_atRoot (item : Item) : item.atRoot.name = item.name := by
  cases item <;> rfl

end Item

namespace Group

theorem sharedCrate_atRoot (crate : Option String) (items : List Item) :
    sharedCrate crate (items.map Item.atRoot) = sharedCrate crate items := by
  induction items generalizing crate with
  | nil => rfl
  | cons item rest ih =>
      cases crate <;>
        simp only [List.map_cons, sharedCrate, Item.crate_atRoot, Item.name_atRoot, ih]

section Kinds

variable {α : Type} {pick : Item → Option α} {change : α → α}

theorem filterMap_atRoot (commutes : ∀ item, pick item.atRoot = (pick item).map change)
    (items : List Item) :
    (items.map Item.atRoot).filterMap pick = (items.filterMap pick).map change := by
  rw [List.filterMap_map, List.map_filterMap]
  exact congrArg (List.filterMap · items) (funext commutes)

theorem sortByName_atRoot {nameOf : α → String}
    (commutes : ∀ item, pick item.atRoot = (pick item).map change)
    (keeps : ∀ item, nameOf (change item) = nameOf item) (items : List Item) :
    sortByName nameOf ((items.map Item.atRoot).filterMap pick) =
      (sortByName nameOf (items.filterMap pick)).map change := by
  rw [filterMap_atRoot commutes]
  exact Order.sort_map change (fun first second => by rw [keeps, keeps]) _

theorem sortByOwner_atRoot {ownerOf nameOf : α → String}
    (commutes : ∀ item, pick item.atRoot = (pick item).map change)
    (keepsOwner : ∀ item, ownerOf (change item) = ownerOf item)
    (keepsName : ∀ item, nameOf (change item) = nameOf item) (items : List Item) :
    sortByOwner ownerOf nameOf ((items.map Item.atRoot).filterMap pick) =
      (sortByOwner ownerOf nameOf (items.filterMap pick)).map change := by
  rw [filterMap_atRoot commutes]
  exact Order.sort_map change
    (fun first second => by rw [keepsOwner, keepsOwner, keepsName, keepsName]) _

end Kinds

theorem ofItems_eq (items : List Item) :
    ofItems items = (fun crate => {
      crate
      records := sortByName Record.name (items.filterMap Item.record?)
      enums := sortByName Enum.name (items.filterMap Item.enum?)
      errors := sortByName Error.name (items.filterMap Item.error?)
      objects := sortByName Object.name (items.filterMap Item.object?)
      functions := sortByName Function.name (items.filterMap Item.function?)
      constructors := sortByOwner Constructor.owner Constructor.name
        (items.filterMap Item.constructor?)
      methods := sortByOwner Method.owner Method.name (items.filterMap Item.method?) }) <$>
        sharedCrate none items := by
  unfold ofItems
  cases sharedCrate none items <;> rfl

/-- A group of items at the roots of their crates is the group of the items at the root. -/
theorem ofItems_atRoot (items : List Item) :
    ofItems (items.map Item.atRoot) = atRoot <$> ofItems items := by
  rw [ofItems_eq, ofItems_eq, sharedCrate_atRoot]
  cases sharedCrate none items with
  | error problem => rfl
  | ok crate =>
      refine congrArg Except.ok ?_
      simp only [atRoot, mk.injEq, true_and]
      refine ⟨sortByName_atRoot ?_ ?_ items, sortByName_atRoot ?_ ?_ items,
        sortByName_atRoot ?_ ?_ items, sortByName_atRoot ?_ ?_ items,
        sortByName_atRoot ?_ ?_ items, sortByOwner_atRoot ?_ ?_ ?_ items,
        sortByOwner_atRoot ?_ ?_ ?_ items⟩ <;> rintro ⟨⟩ <;> rfl

theorem discover_atRoot (group : Group) : group.atRoot.discover = group.discover := by
  simp only [discover, introduced, atRoot, List.map_map]
  rfl

/-! ## Items in another order -/

/-- Whatever the order, the items share a crate or do not. -/
theorem sharedCrate_eq_ok {start shared : Option String} {items : List Item} :
    sharedCrate start items = .ok shared ↔
      (∀ crate, start = some crate → shared = some crate) ∧
      (∀ item ∈ items, shared = some item.crate) ∧
      (start = none → items = [] → shared = none) := by
  induction items generalizing start with
  | nil => cases start <;> simp [sharedCrate, eq_comm]
  | cons item rest ih =>
      cases start with
      | none => simp [sharedCrate, ih]
      | some crate =>
          unfold sharedCrate
          split
          · next same => simp [ih, same]
          · next differ =>
            have apart : shared = some crate → shared ≠ some item.crate := by
              rintro rfl same
              exact differ (Option.some.inj same)
            simp only [reduceCtorEq, Option.some.injEq, forall_eq', List.mem_cons,
              forall_eq_or_imp, false_iff]
            rintro ⟨first, ⟨second, -⟩, -⟩
            exact apart first second

theorem sharedCrate_of_perm {items others : List Item} {shared : Option String}
    (given : sharedCrate none items = .ok shared) (same : items.Perm others) :
    sharedCrate none others = .ok shared := by
  obtain ⟨-, each, noneGiven⟩ := sharedCrate_eq_ok.mp given
  refine sharedCrate_eq_ok.mpr ⟨nofun, fun item member => each item (same.mem_iff.mpr member), ?_⟩
  rintro - rfl
  exact noneGiven rfl same.eq_nil

/-- Items of distinct names are sorted in one way only. -/
theorem sortByName_eq_of_perm {α : Type} {nameOf : α → String} {items others : List α}
    (distinct : ((sortByName nameOf items).map nameOf).Nodup) (same : items.Perm others) :
    sortByName nameOf items = sortByName nameOf others := by
  replace distinct := ((Order.sort_perm _ items).map nameOf).nodup_iff.mp distinct
  refine Order.sort_eq_of_perm (Order.before_strict.comap nameOf) ?_ same
  intro first member second other late early
  exact List.inj_on_of_nodup_map distinct member other (Order.before_total late early)

theorem sortByOwner_eq_of_perm {α : Type} {ownerOf nameOf : α → String} {items others : List α}
    (distinct : ((sortByOwner ownerOf nameOf items).map fun item =>
      (ownerOf item, nameOf item)).Nodup)
    (same : items.Perm others) :
    sortByOwner ownerOf nameOf items = sortByOwner ownerOf nameOf others := by
  replace distinct := ((Order.sort_perm _ items).map _).nodup_iff.mp distinct
  refine Order.sort_eq_of_perm (Order.before_strict.lexicographic ownerOf nameOf) ?_ same
  intro first member second other late early
  simp only [Bool.or_eq_false_iff, Bool.and_eq_false_iff, beq_eq_false_iff_ne] at late early
  have owners : ownerOf first = ownerOf second := Order.before_total late.1 early.1
  have names : nameOf first = nameOf second :=
    Order.before_total (late.2.resolve_left (not_not_intro owners))
      (early.2.resolve_left (not_not_intro owners.symm))
  exact List.inj_on_of_nodup_map distinct member other (Prod.ext owners names)

theorem nodup_of_entries {α : Type} {kind : DeclarationKind} {nameOf : α → String} {items : List α}
    (distinct : (items.map fun item => Entry.declared kind (nameOf item)).Nodup) :
    (items.map nameOf).Nodup := by
  rw [← Function.comp_def (Entry.declared kind), ← List.map_map] at distinct
  exact distinct.of_map _

/-- Objects of one name in one crate are the same at the root. -/
theorem object_eq_of_name {items : List Item} {crate : Option String}
    (shared : sharedCrate none items = .ok crate) (rooted : ∀ item ∈ items, item.atRoot = item)
    {first second : Object} (member : first ∈ items.filterMap Item.object?)
    (other : second ∈ items.filterMap Item.object?) (same : first.name = second.name) :
    first = second := by
  obtain ⟨-, each, -⟩ := sharedCrate_eq_ok.mp shared
  have placed {object : Object} (inside : object ∈ items.filterMap Item.object?) :
      crate = some object.crateModule := by
    obtain ⟨item, itemMember, picked⟩ := List.mem_filterMap.mp inside
    cases item with
    | object given =>
        cases picked
        have root : object.atRoot = object := Item.object.inj (rooted _ itemMember)
        exact (each _ itemMember).trans (congrArg (some ·.crateModule) root)
    | _ => cases picked
  have crates : first.crateModule = second.crateModule :=
    Option.some.inj ((placed member).symm.trans (placed other))
  cases first
  cases second
  cases same
  cases crates
  rfl

/-- A group whose names and members are distinct comes of its items in any order. -/
theorem ofItems_eq_of_perm {items others : List Item} {group : Group}
    (grouped : ofItems items = .ok group) (same : items.Perm others)
    (rooted : ∀ item ∈ items, item.atRoot = item) (distinct : group.entries.Nodup)
    (apart : group.members.Nodup) : ofItems others = .ok group := by
  rw [ofItems_eq] at grouped ⊢
  obtain ⟨crate, shared, rfl⟩ := Results.map_eq_ok.mp grouped
  refine Results.map_eq_ok.mpr ⟨crate, sharedCrate_of_perm shared same, ?_⟩
  obtain ⟨records, distinct, -⟩ := List.nodup_append.mp distinct
  obtain ⟨enums, distinct, -⟩ := List.nodup_append.mp distinct
  obtain ⟨errors, functions, -⟩ := List.nodup_append.mp distinct
  obtain ⟨constructors, methods, -⟩ := List.nodup_append.mp apart
  simp only [mk.injEq, true_and]
  refine ⟨sortByName_eq_of_perm (nodup_of_entries records) (same.filterMap _),
    sortByName_eq_of_perm (nodup_of_entries enums) (same.filterMap _),
    sortByName_eq_of_perm (nodup_of_entries errors) (same.filterMap _), ?_,
    sortByName_eq_of_perm (nodup_of_entries functions) (same.filterMap _),
    sortByOwner_eq_of_perm constructors (same.filterMap _),
    sortByOwner_eq_of_perm methods (same.filterMap _)⟩
  refine Order.sort_eq_of_perm (Order.before_strict.comap Object.name) ?_ (same.filterMap _)
  intro first member second other late early
  exact object_eq_of_name shared rooted member other (Order.before_total late early)

end Group

end Metadata

namespace Interface

open NativeBoundary.Action
open Metadata (Group Item)

theorem populate_atRoot (group : Group) : populate group.atRoot = populate group := by
  simp only [populate, Group.atRoot, Action.forAll_map, Group.isEmpty, List.isEmpty_map]
  rfl

/-- What modules are called below their crates has no effect at all. -/
theorem build_atRoot (document : Option Document) (items : List Item) (settings : Settings) :
    build document (items.map Item.atRoot) settings = build document items settings := by
  have assembles : assemble document (items.map Item.atRoot) settings =
      assemble document items settings := by
    unfold assemble
    rw [Group.ofItems_atRoot]
    cases Group.ofItems items with
    | error problem => rfl
    | ok group =>
        change (Action.lift (Except.ok group.atRoot) >>= fun group => _) = _
        simp only [Action.lift_ok_bind, Group.discover_atRoot, populate_atRoot]
        rfl
  rw [build, build, buildOutcome, buildOutcome, assembles]

/-- A group that was brought in has no name twice and no member twice. -/
theorem distinct_of_bring {declarations : List Document.Declaration} {group : Group}
    {version : Option Tag} {brought : Interface}
    (ran : (bring declarations group).Yields (empty version) () brought) :
    group.entries.Nodup ∧ group.members.Nodup := by
  obtain ⟨_, registry, middle, -, -, declares, populates⟩ := bring_yields.mp ran
  obtain ⟨-, isOpen, distinct, named⟩ := declared_of_declare declares
  obtain ⟨-, room, -, apart⟩ :=
    (completes_populate_iff isOpen distinct named).mp populates.completes
  exact ⟨(List.nodup_append.mp room.distinct).2.1, (List.nodup_append.mp apart).2.1⟩

theorem build_of_perm {document : Option Document} {items others : List Item}
    {settings : Settings} {interface : Interface} (same : items.Perm others)
    (rooted : ∀ item ∈ items, item.atRoot = item)
    (built : build document items settings = .ok interface) :
    build document others settings = .ok interface := by
  rw [build_eq_ok, assemble_yields] at built ⊢
  obtain ⟨group, brought, plain, derived, grouped, brings, rest⟩ := built
  obtain ⟨distinct, apart⟩ := distinct_of_bring brings
  exact ⟨group, brought, plain, derived,
    Group.ofItems_eq_of_perm grouped same rooted distinct apart, brings, rest⟩

/-- Metadata in another order and from other modules of the same crates makes the same interface,
or none in either case. -/
theorem build_arrival (document : Option Document) {items others : List Item} (settings : Settings)
    (same : (items.map Item.atRoot).Perm (others.map Item.atRoot)) (interface : Interface) :
    build document items settings = .ok interface ↔
      build document others settings = .ok interface := by
  have rooted (items : List Item) : ∀ item ∈ items.map Item.atRoot, item.atRoot = item := by
    intro item member
    obtain ⟨given, -, rfl⟩ := List.mem_map.mp member
    exact given.atRoot_atRoot
  rw [← build_atRoot document items, ← build_atRoot document others]
  exact ⟨build_of_perm same (rooted items), build_of_perm same.symm (rooted others)⟩

/-- Items of one crate from two modules, one object among them twice. -/
def gatheredItems : List Item := [
  .object { crateModule := "shop::stock", name := "Store" },
  .method {
    crateModule := "shop::stock"
    owner := "Store"
    name := "grow"
    inputs := [⟨"by", "Point"⟩] },
  .record { crateModule := "shop::goods", name := "Extra", fields := [⟨"n", "i64"⟩] },
  .object { crateModule := "shop::goods", name := "Store" }]

/-- The same items from one module, the other way round. -/
def scatteredItems : List Item := [
  .object { crateModule := "shop", name := "Store" },
  .record { crateModule := "shop", name := "Extra", fields := [⟨"n", "i64"⟩] },
  .method { crateModule := "shop", owner := "Store", name := "grow", inputs := [⟨"by", "Point"⟩] },
  .object { crateModule := "shop", name := "Store" }]

theorem build_arrival_gathered :
    (gatheredItems.map Item.atRoot).Perm (scatteredItems.map Item.atRoot) ∧
      ∃ interface, build (some shopDocument) gatheredItems {} = .ok interface ∧
        build (some shopDocument) scatteredItems {} = .ok interface := by
  have same : (gatheredItems.map Item.atRoot).Perm (scatteredItems.map Item.atRoot) := by
    decide +kernel
  have built := build_ok_of_result
    (by decide +kernel : (buildOutcome (some shopDocument) gatheredItems {}).result = .ok ())
  exact ⟨same, _, built, (build_arrival (some shopDocument) {} same _).mp built⟩

end Interface

end NativeBoundary

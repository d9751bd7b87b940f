import NativeBoundary.Proofs.Build.Compatibility
import NativeBoundary.Proofs.Build.Reordering
import NativeBoundary.Proofs.Document.Stability

/-!
# Metadata merged into a document

A document may be declared before any name of the metadata is bound, and the metadata merged into
what came of it.  Where both that document on its own and the build from both sources succeed, so
does the merge, and it ends with the interface of the build: no reading of the document changes when
names are bound behind its own, and what the metadata adds depends on bound names alone.  Only the
order in which types were met may differ.
-/

namespace NativeBoundary

open NativeBoundary.Action

/-! ## Names bound over the same bindings -/

namespace Registry

variable {before after other : Registry}

theorem Binds.within {introduced : List (String × Ty)} (binds : Binds introduced before after) :
    before.names.Within after.names := by
  intro name type bound
  change before.type? name = some type at bound
  change after.type? name = some type
  rw [binds.type?, bound, Option.some_or]

theorem define_of_bindings {name : String} {type : Ty} {location : Option Location} {value : Unit}
    (same : other.bindings = before.bindings)
    (ran : (define name type location).Yields before value after) :
    ∃ last, (define name type location).Yields other value last ∧
      last.bindings = after.bindings := by
  have bound : other.type? name = before.type? name := congrFun (names_eq_of_bindings same) name
  obtain ⟨free, ⟨known, rfl⟩ | ⟨unbound, rfl⟩⟩ := define_yields.mp ran
  · exact ⟨other, define_yields.mpr ⟨free, .inl ⟨bound.trans known, rfl⟩⟩, same⟩
  · refine ⟨_, define_yields.mpr ⟨free, .inr ⟨bound.trans unbound, rfl⟩⟩, ?_⟩
    rw [extend, extend, bindings_record, bindings_record, same]

/-- Which names can be bound, and what is bound then, depends on the bindings alone. -/
theorem defineAll_of_bindings {introduced : List (String × Ty)} {value : Unit}
    (same : other.bindings = before.bindings)
    (ran : (forAll (fun binding => define binding.1 binding.2 none) introduced).Yields
      before value after) :
    ∃ last, (forAll (fun binding => define binding.1 binding.2 none) introduced).Yields
      other value last ∧ last.bindings = after.bindings := by
  induction introduced generalizing before other with
  | nil =>
      rw [yields_forAll_nil] at ran
      exact ⟨other, yields_forAll_nil.mpr rfl, ran ▸ same⟩
  | cons binding rest ih =>
      obtain ⟨middle, first, others⟩ := yields_forAll_cons.mp ran
      obtain ⟨middleOther, firstOther, sameFirst⟩ := define_of_bindings same first
      obtain ⟨last, ranOthers, sameLast⟩ := ih sameFirst others
      exact ⟨last, yields_forAll_cons.mpr ⟨middleOther, firstOther, ranOthers⟩, sameLast⟩

end Registry

namespace Interface

open Document (Declaration)
open Document.Declaration (listed)
open Metadata (Group Item)

variable {declarations : List Declaration} {group : Group} {version : Option Tag}
  {first registry : Registry} {before middle after other : Interface}

/-! ## Interfaces that differ in the types they met -/

/-- Interfaces of equal contents differ in their registries at most. -/
theorem eq_of_contents (version : other.version = after.version) (space : other.space = after.space)
    (finalized : other.finalized = after.finalized) (contents : other.contents = after.contents) :
    other = { after with registry := other.registry } := by
  obtain ⟨records, enums, errors, callbacks, functions, objects⟩ := Contents.mk.inj contents
  cases other
  simp only [Interface.mk.injEq, true_and]
  exact ⟨version, space, Results.eq_of_map_ok enums, Results.eq_of_map_ok records,
    Results.eq_of_map_ok functions, Results.eq_of_map_ok objects, Results.eq_of_map_ok callbacks,
    Results.eq_of_map_ok errors, finalized⟩

namespace SameBindings

theorem type?_eq (same : SameBindings before other) (name : String) :
    other.type? name = before.type? name :=
  congrFun same.names_eq name

/-- A group that is merged into one of two such interfaces can be merged into the other. -/
theorem populate (same : SameBindings before other) (isOpen : before.finalized = false)
    (distinct : before.entries.Nodup) (named : WellNamed before)
    (ran : (populate group).Yields before () after) :
    ∃ last, (Interface.populate group).Yields other () last ∧ SameBindings after last := by
  have names := same.names_eq
  have namedOther := same.wellNamed named
  have isOpenOther := same.grown.finalized.trans isOpen
  have distinctOther : other.entries.Nodup := same.entries_eq ▸ distinct
  have taken : before.entries.Perm other.entries := same.entries_eq ▸ List.Perm.refl _
  obtain ⟨readable, room, owned, apart⟩ :=
    (completes_populate_iff isOpen distinct named).mp ran.completes
  rw [← names] at readable
  have room := room.of_perm (List.Perm.refl _) taken names.symm
  obtain ⟨registry, bindings, rfl⟩ := same
  obtain ⟨_, last, ranOther⟩ := (completes_populate_iff isOpenOther distinctOther namedOther).mpr
    ⟨readable, room, owned, apart⟩
  obtain ⟨bindingsAfter, contents⟩ := contents_populated named ran
  obtain ⟨bindingsLast, contentsLast⟩ := contents_populated namedOther ranOther
  obtain ⟨version, space, finalized⟩ := labels_of_populate ran
  obtain ⟨versionLast, spaceLast, finalizedLast⟩ := labels_of_populate ranOther
  refine ⟨last, ranOther, last.registry, ?_, eq_of_contents (versionLast.trans version.symm)
    (spaceLast.trans space.symm) (finalizedLast.trans finalized.symm) ?_⟩
  · rw [bindingsLast, bindingsAfter, bindings]
  · rw [contentsLast, contents, names]
    rfl

theorem check_eq_ok (same : SameBindings before other) (checked : before.check = .ok ()) :
    other.check = .ok () := by
  have bound := same.type?_eq
  obtain ⟨space, variants, thrown, defaults⟩ := Interface.check_eq_ok.mp checked
  obtain ⟨registry, -, rfl⟩ := same
  refine Interface.check_eq_ok.mpr ⟨space, fun variant member => ?_, thrown, defaults⟩
  rw [bound]
  exact variants variant member

/-- No foreign function depends on the types that were met. -/
theorem derive (same : SameBindings before other) (ran : derive.Yields before () after) :
    Interface.derive.Yields other () { after with registry := other.registry } := by
  obtain ⟨registry, -, rfl⟩ := same
  obtain ⟨whole, functions, objects, derivedFunctions, derivedObjects, rfl⟩ := derive_yields.mp ran
  exact derive_yields.mpr ⟨whole, functions, objects, derivedFunctions, derivedObjects, rfl⟩

/-- What an interface knows is told by its names and its declarations. -/
theorem mem_types_iff (same : SameBindings before other) (knows : Knows before)
    (knowsOther : Knows other) (type : Ty) : type ∈ other.types ↔ type ∈ before.types := by
  have bound := same.type?_eq
  rw [knowsOther.known_iff, knows.known_iff]
  simp only [bound]
  obtain ⟨registry, -, rfl⟩ := same
  exact Iff.rfl

end SameBindings

/-! ## The document on its own -/

/-- The part of a merge that comes before the metadata. -/
def bringDocument (declarations : List Declaration) : Action Interface Unit := do
  onRegistry (Registry.discover declarations)
  declare declarations

theorem bringDocument_yields :
    (bringDocument declarations).Yields (empty version) () after ↔
      ∃ first, (Registry.discover declarations).Yields {} () first ∧
        (declare declarations).Yields { empty version with registry := first } () after := by
  simp only [bringDocument, yields_bind_unit, onRegistry_yields]
  constructor
  · rintro ⟨_, ⟨first, discovers, rfl⟩, declares⟩
    exact ⟨first, discovers, declares⟩
  · rintro ⟨first, discovers, declares⟩
    exact ⟨_, ⟨first, discovers, rfl⟩, declares⟩

/-- A document that is declared under some names declares the same under more. -/
theorem declare_of_within (within : first.names.Within registry.names)
    (alone : (declare declarations).Yields { empty version with registry := first } () other)
    (declares : (declare declarations).Yields { empty version with registry } () middle) :
    other.registry.bindings = first.bindings ∧
      other = { middle with registry := other.registry } := by
  have adds := adds_of_declare alone
  obtain ⟨readable, -, -⟩ := completes_declare_iff.mp alone.completes
  obtain ⟨grown, isOpen, -, -⟩ := declared_of_declare declares
  obtain ⟨grownAlone, isOpenAlone, -, -⟩ := declared_of_declare alone
  have contents : other.contents = middle.contents := by
    rw [contents_declared alone, contents_declared declares]
    refine congrArg Contents.sum (List.map_congr_left fun declaration member => ?_)
    exact (declaration.contents_eq_of_within within (readable declaration member).whole).symm
  have space : other.space = middle.space :=
    (space_of_declare alone).trans (space_of_declare declares).symm
  exact ⟨adds.bindings, eq_of_contents (grownAlone.version.trans grown.version.symm) space
    (isOpenAlone.trans isOpen.symm) contents⟩

theorem space_of_bring (spaced : ∃ declaration ∈ declarations, ∃ functions,
      declaration.body = .space functions)
    {brought : Interface} (brings : (bring declarations group).Yields (empty version) () brought) :
    ∃ tag, brought.space = some tag := by
  obtain ⟨declaration, member, shape⟩ := spaced
  have inside : declaration ∈ listed .function declarations :=
    List.mem_filter.mpr ⟨member, by simpa using listing?_eq_function.mpr shape⟩
  obtain ⟨-, -, space⟩ := labels_of_bring brings
  cases names : listed .function declarations with
  | nil =>
      rw [names] at inside
      cases inside
  | cons named others => exact ⟨.text named.name, by rw [space, names]; rfl⟩

/-! ## The metadata behind it -/

/-- Declares a document, merges items into what came of it, and derives the foreign functions. -/
def accumulate (declarations : List Declaration) (items : List Item) : Action Interface Unit := do
  bringDocument declarations
  merge items
  let merged ← Action.get
  Action.lift merged.check
  derive

theorem accumulate_yields {items : List Item} :
    (accumulate declarations items).Yields (empty version) () after ↔
      ∃ declared group registry merged,
        (bringDocument declarations).Yields (empty version) () declared ∧
        Group.ofItems items = .ok group ∧ group.discover.Yields declared.registry () registry ∧
        (populate group).Yields { declared with registry } () merged ∧
        merged.check = .ok () ∧ derive.Yields merged () after := by
  simp only [accumulate, merge, yields_bind_unit, yields_lift_bind, yields_get_bind,
    onRegistry_yields]
  constructor
  · rintro ⟨declared, brings, merged, ⟨group, grouped, _, ⟨registry, introduces, rfl⟩, populates⟩,
      _, checked, derives⟩
    exact ⟨declared, group, registry, merged, brings, grouped, introduces, populates, checked,
      derives⟩
  · rintro ⟨declared, group, registry, merged, brings, grouped, introduces, populates, checked,
      derives⟩
    exact ⟨declared, brings, merged, ⟨group, grouped, _, ⟨registry, introduces, rfl⟩, populates⟩,
      (), checked, derives⟩

/-- The metadata merged into a document that was declared alone is the metadata brought in together
with the document. -/
theorem merge_of_bring {brought : Interface}
    (brings : (bring declarations group).Yields (empty version) () brought)
    (alone : (bringDocument declarations).Completes (empty version)) :
    ∃ declared registry merged,
      (bringDocument declarations).Yields (empty version) () declared ∧
      group.discover.Yields declared.registry () registry ∧
      (populate group).Yields { declared with registry } () merged ∧
      SameBindings brought merged ∧ Knows merged := by
  obtain ⟨first, registry, middle, discovers, introduces, declares, populates⟩ :=
    bring_yields.mp brings
  obtain ⟨_, declared, ran⟩ := alone
  obtain ⟨firstAlone, discoversAlone, declaresAlone⟩ := bringDocument_yields.mp ran
  obtain rfl : firstAlone = first := discoversAlone.2.symm.trans discovers.2
  have binds := Registry.binds_of_defineAll introduces
  obtain ⟨bindings, sameLists⟩ := declare_of_within binds.within declaresAlone declares
  obtain ⟨registryAlone, introducesAlone, sameBindings⟩ :=
    Registry.defineAll_of_bindings bindings introduces
  have adds := adds_of_declare declares
  have same : SameBindings middle { declared with registry := registryAlone } :=
    ⟨registryAlone, sameBindings.trans adds.bindings.symm, by rw [sameLists]⟩
  obtain ⟨-, isOpen, distinct, named⟩ := declared_of_declare declares
  obtain ⟨merged, merges, sameMerged⟩ := same.populate isOpen distinct named populates
  refine ⟨declared, registryAlone, merged, ran, introducesAlone, merges, sameMerged, ?_⟩
  have bindsAlone := Registry.binds_of_discover discovers
  have knows : Knows declared := (Knows.fresh bindsAlone
    (fun binding member => introduction_of_mem (List.mem_append_left group.introduced member))
    (Registry.tallies_empty.discover discovers)).declare declaresAlone
  have unlayered : registryAlone.names.Unlayered := by
    rw [Registry.names_eq_of_bindings sameBindings]
    exact (bindsAlone.append binds).unlayered fun _ => introduction_of_mem
  exact (knows.defineAll unlayered introducesAlone).populate merges

/-- Where a document with a namespace makes sense on its own, merging metadata into it ends with the
interface that is built from both, up to the order in which types were met and to being final. -/
theorem accumulate_of_build {document : Document} {items : List Item} {settings : Settings}
    {built : Interface}
    (spaced : ∃ declaration ∈ document.definitions, ∃ functions,
      declaration.body = .space functions)
    (alone : (bringDocument document.definitions).Completes (empty settings.versionTag))
    (done : build (some document) items settings = .ok built) :
    ∃ accumulated,
      (accumulate document.definitions items).Yields (empty settings.versionTag) () accumulated ∧
      accumulated.registry.bindings = built.registry.bindings ∧
      (∀ type, type ∈ accumulated.types ↔ type ∈ built.types) ∧
      accumulated = { built with registry := accumulated.registry, finalized := false } ∧
      accumulated.checksum = built.checksum ∧
      accumulated.foreignFunctions = built.foreignFunctions := by
  obtain ⟨group, brought, plain, derived, grouped, brings, fallsBack, checked, derives, rfl⟩ :=
    assemble_yields.mp (build_eq_ok.mp done)
  obtain ⟨tag, space⟩ := space_of_bring spaced brings
  obtain rfl := (fallBackSpace_yields_of_named space).mp fallsBack
  obtain ⟨declared, registry, merged, declares, introduces, populates, same, knows⟩ :=
    merge_of_bring brings alone
  have types := same.mem_types_iff (Knows.bring brings) knows
  have accumulates := accumulate_yields.mpr ⟨declared, group, registry, merged, declares, grouped,
    introduces, populates, same.check_eq_ok checked, same.derive derives⟩
  obtain ⟨-, isOpen, -⟩ := labels_of_bring brings
  obtain ⟨-, functions, objects, -, -, rfl⟩ := derive_yields.mp derives
  obtain ⟨_, bindings, rfl⟩ := same
  exact ⟨_, accumulates, bindings, types, by simp only [isOpen], rfl, rfl⟩

/-- A shop whose document needs nothing of the metadata. -/
def soleShop : Document where
  definitions := [
    { name := "shop", body := .space [{ name := "open", result := some (.named "Store") }] },
    { name := "Point", body := .dictionary [{ name := "x", type := .named "i64" }] },
    { name := "Store", body := .interface [{}] [{ name := "size", result := some (.named "u32") }] }]

theorem accumulate_of_build_shop :
    ∃ built accumulated, build (some soleShop) shopItems {} = .ok built ∧
      (accumulate soleShop.definitions shopItems).Yields (empty ({} : Settings).versionTag) ()
        accumulated ∧
      accumulated.registry.bindings = built.registry.bindings ∧
      accumulated.foreignFunctions = built.foreignFunctions := by
  have done := build_ok_of_result
    (by decide +kernel : (buildOutcome (some soleShop) shopItems {}).result = .ok ())
  have alone : (bringDocument soleShop.definitions).Completes (empty ({} : Settings).versionTag) :=
    completes_iff_result.mpr ⟨(), by decide +kernel⟩
  have spaced : ∃ declaration ∈ soleShop.definitions, ∃ functions,
      declaration.body = .space functions := ⟨_, List.mem_cons_self, _, rfl⟩
  obtain ⟨accumulated, accumulates, bindings, -, -, -, functions⟩ :=
    accumulate_of_build spaced alone done
  exact ⟨_, accumulated, done, accumulates, bindings, functions⟩

end Interface

end NativeBoundary

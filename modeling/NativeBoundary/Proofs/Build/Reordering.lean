import Mathlib.Data.List.Perm.Basic
import NativeBoundary.Proofs.Build.Learning
import NativeBoundary.Proofs.Build.Listing
import NativeBoundary.Proofs.Interface.Payload
import NativeBoundary.Proofs.Interface.Reachability
import NativeBoundary.Proofs.Interface.Rearrangement

/-!
# Documents in another order

The declarations of a document may stand in any order.  Discovery binds the same names whatever
comes first, what is declared is read under these names alone, and the lists take the same
declarations if they take them at all.  So either order makes an interface, or none does, and the
interfaces differ in the order of their lists only; where each list keeps its order, they have the
same checksum and the same foreign functions.
-/

namespace NativeBoundary.Interface

open NativeBoundary.Action
open Document (Declaration)
open Document.Declaration (listed)
open Metadata (Group Item)

variable {declarations others : List Declaration}

/-! ## A document that is brought in -/

variable {group : Group} {version : Option Tag} {first registry registryOther : Registry}
  {middle middleOther brought broughtOther : Interface}

theorem introductions_perm (same : declarations.Perm others) (group : Group) :
    (introductions declarations group).Perm (introductions others group) :=
  (same.flatMap_right _).append_right _

theorem discover_of_perm (same : declarations.Perm others)
    (discovers : (Registry.discover declarations).Yields {} () first)
    (introduces : group.discover.Yields first () registry) :
    ∃ firstOther registryOther, (Registry.discover others).Yields {} () firstOther ∧
      group.discover.Yields firstOther () registryOther ∧ registry.names = registryOther.names := by
  obtain ⟨introduced, definable⟩ := Registry.completes_discover_iff.mp discovers.completes
  have bindings := same.flatMap_right Declaration.bindings
  obtain ⟨_, firstOther, discoversOther⟩ := Registry.completes_discover_iff.mpr
    ⟨fun declaration member => introduced declaration (same.mem_iff.mpr member),
      (Registry.Definable.perm_iff bindings).mp definable⟩
  have binds := Registry.binds_of_discover discovers
  have bindsOther := Registry.binds_of_discover discoversOther
  have definableGroup := Registry.completes_defineAll_iff.mp introduces.completes
  obtain ⟨_, registryOther, introducesOther⟩ := Registry.completes_defineAll_iff.mpr
    ((Registry.Definable.congr_iff (binds.names_eq_of_perm bindsOther bindings).symm).mpr
      definableGroup)
  refine ⟨firstOther, registryOther, discoversOther, introducesOther, ?_⟩
  exact (binds.append (Registry.binds_of_defineAll introduces)).names_eq_of_perm
    (bindsOther.append (Registry.binds_of_defineAll introducesOther))
    (introductions_perm same group)

theorem declare_of_perm (same : declarations.Perm others)
    (names : registry.names = registryOther.names)
    (declares : (declare declarations).Yields { empty version with registry } () middle) :
    ∃ middleOther, (declare others).Yields
      { empty version with registry := registryOther } () middleOther := by
  obtain ⟨readable, distinct, unbound⟩ := completes_declare_iff.mp declares.completes
  have entries := same.flatMap_right Declaration.entries
  rw [names] at readable unbound
  obtain ⟨_, middleOther, declaresOther⟩ := completes_declare_iff.mpr
    ⟨fun declaration member => readable declaration (same.mem_iff.mpr member),
      entries.nodup_iff.mp distinct,
      fun name member => unbound name (entries.mem_iff.mpr member)⟩
  exact ⟨middleOther, declaresOther⟩

/-- What is read without a problem is in either order what the lists hold. -/
theorem perm_of_read {α : Type} {items others : List α}
    (same : (items.map Except.ok : List (Except Problem α)).Perm (others.map .ok)) :
    items.Perm others :=
  (List.map_perm_map_iff fun _ _ alike => Except.ok.inj alike).mp same

/-- What both documents declare can be brought together with the same metadata. -/
theorem bring_of_perm (same : declarations.Perm others)
    (brings : (bring declarations group).Yields (empty version) () brought) :
    ∃ other, (bring others group).Yields (empty version) () other := by
  obtain ⟨first, registry, middle, discovers, introduces, declares, populates⟩ :=
    bring_yields.mp brings
  obtain ⟨firstOther, registryOther, discoversOther, introducesOther, names⟩ :=
    discover_of_perm same discovers introduces
  obtain ⟨middleOther, declaresOther⟩ := declare_of_perm same names declares
  obtain ⟨grown, isOpen, distinct, named⟩ := declared_of_declare declares
  obtain ⟨grownOther, isOpenOther, distinctOther, namedOther⟩ := declared_of_declare declaresOther
  have sameNames : middle.names = middleOther.names :=
    (grown.names_eq.trans names).trans grownOther.names_eq.symm
  have entries : middle.entries.Perm middleOther.entries :=
    (grown.entries_perm.trans (same.flatMap_right _)).trans grownOther.entries_perm.symm
  have objects : middle.objects.Perm middleOther.objects := by
    refine perm_of_read ?_
    rw [objects_declared declares, objects_declared declaresOther, names]
    exact same.flatMap_right _
  have objectNames := objects.map Model.Object.name
  have members : middle.members.Perm middleOther.members := objects.flatMap_right _
  obtain ⟨readable, room, owned, apart⟩ :=
    (completes_populate_iff isOpen distinct named).mp populates.completes
  rw [sameNames] at readable
  obtain ⟨_, other, populatesOther⟩ :=
    (completes_populate_iff isOpenOther distinctOther namedOther).mpr
      ⟨readable, room.of_perm (List.Perm.refl _) entries sameNames,
        fun member inside => (owned member inside).imp_left objectNames.mem_iff.mp,
        (members.append_right _).nodup_iff.mp apart⟩
  exact ⟨other, bring_yields.mpr
    ⟨firstOther, registryOther, middleOther, discoversOther, introducesOther, declaresOther,
      populatesOther⟩⟩

theorem labels_of_bring (brings : (bring declarations group).Yields (empty version) () brought) :
    brought.version = (empty version).version ∧ brought.finalized = false ∧
      brought.space =
        (listed .function declarations).head?.map fun declaration => .text declaration.name := by
  obtain ⟨_, registry, middle, -, -, declares, populates⟩ := bring_yields.mp brings
  obtain ⟨grown, isOpen, -, -⟩ := declared_of_declare declares
  obtain ⟨sameVersion, sameSpace, sameFinalized⟩ := labels_of_populate populates
  have space := space_of_declare declares
  exact ⟨sameVersion.trans grown.version, sameFinalized.trans isOpen, sameSpace.trans space⟩

theorem listed_function_of_bring (same : declarations.Perm others)
    (brings : (bring declarations group).Yields (empty version) () brought) :
    listed .function declarations = listed .function others := by
  obtain ⟨_, registry, middle, -, -, declares, -⟩ := bring_yields.mp brings
  obtain ⟨-, distinct, -⟩ := completes_declare_iff.mp declares.completes
  exact listed_function_eq same distinct

/-- Both orders make the same interface, apart from the order in its lists. -/
theorem rearranges_of_bring (same : declarations.Perm others)
    (brings : (bring declarations group).Yields (empty version) () brought)
    (bringsOther : (bring others group).Yields (empty version) () broughtOther) :
    Rearranges brought broughtOther := by
  have stage := plain_of_bring brings
  have stageOther := plain_of_bring bringsOther
  obtain ⟨sameVersion, -, space⟩ := labels_of_bring brings
  obtain ⟨sameVersionOther, -, spaceOther⟩ := labels_of_bring bringsOther
  have listed := listed_function_of_bring same brings
  have names : brought.names = broughtOther.names :=
    stage.binds.names_eq_of_perm stageOther.binds (introductions_perm same group)
  have transfer {α : Type} (list : Contents → List (Except Problem α))
      (perm : (list (outline declarations group brought.names)).Perm
        (list (outline others group brought.names))) :
      (list brought.contents).Perm (list broughtOther.contents) := by
    rwa [stage.contents, stageOther.contents, ← names]
  have functions : brought.contents.functions = broughtOther.contents.functions := by
    rw [stage.contents, stageOther.contents, ← names]
    exact functions_outline_eq group _ listed
  exact {
    version := sameVersion.trans sameVersionOther.symm
    space := by rw [space, spaceOther, listed]
    names
    records := perm_of_read (transfer Contents.records ((same.flatMap_right _).append_right _))
    enums := perm_of_read (transfer Contents.enums ((same.flatMap_right _).append_right _))
    errors := perm_of_read (transfer Contents.errors ((same.flatMap_right _).append_right _))
    callbacks := perm_of_read (transfer Contents.callbacks (same.flatMap_right _))
    objects := perm_of_read
      (transfer Contents.objects ((plainObjects_perm group _ same).map _))
    functions := Results.eq_of_map_ok functions }

/-! ## Builds from documents that are ordered differently -/

theorem fallBackSpace_congr {settings : Settings} {crate : Option String} {plain : Interface}
    (space : brought.space = broughtOther.space)
    (finalized : brought.finalized = broughtOther.finalized)
    (ran : (fallBackSpace settings crate).Yields brought () plain) :
    (fallBackSpace settings crate).Yields broughtOther ()
      { broughtOther with space := plain.space } := by
  simp only [fallBackSpace, yields_get_bind] at ran ⊢
  rw [← space]
  split at ran
  · next unnamed =>
    rw [if_pos unnamed]
    split at ran
    · obtain ⟨-, rfl⟩ := yields_pure.mp ran
      exact yields_pure.mpr ⟨rfl, by rw [space]⟩
    · obtain ⟨isOpen, free, rfl⟩ := addSpace_yields.mp ran
      exact addSpace_yields.mpr ⟨finalized ▸ isOpen, space ▸ free, rfl⟩
  · next named =>
    rw [if_neg named]
    obtain ⟨-, rfl⟩ := yields_pure.mp ran
    exact yields_pure.mpr ⟨rfl, by rw [space]⟩

/-- Two interfaces have the same under every name, know the same types and have the same functions,
apart from what is derived. -/
structure AgreesByName (first second : Interface) : Prop where
  type? : ∀ name, first.type? name = second.type? name
  record? : ∀ name, first.record? name = second.record? name
  enum? : ∀ name, first.enum? name = second.enum? name
  error? : ∀ name, first.error? name = second.error? name
  function? : ∀ name, (first.function? name).map Model.Function.declared =
    (second.function? name).map Model.Function.declared
  object? : ∀ name, (first.object? name).map Model.Object.declared =
    (second.object? name).map Model.Object.declared
  callback? : ∀ name, (first.callback? name).map Model.CallbackInterface.declared =
    (second.callback? name).map Model.CallbackInterface.declared
  types : ∀ type, type ∈ first.types ↔ type ∈ second.types
  functions : first.functions.map Model.Function.declared =
    second.functions.map Model.Function.declared

theorem Rearranges.agreesByName {first second : Interface}
    (same : Rearranges first.declared second.declared) (named : WellNamed first.declared)
    (knows : Knows first.declared) (knowsSecond : Knows second.declared) :
    AgreesByName first second := by
  have uses (use : Ty) : use ∈ first.declared.uses ↔ use ∈ second.declared.uses :=
    same.uses_perm.mem_iff
  have bound (name : String) : first.declared.type? name = second.declared.type? name :=
    congrFun same.names name
  exact {
    type? := bound
    record? := same.record?_eq named
    enum? := same.enum?_eq named
    error? := same.error?_eq named
    function? name := by
      rw [← function?_declared, ← function?_declared, function?, same.functions]
      rfl
    object? name := by
      rw [← object?_declared, ← object?_declared, same.object?_eq named]
    callback? name := by
      rw [← callback?_declared, ← callback?_declared, same.callback?_eq named]
    types type := by
      have known := knows.known_iff type
      simp only [bound, uses] at known
      exact known.trans (knowsSecond.known_iff type).symm
    functions := same.functions }

/-- Equal contents under one version and namespace are declared alike. -/
theorem declaresAlike_of_contents {first second : Interface}
    (version : first.version = second.version) (space : first.space = second.space)
    (contents : first.contents = second.contents) :
    DeclaresAlike first second := by
  obtain ⟨records, enums, errors, callbacks, functions, objects⟩ := Contents.mk.inj contents
  exact {
    version
    space := by rw [spaceTag, spaceTag, space]
    enums := Results.eq_of_map_ok enums
    records := Results.eq_of_map_ok records
    functions := congrArg _ (Results.eq_of_map_ok functions)
    objects := congrArg _ (Results.eq_of_map_ok objects)
    callbacks := congrArg _ (Results.eq_of_map_ok callbacks)
    errors := Results.eq_of_map_ok errors }

variable {plain plainOther derived derivedOther : Interface} {settings : Settings}
  {crate : Option String}

theorem Knows.fallBackSpace (knows : Knows brought)
    (ran : (fallBackSpace settings crate).Yields brought () plain) : Knows plain := by
  obtain ⟨space, rfl⟩ := fallBackSpace_yields ran
  exact ⟨knows.unlayered, knows.known_iff⟩

/-- In either order the sources come together under the same namespace. -/
theorem plain_of_perm (same : declarations.Perm others)
    (brings : (bring declarations group).Yields (empty version) () brought)
    (spaced : (fallBackSpace settings crate).Yields brought () plain) :
    ∃ broughtOther plainOther, (bring others group).Yields (empty version) () broughtOther ∧
      (fallBackSpace settings crate).Yields broughtOther () plainOther ∧
      Rearranges plain plainOther := by
  obtain ⟨broughtOther, bringsOther⟩ := bring_of_perm same brings
  have rearranged := rearranges_of_bring same brings bringsOther
  obtain ⟨-, isOpen, -⟩ := labels_of_bring brings
  obtain ⟨-, isOpenOther, -⟩ := labels_of_bring bringsOther
  have spacedOther := fallBackSpace_congr rearranged.space (isOpen.trans isOpenOther.symm) spaced
  obtain ⟨space, rfl⟩ := fallBackSpace_yields spaced
  exact ⟨broughtOther, _, bringsOther, spacedOther, { rearranged with space := rfl }⟩

theorem agreesByName_of_derive (same : Rearranges plain plainOther)
    (stage : Plain declarations group plain) (stageOther : Plain others group plainOther)
    (knows : Knows plain) (knowsOther : Knows plainOther)
    (derives : derive.Yields plain () derived)
    (derivesOther : derive.Yields plainOther () derivedOther) :
    AgreesByName derived derivedOther := by
  have named := stage.named
  have declared := (declared_of_derive derives).trans stage.declared_eq
  have declaredOther := (declared_of_derive derivesOther).trans stageOther.declared_eq
  rw [← declared] at named knows
  rw [← declaredOther] at knowsOther
  rw [← declared, ← declaredOther] at same
  exact same.agreesByName named knows knowsOther

theorem declaresAlike_of_listed (same : Rearranges plain plainOther)
    (stage : Plain declarations group plain) (stageOther : Plain others group plainOther)
    (alike : ∀ kind, listed kind declarations = listed kind others) :
    DeclaresAlike plain plainOther := by
  refine declaresAlike_of_contents same.version same.space ?_
  rw [stage.contents, stageOther.contents, ← same.names]
  exact outline_eq_of_listed group plain.names alike

variable {document : Document} {definitions : List Declaration} {items : List Item}

/-- A document whose declarations stand in another order is built like the first. -/
theorem reordered_of_build (same : document.definitions.Perm definitions) {first : Interface}
    (built : build (some document) items settings = .ok first) :
    ∃ second, build (some { document with definitions }) items settings = .ok second ∧
      AgreesByName first second ∧
      ((∀ kind, listed kind document.definitions = listed kind definitions) →
        first.checksum = second.checksum ∧ first.foreignFunctions = second.foreignFunctions) := by
  obtain ⟨group, brought, plain, derived, grouped, brings, spaced, checked, derives, rfl⟩ :=
    assemble_yields.mp (build_eq_ok.mp built)
  obtain ⟨broughtOther, plainOther, bringsOther, spacedOther, rearranged⟩ :=
    plain_of_perm same brings spaced
  have stage := (plain_of_bring brings).fallBackSpace spaced
  have stageOther := (plain_of_bring bringsOther).fallBackSpace spacedOther
  have knows := (Knows.bring brings).fallBackSpace spaced
  have knowsOther := (Knows.bring bringsOther).fallBackSpace spacedOther
  have checkedOther := rearranged.check_eq_ok stage.named checked
  obtain ⟨derivedOther, derivesOther⟩ := rearranged.derives derives
  have agrees := agreesByName_of_derive rearranged stage stageOther knows knowsOther derives
    derivesOther
  refine ⟨{ derivedOther with finalized := true }, build_eq_ok.mpr (assemble_yields.mpr
    ⟨group, broughtOther, plainOther, derivedOther, grouped, bringsOther, spacedOther,
      checkedOther, derivesOther, rfl⟩), { agrees with }, fun alike => ?_⟩
  have declares := declaresAlike_of_listed rearranged stage stageOther alike
  have symbols := declares.symbols_eq derives derivesOther
  exact symbols

/-- The order of the declarations of a document does not matter: either order is built or neither,
names stand for the same, the same types are known, and the functions are the same.  Where
declarations of one list keep their order, so are the checksum and the foreign functions. -/
theorem build_reordered (document : Document) {definitions : List Declaration} (items : List Item)
    (settings : Settings) (same : document.definitions.Perm definitions) :
    ((∃ interface, build (some document) items settings = .ok interface) ↔
      ∃ interface, build (some { document with definitions }) items settings = .ok interface) ∧
    ∀ first second, build (some document) items settings = .ok first →
      build (some { document with definitions }) items settings = .ok second →
      AgreesByName first second ∧
      ((∀ kind, listed kind document.definitions = listed kind definitions) →
        first.checksum = second.checksum ∧ first.foreignFunctions = second.foreignFunctions) := by
  refine ⟨⟨?_, ?_⟩, ?_⟩
  · rintro ⟨first, built⟩
    obtain ⟨second, builtSecond, -⟩ := reordered_of_build same built
    exact ⟨second, builtSecond⟩
  · rintro ⟨second, built⟩
    obtain ⟨first, builtFirst, -⟩ := reordered_of_build same.symm built
    exact ⟨first, builtFirst⟩
  · intro first second built builtSecond
    obtain ⟨other, builtOther, agrees⟩ := reordered_of_build same built
    obtain rfl : other = second := Except.ok.inj (builtOther.symm.trans builtSecond)
    exact agrees

/-- The declarations of the ring, the object in front and the namespace last. -/
def turnedRing : List Declaration :=
  ringDocument.definitions.drop 3 ++ (ringDocument.definitions.drop 1).take 2 ++
    ringDocument.definitions.take 1

theorem build_reordered_ring :
    ringDocument.definitions.Perm turnedRing ∧
      ∃ first second, build (some ringDocument) [] {} = .ok first ∧
        build (some { ringDocument with definitions := turnedRing }) [] {} = .ok second ∧
        AgreesByName first second ∧ first.checksum = second.checksum := by
  have same : ringDocument.definitions.Perm turnedRing := by decide +kernel
  have kept : ∀ kind, listed kind ringDocument.definitions = listed kind turnedRing := by
    intro kind
    cases kind <;> decide +kernel
  have built := build_ok_of_result
    (by decide +kernel : (buildOutcome (some ringDocument) [] {}).result = .ok ())
  obtain ⟨either, agree⟩ := build_reordered ringDocument [] {} same
  obtain ⟨second, builtSecond⟩ := either.mp ⟨_, built⟩
  obtain ⟨agrees, symbols⟩ := agree _ second built builtSecond
  exact ⟨same, _, second, built, builtSecond, agrees, (symbols kept).1⟩

end NativeBoundary.Interface

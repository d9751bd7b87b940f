import NativeBoundary.Proofs.Build.Joining
import NativeBoundary.Proofs.Build.Refinement
import NativeBoundary.Proofs.Registry.Agreement

/-!
# Sources that can be brought together

A document and a metadata group can be brought into one interface under conditions on the two alone.
What they introduce agrees, all of it can be read in the names that come of it, nothing is taken
twice, no function is named like a type, and the members of the group find their objects and are new
there.  What is left to a build, once its sources are in, is the namespace.
-/

namespace NativeBoundary.Interface

open NativeBoundary.Action
open Document (Declaration)
open Metadata (Group Item)

variable {declarations : List Declaration} {group : Group} {version : Option Tag}
  {registry : Registry} {before middle after : Interface}

/-- Every member of a group belongs to an object on either side, and is new there. -/
def Joinable (declarations : List Declaration) (group : Group) (names : Names) : Prop :=
  ∀ objects : List Model.Object,
    (declarations.flatMap fun declaration => (declaration.contents names).objects) =
      objects.map .ok →
    ∀ member ∈ group.members,
      (member.1 ∈ objects.map Model.Object.name ∨
        member.1 ∈ group.objects.map Metadata.Object.name) ∧
      member ∉ objects.flatMap fun object => object.callables.map (object.name, ·)

/-- A document and a group can be brought together. -/
structure Compatible (declarations : List Declaration) (group : Group) : Prop where
  introduced : ∀ declaration ∈ declarations, ∃ type, declaration.introduced = .ok type
  definable : Registry.Definable (introductions declarations group) {}
  document : ∀ declaration ∈ declarations, declaration.Readable (environment declarations group)
  metadata : group.Readable (environment declarations group)
  distinct : (declarations.flatMap Declaration.entries ++ group.entries).Nodup
  unbound : ∀ name,
    .declared .function name ∈ declarations.flatMap Declaration.entries ++ group.entries →
      environment declarations group name = none
  apart : group.members.Nodup
  joinable : Joinable declarations group (environment declarations group)

/-- What a document has declared takes a group exactly under the conditions on the two. -/
theorem completes_populate_of_declare
    (declares : (declare declarations).Yields { empty version with registry } () middle) :
    (populate group).Completes middle ↔ group.Readable registry.names ∧
      (declarations.flatMap Declaration.entries ++ group.entries).Nodup ∧
      (∀ name, .declared .function name ∈ group.entries → registry.names name = none) ∧
      group.members.Nodup ∧ Joinable declarations group registry.names := by
  obtain ⟨grown, isOpen, distinct, named⟩ := declared_of_declare declares
  have names : middle.names = registry.names := grown.names_eq
  have entries : (middle.entries ++ group.entries).Nodup ↔
      (declarations.flatMap Declaration.entries ++ group.entries).Nodup :=
    (grown.entries_perm.append_right group.entries).nodup_iff
  have room : Room group.entries middle ↔
      (declarations.flatMap Declaration.entries ++ group.entries).Nodup ∧
        ∀ name, .declared .function name ∈ group.entries → registry.names name = none := by
    rw [← entries, ← names]
    exact ⟨fun room => ⟨room.distinct, room.unbound⟩, fun ⟨distinct, unbound⟩ => ⟨distinct, unbound⟩⟩
  have objects := objects_declared declares
  have joins : ((∀ member ∈ group.members, member.1 ∈ middle.objects.map Model.Object.name ∨
        member.1 ∈ group.objects.map Metadata.Object.name) ∧
      (middle.members ++ group.members).Nodup) ↔
        group.members.Nodup ∧ Joinable declarations group registry.names := by
    rw [List.nodup_append', List.disjoint_right]
    constructor
    · rintro ⟨owned, -, apart, fresh⟩
      refine ⟨apart, fun others same member inside => ?_⟩
      obtain rfl : middle.objects = others := Results.eq_of_map_ok (objects.trans same)
      exact ⟨owned member inside, fresh inside⟩
    · rintro ⟨apart, joinable⟩
      have joins := joinable middle.objects objects.symm
      exact ⟨fun member inside => (joins member inside).1, members_nodup named, apart,
        fun member inside => (joins member inside).2⟩
  rw [completes_populate_iff isOpen distinct named, names, room, joins, and_assoc]

/-- The sources of a build can be brought into an interface exactly if they are compatible. -/
theorem completes_bring_iff :
    (bring declarations group).Completes (empty version) ↔ Compatible declarations group := by
  constructor
  · rintro ⟨_, after, ran⟩
    obtain ⟨first, registry, middle, discovers, introduces, declares, populates⟩ :=
      bring_yields.mp ran
    have binds := Registry.binds_of_discover discovers
    have names : registry.names = environment declarations group :=
      (binds.append (Registry.binds_of_defineAll introduces)).names_eq
    obtain ⟨introduced, definable⟩ := Registry.completes_discover_iff.mp discovers.completes
    obtain ⟨readable, -, unbound⟩ := completes_declare_iff.mp declares.completes
    obtain ⟨readableGroup, distinct, unboundGroup, apart, joinable⟩ :=
      (completes_populate_of_declare declares).mp populates.completes
    rw [names] at readable unbound readableGroup unboundGroup joinable
    exact {
      introduced
      definable := (Registry.Definable.append_iff binds).mpr
        ⟨definable, Registry.completes_defineAll_iff.mp introduces.completes⟩
      document := readable
      metadata := readableGroup
      distinct
      unbound := fun name member => (List.mem_append.mp member).elim (unbound name)
        (unboundGroup name)
      apart
      joinable }
  · intro compatible
    obtain ⟨_, first, discovers⟩ := Registry.completes_discover_iff.mpr ⟨compatible.introduced,
      compatible.definable.mono (List.subset_append_left _ _)⟩
    have binds := Registry.binds_of_discover discovers
    obtain ⟨-, definable⟩ := (Registry.Definable.append_iff binds).mp compatible.definable
    obtain ⟨_, registry, introduces⟩ := Registry.completes_defineAll_iff.mpr definable
    have names : registry.names = environment declarations group :=
      (binds.append (Registry.binds_of_defineAll introduces)).names_eq
    obtain ⟨_, middle, declares⟩ := completes_declare_iff.mpr ⟨names ▸ compatible.document,
      (List.nodup_append.mp compatible.distinct).1,
      fun name member => names ▸ compatible.unbound name (List.mem_append_left _ member)⟩
    obtain ⟨_, after, populates⟩ := (completes_populate_of_declare declares).mpr
      ⟨names ▸ compatible.metadata, compatible.distinct,
        fun name member => names ▸ compatible.unbound name (List.mem_append_right _ member),
        compatible.apart, names ▸ compatible.joinable⟩
    exact ⟨(), after, bring_yields.mpr
      ⟨first, registry, middle, discovers, introduces, declares, populates⟩⟩

/-! ## The namespace -/

/-- An interface that has no namespace takes the first of two, if there is one. -/
theorem fallBackSpace_yields_iff {settings : Settings} {crate : Option String} {value : Unit}
    (isOpen : before.finalized = false) (unnamed : before.space = none) :
    (fallBackSpace settings crate).Yields before value after ↔
      after = { before with space := Tag.orElse settings.spaceTag (crate.map Tag.text) } := by
  simp only [fallBackSpace, yields_get_bind, unnamed, Option.isNone_none, if_true]
  cases given : Tag.orElse settings.spaceTag (crate.map Tag.text) with
  | none =>
      have kept : ({ before with space := none } : Interface) = before := by rw [← unnamed]
      rw [kept]
      exact ⟨fun ran => (yields_pure.mp ran).2, fun same => yields_pure.mpr ⟨rfl, same⟩⟩
  | some tag =>
      exact ⟨fun ran => (addSpace_yields.mp ran).2.2, fun same =>
        addSpace_yields.mpr ⟨isOpen, unnamed, same⟩⟩

/-- The namespace of a document stays. -/
theorem fallBackSpace_yields_of_named {settings : Settings} {crate : Option String} {value : Unit}
    {tag : Tag} (named : before.space = some tag) :
    (fallBackSpace settings crate).Yields before value after ↔ after = before := by
  simp only [fallBackSpace, yields_get_bind, named, Option.isNone_some, Bool.false_eq_true,
    if_false]
  exact ⟨fun ran => (yields_pure.mp ran).2, fun same => yields_pure.mpr ⟨rfl, same⟩⟩

end NativeBoundary.Interface

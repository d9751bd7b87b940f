import NativeBoundary.Interface.Consistency
import NativeBoundary.Proofs.Build.Naming
import NativeBoundary.Proofs.Interface.Derivation
import NativeBoundary.Proofs.Model.Uses

/-!
# Declarations in another order

Two interfaces may have the same declarations in lists of another order.  Names stand for the same
declarations then, the same types are used, and either both interfaces are consistent and can be
derived from or neither is.
-/

namespace NativeBoundary

/-! ## Whether foreign functions can be derived -/

namespace Model

variable {α β : Type}

theorem isSome_collect {derive? : α → Option β} {items : List α} :
    (collect derive? items).isSome = true ↔ ∀ item ∈ items, (derive? item).isSome = true := by
  induction items with
  | nil => simp [collect]
  | cons item rest ih =>
      rw [List.forall_mem_cons, ← ih]
      cases first : derive? item <;> cases others : collect derive? rest <;>
        simp [collect, first, others]

/-- A list of items of another can be derived from where that can be, item by item. -/
theorem isSome_collect_of_subset {derive? other? : α → Option β} {items others : List α}
    (alike : ∀ item, (derive? item).isSome = (other? item).isSome) (part : others ⊆ items)
    (done : (collect derive? items).isSome = true) : (collect other? others).isSome = true := by
  rw [isSome_collect] at done ⊢
  intro item member
  rw [← alike]
  exact done item (part member)

variable (space other : String)

theorem Function.isSome_derive? (function : Function) :
    (function.derive? space).isSome = (function.derive? other).isSome := by
  simp only [derive?]
  cases foreignArguments? function.arguments <;> cases foreignResult? function.result <;> rfl

theorem Constructor.isSome_derive? (owner : String) (constructor : Constructor) :
    (constructor.derive? space owner).isSome = (constructor.derive? other owner).isSome := by
  simp only [derive?]
  cases foreignArguments? constructor.arguments <;> rfl

theorem Method.isSome_derive? (owner : String) (method : Method) :
    (method.derive? space owner).isSome = (method.derive? other owner).isSome := by
  simp only [derive?]
  cases foreignArguments? method.fullArguments <;> cases foreignResult? method.result <;> rfl

/-- Names of symbols do not decide whether an object has foreign functions. -/
theorem Object.isSome_derive? (object : Object) :
    (object.derive? space).isSome = (object.derive? other).isSome := by
  have keeps {before after : String} (done : (object.derive? before).isSome = true) :
      (object.derive? after).isSome = true := by
    obtain ⟨derived, done⟩ := Option.isSome_iff_exists.mp done
    obtain ⟨constructors, methods, built, equipped, -⟩ := derive_eq_some.mp done
    obtain ⟨constructorsAfter, builtAfter⟩ := Option.isSome_iff_exists.mp <|
      isSome_collect_of_subset (Constructor.isSome_derive? before after object.name)
        (List.Subset.refl _) (Option.isSome_of_eq_some built)
    obtain ⟨methodsAfter, equippedAfter⟩ := Option.isSome_iff_exists.mp <|
      isSome_collect_of_subset (Method.isSome_derive? before after object.name)
        (List.Subset.refl _) (Option.isSome_of_eq_some equipped)
    exact Option.isSome_of_eq_some
      (derive_eq_some.mpr ⟨constructorsAfter, methodsAfter, builtAfter, equippedAfter, rfl⟩)
  exact Bool.eq_iff_iff.mpr ⟨keeps, keeps⟩

end Model

namespace Interface

open NativeBoundary.Action Model

/-- The same under names, with the same functions and, in any order, the same other declarations. -/
structure Rearranges (first second : Interface) : Prop where
  version : first.version = second.version
  space : first.space = second.space
  names : first.names = second.names
  records : first.records.Perm second.records
  enums : first.enums.Perm second.enums
  errors : first.errors.Perm second.errors
  callbacks : first.callbacks.Perm second.callbacks
  objects : first.objects.Perm second.objects
  functions : first.functions = second.functions

/-! ## Consistency as a condition -/

theorem firstProblem_eq_ok {α : Type} {accepts : α → Bool} {problem : α → Problem}
    {items : List α} {value : Unit} :
    firstProblem accepts problem items = .ok value ↔ ∀ item ∈ items, accepts item = true := by
  unfold firstProblem
  cases found : items.find? fun item => !accepts item with
  | none => simpa using found
  | some item =>
      have refused := List.find?_some found
      simp only [reduceCtorEq, false_iff, not_forall]
      exact ⟨item, List.mem_of_find?_eq_some found, by simpa using refused⟩

theorem check_eq_ok {interface : Interface} :
    interface.check = .ok () ↔
      interface.spaceTag.isBlank = false ∧
      (∀ variant ∈ interface.variantNames, (interface.type? variant).isNone = true) ∧
      (∀ thrown ∈ interface.throwing, (interface.error? thrown.2).isSome = true) ∧
      ∀ default ∈ interface.enumDefaults, interface.isVariant default.2 = true := by
  unfold check
  cases interface.spaceTag.isBlank with
  | true => simp [Results.bind_eq_ok]
  | false => simp [Results.bind_eq_ok, firstProblem_eq_ok]

/-! ## Look-ups -/

section Lists

variable {α : Type} {nameOf : α → String} {items others : List α} {name : String}

theorem find?_eq_some_iff (distinct : (items.map nameOf).Nodup) {item : α} :
    (items.find? fun other => nameOf other == name) = some item ↔
      item ∈ items ∧ nameOf item = name := by
  constructor
  · intro found
    have accepted := List.find?_some found
    exact ⟨List.mem_of_find?_eq_some found, eq_of_beq accepted⟩
  · rintro ⟨inside, rfl⟩
    have matched : ∃ other ∈ items, (nameOf other == nameOf item) = true :=
      ⟨item, inside, beq_self_eq_true _⟩
    obtain ⟨other, found⟩ := Option.isSome_iff_exists.mp (List.find?_isSome.mpr matched)
    have accepted := List.find?_some found
    have alike : nameOf other = nameOf item := eq_of_beq accepted
    rw [found, List.inj_on_of_nodup_map distinct (List.mem_of_find?_eq_some found) inside alike]

/-- Where names are distinct, the items of a name are the one that a look-up finds. -/
theorem filter_eq_find? (distinct : (items.map nameOf).Nodup) (name : String) :
    (items.filter fun item => nameOf item == name) =
      (items.find? fun item => nameOf item == name).toList := by
  induction items with
  | nil => rfl
  | cons first rest ih =>
      rw [List.map_cons, List.nodup_cons] at distinct
      rw [List.filter_cons, List.find?_cons]
      cases same : nameOf first == name with
      | false => simpa using ih distinct.2
      | true =>
          have others : ∀ item ∈ rest, nameOf item ≠ name := fun item member alike =>
            distinct.1 (List.mem_map.mpr ⟨item, member, alike.trans (eq_of_beq same).symm⟩)
          simpa using others

/-- Where names are distinct, the order of a list does not matter to look-ups. -/
theorem find?_eq_of_perm (distinct : (items.map nameOf).Nodup) (same : items.Perm others) :
    (items.find? fun item => nameOf item == name) =
      others.find? fun item => nameOf item == name := by
  have distinctOther := (same.map nameOf).nodup_iff.mp distinct
  refine Option.ext fun item => ?_
  rw [find?_eq_some_iff distinct, find?_eq_some_iff distinctOther, same.mem_iff]

end Lists

namespace Rearranges

variable {first second : Interface}

section Lookups

variable (same : Rearranges first second) (named : WellNamed first)

include same named

theorem record?_eq (name : String) : first.record? name = second.record? name :=
  find?_eq_of_perm named.records same.records

theorem enum?_eq (name : String) : first.enum? name = second.enum? name :=
  find?_eq_of_perm named.enums same.enums

theorem error?_eq (name : String) : first.error? name = second.error? name :=
  find?_eq_of_perm named.errors same.errors

theorem callback?_eq (name : String) : first.callback? name = second.callback? name :=
  find?_eq_of_perm named.callbacks same.callbacks

theorem object?_eq (name : String) : first.object? name = second.object? name :=
  find?_eq_of_perm named.objects same.objects

end Lookups

theorem uses_perm (same : Rearranges first second) : first.uses.Perm second.uses := by
  unfold uses
  rw [same.functions]
  exact (((((same.records.flatMap_right _).append (same.enums.flatMap_right _)).append
    (same.errors.flatMap_right _)).append (same.objects.flatMap_right _)).append
      (same.callbacks.flatMap_right _)).append_right _

/-! ## Consistency and derivation -/

theorem check_eq_ok (same : Rearranges first second) (named : WellNamed first)
    (checked : first.check = .ok ()) : second.check = .ok () := by
  obtain ⟨space, variants, thrown, defaults⟩ := Interface.check_eq_ok.mp checked
  have variantNames : first.variantNames.Perm second.variantNames :=
    same.enums.flatMap_right _
  have throwing : first.throwing.Perm second.throwing := by
    unfold Interface.throwing
    rw [same.functions]
    exact ((same.objects.flatMap_right _).append_left _).append (same.callbacks.flatMap_right _)
  have enumDefaults : first.enumDefaults.Perm second.enumDefaults := by
    unfold Interface.enumDefaults
    rw [same.functions]
    exact ((same.records.flatMap_right _).append_right _).append (same.objects.flatMap_right _)
  have isVariant (literal : Literal) : first.isVariant literal = second.isVariant literal := by
    simp only [Interface.isVariant, same.enum?_eq named]
  have spaceTag : first.spaceTag = second.spaceTag := by rw [Interface.spaceTag, same.space]; rfl
  refine Interface.check_eq_ok.mpr ⟨spaceTag ▸ space, ?_, ?_, ?_⟩
  · intro variant member
    have bound : first.type? variant = second.type? variant := congrFun same.names variant
    rw [← bound]
    exact variants variant (variantNames.mem_iff.mpr member)
  · intro throws member
    rw [← same.error?_eq named]
    exact thrown throws (throwing.mem_iff.mpr member)
  · intro default member
    rw [← isVariant]
    exact defaults default (enumDefaults.mem_iff.mpr member)

theorem breakdown?_eq (same : Rearranges first second) :
    first.breakdown? = second.breakdown? := by
  have written : first.writtenTypes.Perm second.writtenTypes := by
    unfold writtenTypes
    rw [same.functions]
    exact (((((same.enums.flatMap_right _).append (same.records.flatMap_right _)).append_right
      _).append (same.objects.flatMap_right _)).append (same.callbacks.flatMap_right _)).append
        (same.errors.flatMap_right _)
  unfold breakdown? spaceTag
  rw [written.any_eq, same.space, same.version]

/-- What can be derived from one can be derived from the other, under its own symbol space. -/
theorem derives (same : Rearranges first second) {after : Interface}
    (ran : derive.Yields first () after) : ∃ other, derive.Yields second () other := by
  obtain ⟨writable, functions, objects, functionsDone, objectsDone, -⟩ := derive_yields.mp ran
  obtain ⟨functionsOther, functionsDoneOther⟩ := Option.isSome_iff_exists.mp <|
    isSome_collect_of_subset (Function.isSome_derive? first.symbolSpace second.symbolSpace)
      (List.Perm.of_eq same.functions.symm).subset (Option.isSome_of_eq_some functionsDone)
  obtain ⟨objectsOther, objectsDoneOther⟩ := Option.isSome_iff_exists.mp <|
    isSome_collect_of_subset (Object.isSome_derive? first.symbolSpace second.symbolSpace)
      same.objects.symm.subset (Option.isSome_of_eq_some objectsDone)
  exact ⟨_, derive_yields.mpr ⟨same.breakdown?_eq ▸ writable, functionsOther, objectsOther,
    functionsDoneOther, objectsDoneOther, rfl⟩⟩

end Rearranges

end Interface

end NativeBoundary

import NativeBoundary.Proofs.Build.Joining
import NativeBoundary.Proofs.Build.Occurrence
import NativeBoundary.Proofs.Registry.Agreement

/-!
# Bound names and listed declarations

Discovery tells from its attributes alone what a declaration introduces, and detail tells apart
from them once more in which list it ends up.  Both come to the same: once both sources have been
brought in, a name is bound to a declared type exactly if a declaration of that kind and name is
listed.  A list is made by its own declarations alone, so documents that agree list by list come to
the same; the one declaration that gives the namespace may stand anywhere.
-/

namespace NativeBoundary

/-- The kind of type that declarations of a kind introduce; a function is no type. -/
def DeclarationKind.introduces? : DeclarationKind → Option TyKind
  | .enum => some .enum
  | .record => some .record
  | .object => some .object
  | .callbackInterface => some .callbackInterface
  | .error => some .error
  | .function => none

/-- What an entry binds, unless it is the namespace or a function. -/
def Entry.binding? : Entry → Option (String × Ty)
  | .space => none
  | .declared kind name => kind.introduces?.map fun typeKind => (name, .named typeKind name)

/-- Nothing but the given list has entries. -/
structure Contents.Confined (kind : Option DeclarationKind) (contents : Contents) : Prop where
  records : kind ≠ some .record → contents.records = []
  enums : kind ≠ some .enum → contents.enums = []
  errors : kind ≠ some .error → contents.errors = []
  callbacks : kind ≠ some .callbackInterface → contents.callbacks = []
  functions : kind ≠ some .function → contents.functions = []
  objects : kind ≠ some .object → contents.objects = []

namespace Document.Declaration

variable {declaration : Declaration} {introduced : Option Ty}

/-- An external or a custom type is not declared. -/
theorem isDeclared_of_typedefType {typeName : String} {type : Ty}
    (read : declaration.typedefType typeName = .ok type) : type.isDeclared = false := by
  obtain ⟨attributes, -, rest⟩ := Results.bind_eq_ok.mp read
  simp only at rest
  repeat' split at rest
  all_goals cases rest
  all_goals rfl

/-- What a declaration binds, typedefs apart, its entry in a list binds. -/
theorem bindings_eq (read : declaration.introduced = .ok introduced) :
    declaration.bindings.filter (·.2.isDeclared) =
      declaration.entries.filterMap Entry.binding? := by
  have whole := read
  unfold Declaration.introduced at read
  cases shape : declaration.body with
  | space functions =>
      cases shape ▸ read
      simp [bindings, whole, entries, shape, Entry.binding?, DeclarationKind.introduces?]
  | dictionary members =>
      cases shape ▸ read
      simp only [bindings, whole, entries, listing?, shape]
      rfl
  | callbackInterface operations =>
      cases shape ▸ read
      simp only [bindings, whole, entries, listing?, shape]
      rfl
  | enum values =>
      simp only [shape] at read
      obtain ⟨attributes, checked, finished⟩ := Results.bind_eq_ok.mp read
      cases finished
      have isError := Interface.has_of_checkAttributes .error checked
      simp only [bindings, whole, entries, listing?, shape, isError]
      cases declaration.marked .error <;> rfl
  | interface constructors operations =>
      simp only [shape] at read
      obtain ⟨attributes, checked, finished⟩ := Results.bind_eq_ok.mp read
      cases finished
      have isEnum := Interface.has_of_checkAttributes .enum checked
      have isError := Interface.has_of_checkAttributes .error checked
      simp only [bindings, whole, entries, listing?, shape, isEnum, isError]
      cases declaration.marked .enum <;> cases declaration.marked .error <;> rfl
  | typedef typeName =>
      simp only [shape] at read
      obtain ⟨type, readType, finished⟩ := Results.bind_eq_ok.mp read
      cases finished
      simp [bindings, whole, entries, listing?, shape, isDeclared_of_typedefType readType]

/-! ## Declarations list by list -/

theorem contents_confined (declaration : Declaration) (names : Names) :
    (declaration.contents names).Confined declaration.listing? := by
  unfold contents listing?
  cases declaration.body with
  | enum values => cases declaration.marked .error <;> constructor <;> simp
  | interface constructors operations =>
      cases declaration.marked .enum <;> cases declaration.marked .error <;> constructor <;> simp
  | _ => constructor <;> simp

theorem isObject_eq (declaration : Declaration) :
    declaration.isObject = decide (declaration.listing? = some .object) := by
  unfold isObject listing?
  cases declaration.body with
  | enum values => cases declaration.marked .error <;> rfl
  | interface constructors operations =>
      cases declaration.marked .enum <;> cases declaration.marked .error <;> rfl
  | _ => rfl

/-- The declarations that end up in a list, in their order. -/
def listed (kind : DeclarationKind) (declarations : List Declaration) : List Declaration :=
  declarations.filter (·.listing? = some kind)

/-- What only the declarations of one list contribute is told by that list. -/
theorem flatMap_listed {α : Type} {kind : DeclarationKind} {view : Declaration → List α}
    (apart : ∀ declaration, declaration.listing? ≠ some kind → view declaration = [])
    (declarations : List Declaration) :
    (listed kind declarations).flatMap view = declarations.flatMap view := by
  unfold listed
  induction declarations with
  | nil => rfl
  | cons declaration rest ih =>
      by_cases here : declaration.listing? = some kind
      · rw [List.filter_cons_of_pos (by simpa using here), List.flatMap_cons, List.flatMap_cons, ih]
      · rw [List.filter_cons_of_neg (by simpa using here), List.flatMap_cons, apart _ here, ih,
          List.nil_append]

theorem flatMap_eq_of_listed {α : Type} {kind : DeclarationKind} {view : Declaration → List α}
    (apart : ∀ declaration, declaration.listing? ≠ some kind → view declaration = [])
    {declarations others : List Declaration}
    (alike : listed kind declarations = listed kind others) :
    declarations.flatMap view = others.flatMap view := by
  rw [← flatMap_listed apart declarations, alike, flatMap_listed apart]

end Document.Declaration

theorem Metadata.Group.mem_introduced_iff {group : Group} {binding : String × Ty} :
    binding ∈ group.introduced ↔ ∃ entry,
      (entry ∈ group.entries ∨ entry ∈ group.objects.map fun item => .declared .object item.name) ∧
        entry.binding? = some binding := by
  simp only [introduced, entries, ← List.mem_append, ← List.mem_filterMap, List.filterMap_append,
    List.filterMap_map, Function.comp_def, Entry.binding?, DeclarationKind.introduces?,
    Option.map_some, Option.map_none, List.filterMap_eq_map', List.filterMap_none,
    List.nil_append, List.append_assoc]

theorem Metadata.Group.freshNames_congr {declared other : List String}
    (same : ∀ name, name ∈ declared ↔ name ∈ other) (names : List String) :
    freshNames declared names = freshNames other names := by
  unfold freshNames
  congr 1
  refine List.filter_congr fun name _ => ?_
  simp only [List.contains_eq_mem, same]

namespace Interface

open NativeBoundary.Action
open Document (Declaration)
open Document.Declaration (listed flatMap_eq_of_listed isObject_eq)
open Metadata (Group)

variable {declarations others : List Declaration} {group : Group} {version : Option Tag}
  {brought : Interface}

/-! ## Bound names -/

/-- What is taken after both sources have been brought in. -/
theorem mem_entries_of_bring (ran : (bring declarations group).Yields (empty version) () brought)
    {entry : Entry} :
    entry ∈ brought.entries ↔ (∃ declaration ∈ declarations, entry ∈ declaration.entries) ∨
      entry ∈ group.entries ∨
      entry ∈ group.objects.map fun item => .declared .object item.name := by
  obtain ⟨first, registry, middle, -, -, declares, populates⟩ := bring_yields.mp ran
  obtain ⟨grown, -⟩ := declared_of_declare declares
  have nothing : entry ∉ ({ empty version with registry } : Interface).entries := List.not_mem_nil
  rw [mem_entries_of_populate populates, grown.mem_iff, or_iff_right nothing, List.mem_flatMap]

/-- A name is bound to a declared type exactly if a declaration of that kind and name is listed. -/
theorem bound_iff_of_bring (ran : (bring declarations group).Yields (empty version) () brought)
    {name : String} {type : Ty} (declares : type.isDeclared = true) :
    brought.names name = some type ↔
      ∃ entry ∈ brought.entries, entry.binding? = some (name, type) := by
  have binds := (plain_of_bring ran).binds
  obtain ⟨first, registry, middle, discovers, -, -, -⟩ := bring_yields.mp ran
  obtain ⟨introduced, -⟩ := Registry.completes_discover_iff.mp discovers.completes
  have ofDeclaration {declaration : Declaration} (inside : declaration ∈ declarations) :
      (name, type) ∈ declaration.bindings ↔
        ∃ entry ∈ declaration.entries, entry.binding? = some (name, type) := by
    obtain ⟨type, read⟩ := introduced declaration inside
    rw [← List.mem_filterMap, ← Declaration.bindings_eq read, List.mem_filter]
    exact (and_iff_left declares).symm
  have bound : brought.names name = some type ↔ (name, type) ∈ introductions declarations group :=
    ⟨binds.mem_of_bound, binds.agrees (name, type)⟩
  rw [bound, introductions, List.mem_append, List.mem_flatMap, Group.mem_introduced_iff]
  constructor
  · rintro (⟨declaration, inside, member⟩ | ⟨entry, taken, binds⟩)
    · obtain ⟨entry, taken, binds⟩ := (ofDeclaration inside).mp member
      exact ⟨entry, (mem_entries_of_bring ran).mpr (.inl ⟨declaration, inside, taken⟩), binds⟩
    · exact ⟨entry, (mem_entries_of_bring ran).mpr (.inr taken), binds⟩
  · rintro ⟨entry, taken, binds⟩
    rcases (mem_entries_of_bring ran).mp taken with ⟨declaration, inside, member⟩ | ofGroup
    · exact .inl ⟨declaration, inside, (ofDeclaration inside).mpr ⟨entry, member, binds⟩⟩
    · exact .inr ⟨entry, ofGroup, binds⟩

/-! ## Outlines of documents that are ordered differently -/

section Outline

variable (group : Group) (names : Names)

/-- The functions are those of the one list to which namespaces belong. -/
theorem functions_outline_eq (alike : listed .function declarations = listed .function others) :
    (outline declarations group names).functions = (outline others group names).functions :=
  congrArg (· ++ group.functions.map (·.denote names))
    (flatMap_eq_of_listed
      (fun declaration => (declaration.contents_confined names).functions) alike)

theorem filter_isObject (declarations : List Declaration) :
    declarations.filter Declaration.isObject = listed .object declarations :=
  List.filter_congr fun declaration _ => isObject_eq declaration

/-- Documents that agree list by list have one outline. -/
theorem outline_eq_of_listed (alike : ∀ kind, listed kind declarations = listed kind others) :
    outline declarations group names = outline others group names := by
  have confined := fun declaration : Declaration => declaration.contents_confined names
  have records := flatMap_eq_of_listed (fun declaration => (confined declaration).records)
    (alike .record)
  have enums := flatMap_eq_of_listed (fun declaration => (confined declaration).enums)
    (alike .enum)
  have errors := flatMap_eq_of_listed (fun declaration => (confined declaration).errors)
    (alike .error)
  have callbacks := flatMap_eq_of_listed (fun declaration => (confined declaration).callbacks)
    (alike .callbackInterface)
  have functions := flatMap_eq_of_listed (fun declaration => (confined declaration).functions)
    (alike .function)
  have objects := flatMap_eq_of_listed (fun declaration => (confined declaration).objects)
    (alike .object)
  simp only [outline, plainObjects, filter_isObject, alike, records, enums, errors, callbacks,
    functions, objects]

/-- Objects of documents that are ordered differently, and behind them those of the metadata. -/
theorem plainObjects_perm (same : declarations.Perm others) :
    (plainObjects declarations group names).Perm (plainObjects others group names) := by
  have declared := (same.filter Declaration.isObject).map Declaration.name
  unfold plainObjects
  rw [Group.freshNames_congr fun name => declared.mem_iff]
  exact (same.flatMap_right _).append_right _

end Outline

/-! ## The namespace -/

theorem listing?_eq_function {declaration : Declaration} :
    declaration.listing? = some .function ↔ ∃ functions, declaration.body = .space functions := by
  unfold Declaration.listing?
  cases declaration.body with
  | enum values => cases declaration.marked .error <;> simp
  | interface constructors operations =>
      cases declaration.marked .enum <;> cases declaration.marked .error <;> simp
  | _ => simp

theorem space_mem_entries {declaration : Declaration} :
    .space ∈ declaration.entries ↔ declaration.listing? = some .function := by
  rw [listing?_eq_function]
  unfold Declaration.entries
  cases declaration.body <;> simp

/-- A document that can be brought in has at most one namespace, wherever that stands. -/
theorem listed_function_eq (same : declarations.Perm others)
    (distinct : (declarations.flatMap Declaration.entries).Nodup) :
    listed .function declarations = listed .function others := by
  have apart {declarations : List Declaration}
      (distinct : (declarations.flatMap Declaration.entries).Nodup) :
      (listed .function declarations).Pairwise fun first second =>
        List.Disjoint first.entries second.entries :=
    (List.nodup_flatMap.mp distinct).2.filter _
  have spaces {declarations : List Declaration} {declaration : Declaration}
      (member : declaration ∈ listed .function declarations) : .space ∈ declaration.entries :=
    space_mem_entries.mpr (of_decide_eq_true (List.mem_filter.mp member).2)
  have distinctOther := (same.flatMap_right Declaration.entries).nodup_iff.mp distinct
  refine List.Perm.eq_of_pairwise ?_ (apart distinct) (apart distinctOther) (same.filter _)
  intro first second inFirst inSecond disjoint
  exact absurd (spaces inSecond) (disjoint (spaces inFirst))

theorem space_of_declareOne {declaration : Declaration} {before after : Interface} {value : Unit}
    (ran : (declareOne declaration).Yields before value after) :
    declaration.listing? = some .function ∧ before.space = none ∧
        after.space = some (.text declaration.name) ∨
      declaration.listing? ≠ some .function ∧ after.space = before.space := by
  by_cases here : declaration.listing? = some .function
  · obtain ⟨functions, shape⟩ := listing?_eq_function.mp here
    simp only [declareOne, shape, yields_lift_bind, yields_bind_unit] at ran
    obtain ⟨attributes, -, middle, spaced, added⟩ := ran
    obtain ⟨-, free, rfl⟩ := addSpace_yields.mp spaced
    have kept := ((Enters.forAllOne enters_addOperation functions).grown added).space (by simp)
    exact .inl ⟨here, free, kept⟩
  · have absent := mt space_mem_entries.mp here
    exact .inr ⟨here, ((enters_declareOne declaration).grown ran).space absent⟩

/-- The namespace of an interface is the one that was there, or else that of the document. -/
theorem space_of_declare {before after : Interface} {value : Unit}
    (ran : (declare declarations).Yields before value after) :
    after.space = before.space.or
      ((listed .function declarations).head?.map fun declaration => .text declaration.name) := by
  induction declarations generalizing before with
  | nil =>
      obtain rfl := yields_forAll_nil.mp ran
      exact (Option.or_none).symm
  | cons declaration rest ih =>
      obtain ⟨middle, first, others⟩ := yields_forAll_cons.mp ran
      rw [ih others]
      unfold listed
      rcases space_of_declareOne first with ⟨here, free, given⟩ | ⟨elsewhere, kept⟩
      · rw [List.filter_cons_of_pos (by simpa using here), free, given]
        rfl
      · rw [List.filter_cons_of_neg (by simpa using elsewhere), kept]

end Interface

end NativeBoundary

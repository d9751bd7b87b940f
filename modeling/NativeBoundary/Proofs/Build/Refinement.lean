import NativeBoundary.Proofs.Build.Origin
import NativeBoundary.Proofs.Order.Sorted

/-!
# A build has the contents that its sources outline

The registry that is threaded through discovery and detail, and the objects that are replaced once
for every member, leave no trace: a finished interface binds the environment of its sources, and
its lists are those that the document and the sorted metadata outline in that environment.
-/

namespace NativeBoundary

namespace Metadata

def Item.record? : Item → Option Record
  | .record item => some item
  | _ => none

def Item.enum? : Item → Option Enum
  | .enum item => some item
  | _ => none

def Item.error? : Item → Option Error
  | .error item => some item
  | _ => none

def Item.object? : Item → Option Object
  | .object item => some item
  | _ => none

def Item.function? : Item → Option Function
  | .function item => some item
  | _ => none

def Item.constructor? : Item → Option Constructor
  | .constructor item => some item
  | _ => none

def Item.method? : Item → Option Method
  | .method item => some item
  | _ => none

/-- The same items, in the order of their keys. -/
structure SortedBy {α : Type} (key : α → String) (items sorted : List α) : Prop where
  perm : sorted.Perm items
  ordered : Order.Ordered (fun first second => Order.before (key first) (key second)) sorted

/-- A group holds the given items kind by kind in the order of their names, members in that order
within each owner. -/
structure Group.Sorts (items : List Item) (group : Group) : Prop where
  records : SortedBy Record.name (items.filterMap Item.record?) group.records
  enums : SortedBy Enum.name (items.filterMap Item.enum?) group.enums
  errors : SortedBy Error.name (items.filterMap Item.error?) group.errors
  objects : SortedBy Object.name (items.filterMap Item.object?) group.objects
  functions : SortedBy Function.name (items.filterMap Item.function?) group.functions
  constructors : ∀ owner, SortedBy Constructor.name
    ((items.filterMap Item.constructor?).filter (·.owner = owner))
    (group.constructors.filter (·.owner = owner))
  methods : ∀ owner, SortedBy Method.name
    ((items.filterMap Item.method?).filter (·.owner = owner))
    (group.methods.filter (·.owner = owner))

namespace Group

theorem sortByName_sorts {α : Type} (nameOf : α → String) (items : List α) :
    SortedBy nameOf items (sortByName nameOf items) where
  perm := Order.sort_perm _ items
  ordered := Order.sort_ordered (Order.before_strict.comap nameOf) items

theorem sortByOwner_sorts {α : Type} (ownerOf nameOf : α → String) (items : List α)
    (owner : String) :
    SortedBy nameOf (items.filter (ownerOf · = owner))
      ((sortByOwner ownerOf nameOf items).filter (ownerOf · = owner)) where
  perm := (Order.sort_perm _ items).filter _
  ordered := by
    have ordered := Order.sort_ordered (Order.before_strict.lexicographic ownerOf nameOf) items
    refine (ordered.filter _).imp_of_mem ?_
    intro first second firstMember secondMember late
    have firstOwned := of_decide_eq_true (List.mem_filter.mp firstMember).2
    have secondOwned := of_decide_eq_true (List.mem_filter.mp secondMember).2
    simpa [firstOwned, secondOwned, Order.before_strict.irrefl] using late

theorem sorts_of_ofItems {items : List Item} {group : Group}
    (grouped : ofItems items = .ok group) : group.Sorts items := by
  unfold ofItems at grouped
  cases shared : sharedCrate none items with
  | error problem =>
      rw [shared] at grouped
      cases grouped
  | ok crate =>
      rw [shared] at grouped
      cases grouped
      exact {
        records := sortByName_sorts Record.name _
        enums := sortByName_sorts Enum.name _
        errors := sortByName_sorts Error.name _
        objects := sortByName_sorts Object.name _
        functions := sortByName_sorts Function.name _
        constructors := sortByOwner_sorts Constructor.owner Constructor.name _
        methods := sortByOwner_sorts Method.owner Method.name _ }

end Group

end Metadata

namespace Interface

open Document (Declaration)
open Metadata (Group Item)

theorem Plain.names_eq {declarations : List Declaration} {group : Group} {plain : Interface}
    (stage : Plain declarations group plain) :
    plain.names = environment declarations group :=
  stage.binds.names_eq

/-- What a finished build binds and declares is told by its sources alone. -/
theorem build_refines_outline {document : Option Document} {items : List Item}
    {settings : Settings} {interface : Interface}
    (built : build document items settings = .ok interface) :
    ∃ declarations group, declarations = (document.map Document.definitions).getD [] ∧
      Group.ofItems items = .ok group ∧ group.Sorts items ∧
      (∀ name, interface.type? name = environment declarations group name) ∧
      (∀ binding ∈ introductions declarations group,
        environment declarations group binding.1 = some binding.2) ∧
      interface.declared.contents =
        outline declarations group (environment declarations group) := by
  obtain ⟨group, plain, derived, grouped, stage, -, derives, rfl⟩ := build_stages built
  have sameContents : derived.declared.contents = plain.contents := by
    rw [declared_of_derive derives, stage.declared_eq]
  obtain ⟨-, functions, objects, -, -, rfl⟩ := derive_yields.mp derives
  refine ⟨_, group, rfl, grouped, Group.sorts_of_ofItems grouped, ?_, ?_, ?_⟩
  · intro name
    exact congrFun stage.names_eq name
  · intro binding member
    rw [← stage.names_eq]
    exact stage.binds.agrees binding member
  · rw [← stage.names_eq, ← stage.contents]
    exact sameContents

/-- A dictionary over a record of the metadata, and an object with members from both sources. -/
def shopDocument : Document where
  definitions := [
    { name := "shop", body := .space [{ name := "open", result := some (.named "Store") }] },
    { name := "Point", body := .dictionary [{ name := "x", type := .named "Extra" }] },
    { name := "Store", body := .interface [{}] [{ name := "size", result := some (.named "u32") }] }]

def shopItems : List Item := [
  .method { crateModule := "shop", owner := "Store", name := "grow", inputs := [⟨"by", "Point"⟩] },
  .record { crateModule := "shop", name := "Extra", fields := [⟨"n", "i64"⟩] },
  .object { crateModule := "shop", name := "Store" }]

theorem build_ok_of_result {document : Option Document} {items : List Item} {settings : Settings}
    (succeeded : (buildOutcome document items settings).result = .ok ()) :
    build document items settings = .ok (buildOutcome document items settings).state := by
  simp only [build, succeeded]

theorem build_refines_outline_shop :
    ∃ interface group, build (some shopDocument) shopItems {} = .ok interface ∧
      Group.ofItems shopItems = .ok group ∧
      interface.declared.contents = outline shopDocument.definitions group
        (environment shopDocument.definitions group) := by
  have built := build_ok_of_result
    (by decide +kernel : (buildOutcome (some shopDocument) shopItems {}).result = .ok ())
  obtain ⟨_, group, rfl, grouped, -, -, -, contents⟩ := build_refines_outline built
  exact ⟨_, group, built, grouped, contents⟩

end Interface

end NativeBoundary

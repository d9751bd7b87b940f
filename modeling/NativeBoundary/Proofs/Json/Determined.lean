import Mathlib.Data.List.Forall2
import NativeBoundary.Proofs.Json.Readable

/-!
# What a canonical text determines

An encoding determines a view of what it encodes if values of one canonical text have the same
view.  Scalars determine themselves, lists and options determine what their items determine, and an
object whose members always come under the same names determines what its members do.
-/

namespace NativeBoundary.Json

open Text.Surrogate (keptText)

/-- Two values, free of decimals and lone halves, with one canonical text. -/
structure Agree (first second : Json) : Prop where
  left : first.Scalar
  right : second.Scalar
  same : first.canonical = second.canonical

namespace Agree

theorem form_eq {first second : Json} (agree : Agree first second) : first.form = second.form := by
  apply form_eq_of_append agree.left agree.right
  exact congrArg (· ++ []) agree.same

theorem string_eq {first second : String} (agree : Agree (.string first) (.string second)) :
    first = second := by
  obtain ⟨left, right, same⟩ := agree
  cases left
  cases right
  obtain ⟨texts, -⟩ := stringText_append_inj (congrArg (· ++ []) same)
  exact congrArg keptText texts

theorem bool_eq {first second : Bool} (agree : Agree (.bool first) (.bool second)) :
    first = second := by
  have forms := agree.form_eq
  cases first <;> cases second <;> trivial

theorem integer_eq {first second : Int} (agree : Agree (.integer first) (.integer second)) :
    first = second :=
  integerText_inj agree.same

theorem forall₂ {items others : List Json} (each : ∀ item ∈ items, item.Scalar)
    (eachOther : ∀ item ∈ others, item.Scalar)
    (texts : items.map canonical = others.map canonical) : List.Forall₂ Agree items others := by
  induction items generalizing others with
  | nil =>
      rw [List.map_eq_nil_iff.mp texts.symm]
      exact List.Forall₂.nil
  | cons item rest ih =>
      cases others with
      | nil => cases texts
      | cons other remaining =>
          obtain ⟨heads, tails⟩ := List.cons.inj texts
          refine List.Forall₂.cons ⟨each item List.mem_cons_self,
            eachOther other List.mem_cons_self, heads⟩ ?_
          exact ih (fun i inside => each i (List.mem_cons_of_mem item inside))
            (fun i inside => eachOther i (List.mem_cons_of_mem other inside)) tails

theorem array {items others : List Json} (agree : Agree (.array items) (.array others)) :
    List.Forall₂ Agree items others := by
  obtain ⟨left, right, same⟩ := agree
  cases left with
  | array each =>
      cases right with
      | array eachOther =>
          have apart : ∀ item ∈ items, ∀ other ∈ others,
              Apart item.canonical other.canonical := fun item inside other insideOther =>
            canonical_apart (each item inside) (eachOther other insideOther)
          obtain ⟨texts, -⟩ := items_of_text each eachOther apart (congrArg (· ++ []) same)
          exact forall₂ each eachOther texts

/-- Lists of the same distinct names in the same order are equal if they are permuted. -/
theorem eq_of_perm_of_names {β : Type} {first second : List (String × β)}
    (distinct : (first.map Prod.fst).Nodup)
    (names : first.map Prod.fst = second.map Prod.fst) (perm : first.Perm second) :
    first = second := by
  induction first generalizing second with
  | nil => exact (List.map_eq_nil_iff.mp names.symm).symm
  | cons member rest ih =>
      cases second with
      | nil => cases names
      | cons other others =>
          obtain ⟨heads, tails⟩ := List.cons.inj names
          obtain ⟨fresh, distinctRest⟩ := List.nodup_cons.mp distinct
          have member_eq : member = other := by
            rcases List.mem_cons.mp (perm.mem_iff.mp List.mem_cons_self) with same | later
            · exact same
            · rw [tails] at fresh
              exact absurd (List.mem_map_of_mem later) fresh
          rw [member_eq] at perm ⊢
          rw [ih distinctRest tails perm.cons_inv]

theorem sortByName_perm {β : Type} (members : List (String × β)) :
    (sortByName members).Perm members :=
  Order.sort_perm _ members

/-- Objects that agree have members of the same names and texts. -/
theorem members_perm {members others : List (String × Json)}
    (agree : Agree (.object members) (.object others)) :
    (canonicalMembers members).Perm (canonicalMembers others) := by
  obtain ⟨left, right, same⟩ := agree
  cases left with
  | object names values =>
      cases right with
      | object namesOther valuesOther =>
          have apart : ∀ member ∈ members, ∀ other ∈ others,
              Apart member.2.canonical other.2.canonical := fun member inside other insideOther =>
            canonical_apart (values member inside) (valuesOther other insideOther)
          obtain ⟨sorted, -⟩ := members_of_text names namesOther apart (congrArg (· ++ []) same)
          have perm := sortByName_perm (canonicalMembers members)
          rw [sorted] at perm
          exact perm.symm.trans (sortByName_perm _)

/-- Objects with the same names in the same order agree member by member. -/
theorem object {members others : List (String × Json)}
    (agree : Agree (.object members) (.object others)) (names : List String)
    (distinct : names.Nodup) (named : members.map Prod.fst = names)
    (namedOther : others.map Prod.fst = names) :
    List.Forall₂ Agree (members.map Prod.snd) (others.map Prod.snd) := by
  have perm := agree.members_perm
  obtain ⟨left, right, -⟩ := agree
  cases left with
  | object _ values =>
      cases right with
      | object _ valuesOther =>
          have written (given : List (String × Json)) :
              (canonicalMembers given).map Prod.fst = given.map Prod.fst ∧
                (canonicalMembers given).map Prod.snd = (given.map Prod.snd).map canonical := by
            simp [canonicalMembers_eq_map, Function.comp_def]
          have equal := eq_of_perm_of_names (by rwa [(written members).1, named])
            (by rw [(written members).1, (written others).1, named, namedOther]) perm
          apply forall₂
          · intro value inside
            obtain ⟨member, insideMembers, rfl⟩ := List.mem_map.mp inside
            exact values member insideMembers
          · intro value inside
            obtain ⟨member, insideMembers, rfl⟩ := List.mem_map.mp inside
            exact valuesOther member insideMembers
          · rw [← (written members).2, ← (written others).2, equal]

end Agree

/-! ## Encodings -/

/-- Values that are encoded alike have the same view. -/
def Determines {α β : Type} (encode : α → Json) (view : α → β) : Prop :=
  ∀ first second, Agree (encode first) (encode second) → view first = view second

section Encodings

variable {α β : Type} {encode : α → Json} {view : α → β}

theorem determines_string : Determines Json.string id := fun _ _ agree => agree.string_eq

theorem Determines.list (determines : Determines encode view) :
    Determines (Json.list encode) (List.map view) := by
  intro first second agree
  have pairs := agree.array
  rw [List.forall₂_map_left_iff, List.forall₂_map_right_iff] at pairs
  clear agree
  induction pairs with
  | nil => rfl
  | cons agree _ ih => rw [List.map_cons, List.map_cons, determines _ _ agree, ih]

/-- An absent value is told from one that is there as long as that is never null. -/
theorem Determines.option (determines : Determines encode view)
    (present : ∀ item, (encode item).form ≠ .null) :
    Determines (Json.option encode) (Option.map view) := by
  intro first second agree
  cases first with
  | none =>
      cases second with
      | none => rfl
      | some item => exact absurd agree.form_eq.symm (present item)
  | some item =>
      cases second with
      | none => exact absurd agree.form_eq (present item)
      | some other => exact congrArg some (determines item other agree)

theorem Agree.list_eq (determines : Determines encode id) {first second : List α}
    (agree : Agree (Json.list encode first) (Json.list encode second)) : first = second := by
  have views := determines.list first second agree
  rwa [List.map_id, List.map_id] at views

theorem Agree.option_eq (determines : Determines encode id)
    (present : ∀ item, (encode item).form ≠ .null) {first second : Option α}
    (agree : Agree (Json.option encode first) (Json.option encode second)) : first = second := by
  have views := determines.option present first second agree
  rwa [Option.map_id, id, id] at views

/-- Objects of a name and a list agree in the name and in what the list determines. -/
theorem Agree.named_list {key name otherName : String} {items others : List α}
    (agree : Agree (.object [("name", .string name), (key, Json.list encode items)])
      (.object [("name", .string otherName), (key, Json.list encode others)]))
    (determines : Determines encode view) (distinct : ["name", key].Nodup) :
    name = otherName ∧ items.map view = others.map view := by
  have parts := agree.object ["name", key] distinct rfl rfl
  simp only [List.map_cons, List.map_nil, List.forall₂_cons] at parts
  obtain ⟨sameName, sameItems, -⟩ := parts
  exact ⟨sameName.string_eq, determines.list items others sameItems⟩

theorem Agree.named_list_eq {key name otherName : String} {items others : List α}
    (agree : Agree (.object [("name", .string name), (key, Json.list encode items)])
      (.object [("name", .string otherName), (key, Json.list encode others)]))
    (determines : Determines encode id) (distinct : ["name", key].Nodup) :
    name = otherName ∧ items = others := by
  have views := agree.named_list determines distinct
  rwa [List.map_id, List.map_id] at views

end Encodings

end NativeBoundary.Json

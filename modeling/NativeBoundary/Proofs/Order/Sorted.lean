import Mathlib.Data.List.Perm.Basic
import NativeBoundary.Order.Insertion
import NativeBoundary.Proofs.Text.Kept

/-!
# Sorted by key

Insertion sort puts the items of a list in order, provided that coming before is a strict order.
The order of texts is one, and so is that of pairs of an owner and a name.  Where one of any two
different items comes before the other, the sorted list does not depend on the order of the items.
-/

namespace NativeBoundary.Order

variable {α : Type} {precedes : α → α → Bool}

structure Strict (precedes : α → α → Bool) : Prop where
  irrefl : ∀ item, precedes item item = false
  trans : ∀ {first second third}, precedes first second = true → precedes second third = true →
    precedes first third = true

/-- No item comes before one that stands in front of it. -/
def Ordered (precedes : α → α → Bool) (items : List α) : Prop :=
  items.Pairwise fun first second => precedes second first = false

theorem Strict.asymm (strict : Strict precedes) {first second : α}
    (comes : precedes first second = true) : precedes second first = false := by
  apply Bool.eq_false_iff.mpr
  intro back
  have loop := strict.trans comes back
  rw [strict.irrefl] at loop
  cases loop

/-- What does not come before an item does not come before anything behind it. -/
theorem Strict.not_before (strict : Strict precedes) {first second third : α}
    (late : precedes third second = false) (comes : precedes first second = true) :
    precedes third first = false := by
  apply Bool.eq_false_iff.mpr
  intro early
  rw [strict.trans early comes] at late
  cases late

theorem insert_ordered (strict : Strict precedes) (item : α) {items : List α}
    (ordered : Ordered precedes items) : Ordered precedes (insert precedes item items) := by
  induction items with
  | nil => exact List.pairwise_singleton _ _
  | cons first rest ih =>
      obtain ⟨behind, orderedRest⟩ := List.pairwise_cons.mp ordered
      unfold insert
      cases comes : precedes item first with
      | true =>
          rw [if_pos rfl]
          refine List.pairwise_cons.mpr ⟨?_, ordered⟩
          intro other member
          rcases List.mem_cons.mp member with rfl | later
          · exact strict.asymm comes
          · exact strict.not_before (behind other later) comes
      | false =>
          rw [if_neg Bool.false_ne_true]
          refine List.pairwise_cons.mpr ⟨?_, ih orderedRest⟩
          intro other member
          rcases List.mem_cons.mp ((insert_perm precedes item rest).mem_iff.mp member) with
            rfl | later
          · exact comes
          · exact behind other later

theorem sort_ordered (strict : Strict precedes) (items : List α) :
    Ordered precedes (sort precedes items) := by
  have grows (sorted : List α) (ordered : Ordered precedes sorted) :
      Ordered precedes (items.foldl (fun done item => insert precedes item done) sorted) := by
    induction items generalizing sorted with
    | nil => exact ordered
    | cons item rest ih => exact ih _ (insert_ordered strict item ordered)
  exact grows [] List.Pairwise.nil

/-- Items of which one comes before the other unless they are the same are sorted in one way
only. -/
theorem sort_eq_of_perm (strict : Strict precedes) {items others : List α}
    (total : ∀ first ∈ items, ∀ second ∈ items, precedes first second = false →
      precedes second first = false → first = second)
    (same : items.Perm others) : sort precedes items = sort precedes others := by
  have sorted := sort_perm precedes items
  have perm := (sorted.trans same).trans (sort_perm precedes others).symm
  refine perm.eq_of_pairwise ?_ (sort_ordered strict items) (sort_ordered strict others)
  intro first second member other late early
  exact total first (sorted.subset member) second (sorted.subset (perm.symm.subset other)) early
    late

/-- Sorting commutes with a change that keeps what comes before what. -/
theorem sort_map {β : Type} {earlier : β → β → Bool} (change : α → β)
    (keeps : ∀ first second, earlier (change first) (change second) = precedes first second)
    (items : List α) : sort earlier (items.map change) = (sort precedes items).map change := by
  have inserts (item : α) (sorted : List α) :
      insert earlier (change item) (sorted.map change) =
        (insert precedes item sorted).map change := by
    induction sorted with
    | nil => rfl
    | cons first rest ih =>
        simp only [List.map_cons, insert, keeps, ih]
        split <;> rfl
  have folds (sorted : List α) :
      (items.map change).foldl (fun done item => insert earlier item done) (sorted.map change) =
        (items.foldl (fun done item => insert precedes item done) sorted).map change := by
    induction items generalizing sorted with
    | nil => rfl
    | cons item rest ih => rw [List.map_cons, List.foldl_cons, List.foldl_cons, inserts, ih]
  exact folds []

theorem before_total {first second : String} (notBefore : before first second = false)
    (notAfter : before second first = false) : first = second := by
  have ge := List.not_lt.mp (of_decide_eq_false notBefore)
  have le := List.not_lt.mp (of_decide_eq_false notAfter)
  exact String.toList_injective (Text.Surrogate.points_injective (List.le_antisymm le ge))

theorem before_strict : Strict before where
  irrefl _ := decide_eq_false (List.lt_irrefl _)
  trans early late :=
    decide_eq_true (List.lt_trans (of_decide_eq_true early) (of_decide_eq_true late))

theorem Strict.comap {β : Type} {earlier : β → β → Bool} (strict : Strict earlier) (key : α → β) :
    Strict fun first second => earlier (key first) (key second) where
  irrefl item := strict.irrefl (key item)
  trans := strict.trans

/-- Items compared by one key, and by a second one where the first is the same. -/
theorem Strict.lexicographic {β : Type} [DecidableEq β] {earlier : β → β → Bool}
    (strict : Strict earlier) (major minor : α → β) :
    Strict fun first second => earlier (major first) (major second) ||
      (major first == major second && earlier (minor first) (minor second)) where
  irrefl item := by simp [strict.irrefl]
  trans := by
    intro first second third early late
    simp only [Bool.or_eq_true, Bool.and_eq_true, beq_iff_eq] at early late ⊢
    rcases early with before | ⟨same, before⟩
    · rcases late with after | ⟨sameNext, -⟩
      · exact Or.inl (strict.trans before after)
      · rw [← sameNext]
        exact Or.inl before
    · rcases late with after | ⟨sameNext, after⟩
      · rw [same]
        exact Or.inl after
      · exact Or.inr ⟨same.trans sameNext, strict.trans before after⟩

end NativeBoundary.Order

import NativeBoundary.Text.Surrogate

/-!
# Stable insertion by key

A list sorted by a key: an element is put behind every element whose key is not greater, so that
elements with equal keys keep the order in which they came.
-/

namespace NativeBoundary.Order

/-- Whether the first text comes strictly before the second, in the order of code points. -/
def before (first second : String) : Bool :=
  decide (Text.Surrogate.points first.toList < Text.Surrogate.points second.toList)

variable {α : Type}

def insert (precedes : α → α → Bool) (item : α) : List α → List α
  | [] => [item]
  | first :: rest =>
      if precedes item first then item :: first :: rest
      else first :: insert precedes item rest

def sort (precedes : α → α → Bool) (items : List α) : List α :=
  items.foldl (fun sorted item => insert precedes item sorted) []

theorem insert_perm (precedes : α → α → Bool) (item : α) (items : List α) :
    (insert precedes item items).Perm (item :: items) := by
  induction items with
  | nil => exact List.Perm.refl _
  | cons first rest ih =>
      unfold insert
      split
      · exact List.Perm.refl _
      · exact (ih.cons first).trans (List.Perm.swap item first rest)

theorem foldl_insert_perm (precedes : α → α → Bool) (items sorted : List α) :
    (items.foldl (fun done item => insert precedes item done) sorted).Perm (sorted ++ items) := by
  induction items generalizing sorted with
  | nil => simp
  | cons item rest ih =>
      rw [List.foldl_cons]
      refine (ih _).trans ?_
      refine ((insert_perm precedes item sorted).append_right rest).trans ?_
      exact List.perm_middle.symm

theorem sort_perm (precedes : α → α → Bool) (items : List α) :
    (sort precedes items).Perm items := by
  simpa [sort] using foldl_insert_perm precedes items []

end NativeBoundary.Order

import NativeBoundary.Text.CellWidth

/-!
# Texts of narrow characters

A text whose characters each take one cell by themselves takes as many cells as it has characters.
The visible characters of the basic range are of that kind.
-/

namespace NativeBoundary.Text

theorem exists_of_inRanges {ranges : Array (Nat × Nat)} {point low high : Nat}
    (within : inRanges ranges point low high = true) :
    ∃ range ∈ ranges.toList, range.1 ≤ point ∧ point ≤ range.2 := by
  fun_induction inRanges ranges point low high with
  | case1 => cases within
  | case2 low high _ middle first last found below ih => exact ih within
  | case3 low high _ middle first last found _ above ih => exact ih within
  | case4 low high _ middle first last found above below =>
      have member : (first, last) ∈ ranges := Array.mem_of_getElem? found
      exact ⟨_, Array.mem_toList_iff.mpr member, Nat.le_of_not_lt above, Nat.le_of_not_lt below⟩
  | case5 => cases within

theorem cellWidth_of_ascii {c : Char} (visible : 32 ≤ c.toNat) (basic : c.toNat < 127) :
    cellWidth c = 1 := by
  have none : ∀ range ∈ zeroWidthRanges.toList, range.2 < 32 ∨ 127 ≤ range.1 := by decide +kernel
  have two : ∀ range ∈ doubleWidthRanges.toList, range.2 < 32 ∨ 127 ≤ range.1 := by decide +kernel
  have outside {ranges : Array (Nat × Nat)}
      (apart : ∀ range ∈ ranges.toList, range.2 < 32 ∨ 127 ≤ range.1) :
      inRanges ranges c.toNat 0 ranges.size = false := by
    refine Bool.eq_false_iff.mpr fun within => ?_
    obtain ⟨range, member, low, high⟩ := exists_of_inRanges within
    have := apart range member
    omega
  simp [cellWidth, outside none, outside two]

theorem cellWidth_joiner : cellWidth joiner = 0 := by decide +kernel

theorem cellWidth_pictographStyle : cellWidth pictographStyle = 0 := by decide +kernel

theorem Measure.step_of_narrow {measure : Measure} {c : Char} (alone : measure.joined = false)
    (narrow : cellWidth c = 1) :
    measure.step c = { cells := measure.cells + 1, base := some c, joined := false } := by
  have joins : c ≠ joiner := by
    rintro rfl
    rw [cellWidth_joiner] at narrow
    cases narrow
  have styles : c ≠ pictographStyle := by
    rintro rfl
    rw [cellWidth_pictographStyle] at narrow
    cases narrow
  simp [Measure.step, alone, joins, styles, narrow]

theorem Measure.cells_foldl {measure : Measure} {text : List Char} (alone : measure.joined = false)
    (narrow : ∀ c ∈ text, cellWidth c = 1) :
    (text.foldl Measure.step measure).cells = measure.cells + text.length := by
  induction text generalizing measure with
  | nil => rfl
  | cons c rest ih =>
      rw [List.foldl_cons, Measure.step_of_narrow alone (narrow c List.mem_cons_self),
        ih rfl fun d member => narrow d (List.mem_cons_of_mem c member), List.length_cons]
      exact Nat.succ_add_eq_add_succ _ _

theorem cellCount_eq_length {text : List Char} (narrow : ∀ c ∈ text, cellWidth c = 1) :
    cellCount text = text.length := by
  rw [cellCount, Measure.cells_foldl rfl narrow, Nat.zero_add]

end NativeBoundary.Text

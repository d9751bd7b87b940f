import Mathlib.Algebra.Group.Nat.Defs
import NativeBoundary.Text.Surrogate

/-!
# Kept texts

A half of a surrogate pair is kept as a character that stands for its unit, and the unit can be read
off it again.  So the code points of a text give the text back, and two texts with the same code
points are the same.
-/

namespace NativeBoundary.Text.Surrogate

theorem toNat_ofNat_of_valid {n : Nat} (valid : n.isValidChar) : (Char.ofNat n).toNat = n := by
  rw [Char.ofNat, dif_pos valid]
  rfl

/-- A character is no half and lies within the code space. -/
theorem valid_toNat (c : Char) : c.toNat < 0xD800 ∨ 0xDFFF < c.toNat ∧ c.toNat < 0x110000 :=
  c.valid

theorem half_bounds {unit : Nat} (half : isHalf unit = true) : 0xD800 ≤ unit ∧ unit < 0xE000 := by
  simp only [isHalf, isLeading, isTrailing, Bool.or_eq_true, Bool.and_eq_true,
    decide_eq_true_eq] at half
  omega

theorem toNat_standIn {unit : Nat} (half : isHalf unit = true) :
    (standIn unit).toNat = unit + distance := by
  obtain ⟨low, high⟩ := half_bounds half
  apply toNat_ofNat_of_valid
  right
  simp only [distance]
  omega

theorem isStandIn_standIn {unit : Nat} (half : isHalf unit = true) :
    isStandIn (standIn unit) = true := by
  unfold isStandIn
  rw [toNat_standIn half, Nat.add_sub_cancel, half, Bool.and_true, decide_eq_true_eq]
  exact Nat.le_add_left distance unit

theorem unitOf_standIn {unit : Nat} (half : isHalf unit = true) :
    unitOf (standIn unit) = unit := by
  rw [unitOf, isStandIn_standIn half, if_pos rfl, toNat_standIn half, Nat.add_sub_cancel]

theorem halves_leading {point : Nat} (low : 0x10000 ≤ point) (high : point < 0x110000) :
    isLeading (halves point).1 = true := by
  unfold isLeading halves
  rw [Bool.and_eq_true, decide_eq_true_eq, decide_eq_true_eq]
  constructor
  · omega
  · omega

theorem halves_trailing (point : Nat) : isTrailing (halves point).2 = true := by
  have last : (point - 0x10000) % 0x400 < 0x400 := Nat.mod_lt _ (by decide)
  unfold isTrailing halves
  rw [Bool.and_eq_true, decide_eq_true_eq, decide_eq_true_eq]
  constructor
  · omega
  · omega

theorem pairValue_halves {point : Nat} (low : 0x10000 ≤ point) :
    pairValue (halves point).1 (halves point).2 = point := by
  unfold pairValue halves
  rw [Nat.add_sub_cancel_left, Nat.add_sub_cancel_left, Nat.add_assoc, Nat.div_add_mod',
    Nat.add_sub_cancel' low]

theorem isHalf_of_isLeading {unit : Nat} (leading : isLeading unit = true) :
    isHalf unit = true := by
  rw [isHalf, leading, Bool.true_or]

theorem isHalf_of_isTrailing {unit : Nat} (trailing : isTrailing unit = true) :
    isHalf unit = true := by
  rw [isHalf, trailing, Bool.or_true]

theorem low_of_isStandIn {c : Char} (standsIn : isStandIn c = true) : 0x10000 ≤ c.toNat := by
  have low : distance ≤ c.toNat := by
    simp only [isStandIn, Bool.and_eq_true, decide_eq_true_eq] at standsIn
    exact standsIn.1
  simp only [distance] at low
  omega

/-! ## Texts from their code points -/

theorem standIn_unitOf {c : Char} (standsIn : isStandIn c = true) : standIn (unitOf c) = c := by
  have low : distance ≤ c.toNat := by
    simp only [isStandIn, Bool.and_eq_true, decide_eq_true_eq] at standsIn
    exact standsIn.1
  rw [unitOf, if_pos standsIn, standIn, Nat.sub_add_cancel low, Char.ofNat_toNat]

theorem isHalf_unitOf {c : Char} (standsIn : isStandIn c = true) : isHalf (unitOf c) = true := by
  rw [unitOf, if_pos standsIn]
  simp only [isStandIn, Bool.and_eq_true] at standsIn
  exact standsIn.2

theorem not_isHalf_toNat (c : Char) : isHalf c.toNat = false := by
  apply Bool.eq_false_iff.mpr
  intro half
  have bounds := half_bounds half
  have valid := valid_toNat c
  omega

theorem leading_bounds {unit : Nat} (leading : isLeading unit = true) :
    0xD800 ≤ unit ∧ unit < 0xDC00 := by
  simpa only [isLeading, Bool.and_eq_true, decide_eq_true_eq] using leading

theorem trailing_bounds {unit : Nat} (trailing : isTrailing unit = true) :
    0xDC00 ≤ unit ∧ unit < 0xE000 := by
  simpa only [isTrailing, Bool.and_eq_true, decide_eq_true_eq] using trailing

theorem pairValue_bounds {first second : Nat} (leading : isLeading first = true)
    (trailing : isTrailing second = true) :
    0x10000 ≤ pairValue first second ∧ pairValue first second < 0x110000 := by
  have boundsFirst := leading_bounds leading
  have boundsSecond := trailing_bounds trailing
  unfold pairValue
  omega

theorem halves_pairValue {first second : Nat} (leading : isLeading first = true)
    (trailing : isTrailing second = true) :
    halves (pairValue first second) = (first, second) := by
  have boundsFirst := leading_bounds leading
  have boundsSecond := trailing_bounds trailing
  unfold halves pairValue
  rw [Prod.mk.injEq]
  omega

/-- The characters in which a code point is kept. -/
def keptPoint (point : Nat) : List Char :=
  if isHalf point then [standIn point] else kept (Char.ofNat point)

theorem keptPoint_unitOf (c : Char) : keptPoint (unitOf c) = [c] := by
  unfold keptPoint
  cases standsIn : isStandIn c with
  | true => rw [isHalf_unitOf standsIn, if_pos rfl, standIn_unitOf standsIn]
  | false =>
      rw [unitOf_eq_toNat standsIn, not_isHalf_toNat, if_neg Bool.false_ne_true,
        Char.ofNat_toNat, kept_eq_self standsIn]

theorem keptPoint_pairValue {first second : Char} (paired : isKeptPair first second = true) :
    keptPoint (pairValue (unitOf first) (unitOf second)) = [first, second] := by
  simp only [isKeptPair, Bool.and_eq_true] at paired
  obtain ⟨⟨⟨⟨firstStandsIn, secondStandsIn⟩, leading⟩, trailing⟩, standsIn⟩ := paired
  obtain ⟨low, high⟩ := pairValue_bounds leading trailing
  have point : (Char.ofNat (pairValue (unitOf first) (unitOf second))).toNat =
      pairValue (unitOf first) (unitOf second) :=
    toNat_ofNat_of_valid (Or.inr ⟨by omega, high⟩)
  have notHalf := not_isHalf_toNat (Char.ofNat (pairValue (unitOf first) (unitOf second)))
  rw [point] at notHalf
  rw [keptPoint, notHalf, if_neg Bool.false_ne_true, kept, if_pos standsIn, point,
    halves_pairValue leading trailing]
  simp only [standIn_unitOf firstStandsIn, standIn_unitOf secondStandsIn]

theorem flatMap_keptPoint_points (text : List Char) : (points text).flatMap keptPoint = text := by
  fun_induction points text with
  | case1 first second rest paired ih =>
      rw [List.flatMap_cons, keptPoint_pairValue paired, ih]
      rfl
  | case2 first second rest _ ih =>
      rw [List.flatMap_cons, keptPoint_unitOf, ih]
      rfl
  | case3 c => rw [List.flatMap_singleton, keptPoint_unitOf]
  | case4 => rfl

theorem points_injective {first second : List Char} (same : points first = points second) :
    first = second := by
  rw [← flatMap_keptPoint_points first, same, flatMap_keptPoint_points]

end NativeBoundary.Text.Surrogate

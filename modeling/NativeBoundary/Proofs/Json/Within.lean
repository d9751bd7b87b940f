import NativeBoundary.Json.Display
import NativeBoundary.Json.Reader
import NativeBoundary.Proofs.Text.Numeral

/-!
# Limits on documents

A document may be nested in no more than so many levels, where an array or object without parts is
no level, and the numbers in it have no more than so many digits.
-/

namespace NativeBoundary.Json

open Text

mutual

/-- How many arrays and objects with parts stand inside each other. -/
def levels : Json → Nat
  | .array [] => 0
  | .array (item :: rest) => max item.levels (levelsItems rest) + 1
  | .object [] => 0
  | .object ((_, value) :: rest) => max value.levels (levelsMembers rest) + 1
  | _ => 0

def levelsItems : List Json → Nat
  | [] => 0
  | item :: rest => max item.levels (levelsItems rest)

def levelsMembers : List (String × Json) → Nat
  | [] => 0
  | (_, value) :: rest => max value.levels (levelsMembers rest)

end

/-- The value keeps to the limits on documents, where so many levels are left. -/
def Within (room : Nat) (value : Json) : Prop :=
  value.levels ≤ room ∧ value.isWritten = true

instance (room : Nat) (value : Json) : Decidable (value.Within room) :=
  inferInstanceAs (Decidable (_ ∧ _))

theorem levelsItems_le_iff {items : List Json} {room : Nat} :
    levelsItems items ≤ room ↔ ∀ item ∈ items, item.levels ≤ room := by
  induction items with
  | nil => simp [levelsItems]
  | cons item rest ih => rw [levelsItems, Nat.max_le, ih, List.forall_mem_cons]

theorem levelsMembers_le_iff {members : List (String × Json)} {room : Nat} :
    levelsMembers members ≤ room ↔ ∀ member ∈ members, member.2.levels ≤ room := by
  induction members with
  | nil => simp [levelsMembers]
  | cons member rest ih => rw [levelsMembers, Nat.max_le, ih, List.forall_mem_cons]

theorem areWritten_iff {items : List Json} :
    areWritten items = true ↔ ∀ item ∈ items, item.isWritten = true := by
  induction items with
  | nil => simp [areWritten]
  | cons item rest ih => rw [areWritten, Bool.and_eq_true, ih, List.forall_mem_cons]

theorem areWrittenMembers_iff {members : List (String × Json)} :
    areWrittenMembers members = true ↔ ∀ member ∈ members, member.2.isWritten = true := by
  induction members with
  | nil => simp [areWrittenMembers]
  | cons member rest ih => rw [areWrittenMembers, Bool.and_eq_true, ih, List.forall_mem_cons]

@[simp] theorem within_noItems (room : Nat) : (Json.array []).Within room :=
  ⟨Nat.zero_le room, rfl⟩

@[simp] theorem within_noMembers (room : Nat) : (Json.object []).Within room :=
  ⟨Nat.zero_le room, rfl⟩

/-- An array with items takes one level. -/
theorem within_array_succ {items : List Json} {left : Nat} :
    (Json.array items).Within (left + 1) ↔ ∀ item ∈ items, item.Within left := by
  have low : (Json.array items).levels ≤ left + 1 ↔ levelsItems items ≤ left := by
    cases items with
    | nil => exact iff_of_true (Nat.zero_le _) (Nat.zero_le _)
    | cons first rest => exact Nat.succ_le_succ_iff
  simp only [Within, low, isWritten, areWritten_iff, levelsItems_le_iff, imp_and, forall_and]

theorem within_object_succ {members : List (String × Json)} {left : Nat} :
    (Json.object members).Within (left + 1) ↔ ∀ member ∈ members, member.2.Within left := by
  have low : (Json.object members).levels ≤ left + 1 ↔ levelsMembers members ≤ left := by
    cases members with
    | nil => exact iff_of_true (Nat.zero_le _) (Nat.zero_le _)
    | cons first rest => exact Nat.succ_le_succ_iff
  simp only [Within, low, isWritten, areWrittenMembers_iff, levelsMembers_le_iff, imp_and,
    forall_and]

theorem within_object_cons {name : String} {value : Json} {rest : List (String × Json)}
    {left : Nat} :
    (Json.object ((name, value) :: rest)).Within (left + 1) ↔
      value.Within left ∧ (Json.object rest).Within (left + 1) := by
  rw [within_object_succ, within_object_succ, List.forall_mem_cons]

theorem not_within_array_zero {items : List Json} (some : items ≠ []) :
    ¬(Json.array items).Within 0 := by
  cases items with
  | nil => exact absurd rfl some
  | cons first rest => exact fun within => Nat.not_succ_le_zero _ within.1

theorem not_within_object_zero {members : List (String × Json)} (some : members ≠ []) :
    ¬(Json.object members).Within 0 := by
  cases members with
  | nil => exact absurd rfl some
  | cons first rest => exact fun within => Nat.not_succ_le_zero _ within.1

/-! ## Scalars -/

theorem within_null (room : Nat) : Json.null.Within room := ⟨Nat.zero_le room, rfl⟩

theorem within_bool (value : Bool) (room : Nat) : (Json.bool value).Within room :=
  ⟨Nat.zero_le room, rfl⟩

theorem within_decimal (number : Binary64) (room : Nat) : (Json.decimal number).Within room :=
  ⟨Nat.zero_le room, rfl⟩

theorem within_string (text : String) (room : Nat) : (Json.string text).Within room :=
  ⟨Nat.zero_le room, rfl⟩

theorem within_integer_iff {number : Int} {room : Nat} :
    (Json.integer number).Within room ↔ number.natAbs < 10 ^ Limits.longestNumeral := by
  have limit : Limits.longestNumeral = Numeral.decimalDigitLimit := rfl
  have flat : (Json.integer number).levels ≤ room := Nat.zero_le room
  rw [Within, and_iff_right flat, isWritten, Numeral.isWritten_iff, limit]

end NativeBoundary.Json

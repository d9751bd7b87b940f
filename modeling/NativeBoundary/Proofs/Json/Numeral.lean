import NativeBoundary.Proofs.Json.Grammar
import NativeBoundary.Text.Numeral

/-!
# Whole numbers in JSON text

A whole number is read back from its digits, as long as they are no more than the limit.
-/

namespace NativeBoundary.Json

theorem digitsValue_eq_ofDigitChars (digits : List Char) :
    digitsValue digits = Nat.ofDigitChars 10 digits 0 := by
  unfold digitsValue Nat.ofDigitChars
  congr 1
  funext total c
  rw [Nat.mul_comm]
  rfl

theorem digitsValue_cons (c : Char) (digits : List Char) :
    digitsValue (c :: digits) = 10 ^ digits.length * (c.toNat - 48) + digitsValue digits := by
  rw [digitsValue_eq_ofDigitChars, digitsValue_eq_ofDigitChars, Nat.ofDigitChars_cons,
    Nat.ofDigitChars_eq_ofDigitChars_zero, Nat.mul_zero, Nat.zero_add]
  rfl

theorem digitsValue_lt {digits : List Char} (all : ∀ c ∈ digits, c.isDigit = true) :
    digitsValue digits < 10 ^ digits.length := by
  induction digits with
  | nil => exact Nat.one_pos
  | cons c rest ih =>
      obtain ⟨first, others⟩ := List.forall_mem_cons.mp all
      have small : c.toNat - 48 ≤ 9 := by
        simp only [Char.isDigit, Bool.and_eq_true, decide_eq_true_eq] at first
        have bound : c.toNat ≤ 57 := first.2
        omega
      have behind := ih others
      rw [digitsValue_cons, List.length_cons, Nat.pow_succ]
      have front := Nat.mul_le_mul_left (10 ^ rest.length) small
      omega

variable {n : Nat}

theorem digitsValue_toDigits (n : Nat) : digitsValue (Nat.toDigits 10 n) = n := by
  rw [digitsValue_eq_ofDigitChars]
  exact Nat.ofDigitChars_toDigits (by decide) (by decide)

theorem isDigit_toDigits (n : Nat) : ∀ c ∈ Nat.toDigits 10 n, c.isDigit = true :=
  fun _ inside => Nat.isDigit_of_mem_toDigits (by decide) (by decide) inside

/-- Only zero begins with a zero. -/
theorem toDigits_eq_zero {digits : List Char} (same : Nat.toDigits 10 n = '0' :: digits) :
    digits = [] := by
  cases digits with
  | nil => rfl
  | cons c rest =>
      have all := isDigit_toDigits n
      rw [same] at all
      have value : n = digitsValue (c :: rest) := by
        rw [← digitsValue_toDigits n, same, digitsValue_cons '0']
        exact Nat.zero_add _
      have short : (Nat.toDigits 10 n).length ≤ (c :: rest).length := by
        refine (Nat.length_toDigits_le_iff (by decide) (Nat.succ_pos _)).mpr ?_
        rw [value]
        exact digitsValue_lt (List.forall_mem_cons.mp all).2
      rw [same] at short
      exact absurd short (Nat.not_succ_le_self _)

theorem spanDigits_append {digits rest : List Char} (all : ∀ c ∈ digits, c.isDigit = true)
    (ends : NumberEnds rest) : spanDigits (digits ++ rest) = (digits, rest) := by
  have stops : rest.takeWhile Char.isDigit = [] ∧ rest.dropWhile Char.isDigit = rest := by
    cases rest with
    | nil => exact ⟨rfl, rfl⟩
    | cons c behind =>
        have noDigit := (ends c rfl).1
        rw [List.takeWhile_cons, List.dropWhile_cons, noDigit]
        exact ⟨rfl, rfl⟩
  rw [spanDigits, List.takeWhile_append_of_pos all, List.dropWhile_append_of_pos all, stops.1,
    stops.2, List.append_nil]

theorem wholePart_toDigits {rest : List Char} (ends : NumberEnds rest) :
    wholePart (Nat.toDigits 10 n ++ rest) = (Nat.toDigits 10 n, rest) := by
  cases digits : Nat.toDigits 10 n with
  | nil => exact absurd digits Nat.toDigits_ne_nil
  | cons c behind =>
      by_cases zero : c = '0'
      · subst zero
        rw [toDigits_eq_zero digits]
        rfl
      · have whole : wholePart (c :: (behind ++ rest)) = spanDigits (c :: (behind ++ rest)) := by
          unfold wholePart
          split
          · next same => exact absurd (List.head_eq_of_cons_eq same) zero
          · rfl
        have all := isDigit_toDigits n
        rw [digits] at all
        exact whole.trans (spanDigits_append all ends)

theorem fractionPart_of_ends {rest : List Char} (ends : NumberEnds rest) :
    fractionPart rest = (none, rest) := by
  unfold fractionPart
  split
  · exact absurd rfl (ends '.' rfl).2.1
  · rfl

theorem exponentPart_of_ends {rest : List Char} (ends : NumberEnds rest) :
    exponentPart rest = (none, rest) := by
  cases rest with
  | nil => rfl
  | cons c behind =>
      obtain ⟨-, -, notLower, notUpper⟩ := ends c rfl
      simp [exponentPart, notLower, notUpper]

/-- The digits of a whole number are read as the number, unless they are too many. -/
theorem numberBody_toDigits {rest : List Char} (limits : Limits) (negative : Bool)
    (ends : NumberEnds rest) :
    numberBody limits negative (Nat.toDigits 10 n ++ rest) =
      if limits.admits (Nat.toDigits 10 n).length false then
        .ok (.integer (if negative then -n else n), rest)
      else .error (.longNumeral (Nat.toDigits 10 n).length) := by
  have digits : (Nat.toDigits 10 n).isEmpty = false :=
    List.isEmpty_eq_false_iff.mpr Nat.toDigits_ne_nil
  simp only [numberBody, wholePart_toDigits ends, fractionPart_of_ends ends,
    exponentPart_of_ends ends, digits, Bool.false_eq_true, if_false, Option.isSome_none,
    Bool.or_self, digitsValue_toDigits]
  cases limits.admits (Nat.toDigits 10 n).length false <;> rfl

end NativeBoundary.Json

import Mathlib.Data.Nat.Digits.Lemmas
import NativeBoundary.Proofs.Literal.Spelling

/-!
# Canonical spellings

Every whole number is spelled in each radix: a minus or nothing, the lead of the radix, and the
digits of the number, in decimal without zeros before them.  As a default at an integer type such a
text gives the number back if it is one of the type, and is refused otherwise.  There are eight
integer types, and no default at any other type becomes a whole number.
-/

namespace NativeBoundary

theorem Radix.base_le (radix : Radix) : radix.base ≤ 16 := by
  cases radix <;> decide

theorem Radix.one_lt_base (radix : Radix) : 1 < radix.base := by
  cases radix <;> decide

namespace DefaultNode

open Text Text.Numeral

variable {written lead chars : List Char} {radix : Radix} {digits : List Nat} {number : Int}

/-! ## Digits -/

/-- A character stands for a digit; letters do in either case. -/
def Shows (c : Char) (digit : Nat) : Prop :=
  c = digit.digitChar ∨ c = digit.digitChar.toUpper

theorem digit?_of_shows {base digit : Nat} {c : Char} (shows : Shows c digit)
    (small : digit < base) (legible : base ≤ 16) : digit? base c = some digit := by
  have table : ∀ base ≤ 16, ∀ digit < base, digit? base digit.digitChar = some digit ∧
      digit? base digit.digitChar.toUpper = some digit := by
    decide +kernel
  obtain ⟨lower, upper⟩ := table base legible digit small
  rcases shows with rfl | rfl
  · exact lower
  · exact upper

theorem eq_zero_of_shows {digit : Nat} (shows : Shows '0' digit) (small : digit < 16) :
    digit = 0 := by
  have table : ∀ digit < 16, '0' = digit.digitChar ∨ '0' = digit.digitChar.toUpper → digit = 0 := by
    decide
  exact table digit small shows

theorem run_of_shown (shown : List.Forall₂ Shows chars digits) (nonempty : digits ≠ [])
    (bounded : ∀ digit ∈ digits, digit < radix.base) : Run radix.base chars digits := by
  induction shown with
  | nil => exact absurd rfl nonempty
  | cons shows rest ih =>
      have read := digit?_of_shows shows (bounded _ List.mem_cons_self) radix.base_le
      cases rest with
      | nil => exact .last read
      | cons next others =>
          exact .next read (ih (List.cons_ne_nil _ _) fun digit member =>
            bounded digit (List.mem_cons_of_mem _ member))

/-! ## Spellings -/

/-- A text is a canonical spelling of a number in a radix. -/
def Canonical (written : List Char) (radix : Radix) (number : Int) : Prop :=
  ∃ (sign : Sign) (lead chars : List Char) (digits : List Nat),
    written = sign.written ++ (lead ++ chars) ∧ sign ≠ .plus ∧ Lead radix lead chars ∧
      List.Forall₂ Shows chars digits ∧ digits ≠ [] ∧ (∀ digit ∈ digits, digit < radix.base) ∧
      number = sign.apply (Nat.ofDigits radix.base digits.reverse : Nat)

/-- Decimal digits without zeros before them are as many as the number has. -/
theorem length_le_of_lt (leads : Lead .decimal lead chars) (shown : List.Forall₂ Shows chars digits)
    (bounded : ∀ digit ∈ digits, digit < 10) {most : Nat} (some : 0 < most)
    (small : Nat.ofDigits 10 digits.reverse < 10 ^ most) : digits.length ≤ most := by
  cases shown with
  | nil => exact Nat.zero_le _
  | @cons c digit chars digits shows rest =>
      cases leads with
      | decimal plain =>
          by_cases isZero : digit = 0
          · have zero : c = '0' := by
              subst isZero
              exact shows.elim id id
            have alone : chars = [] := (List.cons.inj (plain (by rw [zero]; rfl))).2
            subst alone
            cases rest
            exact some
          · have digitsOf : Nat.digits 10 (Nat.ofDigits 10 (digit :: digits).reverse) =
                (digit :: digits).reverse := by
              refine Nat.digits_ofDigits 10 (by decide) _ ?_ ?_
              · exact fun other member => bounded other (List.mem_reverse.mp member)
              · simpa using isZero
            rw [← List.length_reverse, ← digitsOf]
            exact (Nat.digits_length_le_iff (by decide) _).mpr small

/-! ## Existence -/

/-- The digits of a number, the greatest weight first; zero has one digit. -/
def digitsOf (base magnitude : Nat) : List Nat :=
  if magnitude = 0 then [0] else (Nat.digits base magnitude).reverse

variable {base magnitude : Nat}

theorem digitsOf_ne_nil : digitsOf base magnitude ≠ [] := by
  unfold digitsOf
  split
  · exact List.cons_ne_nil _ _
  · next positive => simpa using Nat.digits_ne_nil_iff_ne_zero.mpr positive

theorem digitsOf_lt (large : 1 < base) (magnitude : Nat) :
    ∀ digit ∈ digitsOf base magnitude, digit < base := by
  unfold digitsOf
  split
  · simpa using Nat.zero_lt_of_lt large
  · exact fun digit member => Nat.digits_lt_base large (List.mem_reverse.mp member)

theorem ofDigits_digitsOf (base magnitude : Nat) :
    Nat.ofDigits base (digitsOf base magnitude).reverse = magnitude := by
  unfold digitsOf
  split
  · next zero => simp [zero]
  · rw [List.reverse_reverse, Nat.ofDigits_digits]

theorem digitsOf_head (zero : (digitsOf base magnitude).head? = some 0) :
    digitsOf base magnitude = [0] := by
  unfold digitsOf at zero ⊢
  split
  · rfl
  · next positive =>
    rw [if_neg positive, List.head?_reverse] at zero
    have nonempty : Nat.digits base magnitude ≠ [] := Nat.digits_ne_nil_iff_ne_zero.mpr positive
    rw [List.getLast?_eq_some_getLast nonempty] at zero
    exact absurd (Option.some.inj zero) (Nat.getLast_digit_ne_zero base positive)

/-- What leads to digits of a radix that have no zero before them. -/
theorem exists_lead_of_shown (shown : List.Forall₂ Shows chars digits) (nonempty : digits ≠ [])
    (bounded : ∀ digit ∈ digits, digit < radix.base)
    (plain : digits.head? = some 0 → digits = [0]) :
    ∃ lead, Lead radix lead chars := by
  cases shown with
  | nil => exact absurd rfl nonempty
  | @cons c digit chars digits shows rest =>
      have small := bounded digit List.mem_cons_self
      cases radix with
      | hexadecimal => exact ⟨['0', 'x'], .hexadecimal (.inl rfl)⟩
      | octal =>
          have read := digit?_of_shows shows small (by decide)
          refine ⟨['0'], .octal ⟨?_, ?_⟩⟩ <;> rintro rfl <;> cases read
      | decimal =>
          refine ⟨[], .decimal fun zero => ?_⟩
          obtain rfl : c = '0' := Option.some.inj zero
          obtain rfl := eq_zero_of_shows shows (Nat.lt_of_lt_of_le small (by decide))
          obtain rfl := (List.cons.inj (plain rfl)).2
          cases rest
          rfl

theorem shows_digitChar (digits : List Nat) :
    List.Forall₂ Shows (digits.map Nat.digitChar) digits := by
  rw [List.forall₂_map_left_iff]
  exact List.forall₂_same.mpr fun _ _ => .inl rfl

theorem canonical_of_digits (sign : Sign) (noPlus : sign ≠ .plus)
    (leads : Lead radix lead (digits.map Nat.digitChar)) (nonempty : digits ≠ [])
    (bounded : ∀ digit ∈ digits, digit < radix.base) :
    Canonical (sign.written ++ (lead ++ digits.map Nat.digitChar)) radix
      (sign.apply (Nat.ofDigits radix.base digits.reverse : Nat)) :=
  ⟨sign, lead, _, digits, rfl, noPlus, leads, shows_digitChar digits, nonempty, bounded, rfl⟩

/-- Every number has a canonical spelling in every radix. -/
theorem exists_canonical (radix : Radix) (number : Int) :
    ∃ written : String, Canonical written.toList radix number := by
  have bounded := digitsOf_lt radix.one_lt_base number.natAbs
  obtain ⟨lead, leads⟩ :=
    exists_lead_of_shown (shows_digitChar _) digitsOf_ne_nil bounded digitsOf_head
  have signed : ∃ sign : Sign, sign ≠ .plus ∧ sign.apply number.natAbs = number := by
    by_cases negative : number < 0
    · exact ⟨.minus, nofun, show -(number.natAbs : Int) = number by omega⟩
    · exact ⟨.absent, nofun, show (number.natAbs : Int) = number by omega⟩
  obtain ⟨sign, noPlus, value⟩ := signed
  have canonical := canonical_of_digits sign noPlus leads digitsOf_ne_nil bounded
  rw [ofDigits_digitsOf, value] at canonical
  exact ⟨.ofList _, by rwa [String.toList_ofList]⟩

/-! ## The integer types -/

variable {kind : TyKind} {signed : Bool} {width : Nat}

/-- The eight integer types: whether their numbers have a sign, and the bits for a number. -/
inductive Integral : TyKind → Bool → Nat → Prop where
  | i8 : Integral .i8 true 8
  | u8 : Integral .u8 false 8
  | i16 : Integral .i16 true 16
  | u16 : Integral .u16 false 16
  | i32 : Integral .i32 true 32
  | u32 : Integral .u32 false 32
  | i64 : Integral .i64 true 64
  | u64 : Integral .u64 false 64

theorem integral_iff : Integral kind signed width ↔ kind.integerWidth? = some (signed, width) := by
  constructor
  · rintro (_ | _ | _ | _ | _ | _ | _ | _) <;> rfl
  · intro found
    cases kind <;> cases found <;> constructor

theorem Integral.isUnsigned (integral : Integral kind signed width) :
    kind.isUnsigned = !signed := by
  cases integral <;> rfl

theorem Integral.width_le (integral : Integral kind signed width) : width ≤ 64 := by
  cases integral <;> decide

/-! ## Defaults of canonical spelling -/

variable {node : DefaultNode} {type : Ty} {literal : Literal}

theorem natAbs_lt_of_within (narrow : width ≤ 64) (within : Within signed width number) :
    number.natAbs < 10 ^ 20 := by
  have whole : (2 : Int) ^ width ≤ 2 ^ 64 := pow_le_pow_right₀ (by decide) narrow
  have half : (2 : Int) ^ (width - 1) ≤ 2 ^ 64 :=
    pow_le_pow_right₀ (by decide) ((Nat.sub_le _ _).trans narrow)
  unfold Within at within
  split at within <;> omega

section Convert

variable (lexed : node.kind = .integer) (integral : type.kind.integerWidth? = some (signed, width))
  (canonical : Canonical node.text.toList radix number)

include lexed integral canonical

theorem convert_of_canonical (within : Within signed width number) :
    node.convert type = .ok (integerLiteral type signed radix number) := by
  obtain ⟨sign, lead, chars, digits, split, -, leads, shown, nonempty, bounded, rfl⟩ := canonical
  refine (convert_eq_ok_iff lexed integral).mpr ⟨_, _, ?_, within, rfl⟩
  rw [split, wholeNumber?_of_run leads (run_of_shown shown nonempty bounded), if_neg]
  rintro ⟨rfl, long⟩
  -- A number of at most 64 bits has at most twenty decimal digits, and these are never too many.
  have small := natAbs_lt_of_within (integral_iff.mpr integral).width_le within
  rw [Sign.natAbs_apply] at small
  have few := length_le_of_lt leads shown bounded (by decide) small
  exact absurd long (Nat.not_lt.mpr (few.trans (by decide)))

theorem refused_of_canonical (outside : ¬Within signed width number) :
    node.convert type ≠ .ok literal := by
  obtain ⟨sign, lead, chars, digits, split, -, leads, shown, nonempty, bounded, rfl⟩ := canonical
  intro accepted
  obtain ⟨other, otherRadix, read, within, -⟩ := (convert_eq_ok_iff lexed integral).mp accepted
  rw [split, wholeNumber?_of_run leads (run_of_shown shown nonempty bounded)] at read
  split at read
  · cases read
  · obtain ⟨rfl, -⟩ := Prod.mk.inj (Option.some.inj read)
    exact outside within

end Convert

/-! ## Defaults at the integer types -/

/-- Only a whole number is a default at an integer type. -/
theorem lexed_of_convert (integral : Integral type.kind signed width)
    (accepted : node.convert type = .ok literal) : node.kind = .integer := by
  obtain ⟨kind, _, _, _⟩ := type
  obtain ⟨lexed, _, _⟩ := node
  cases lexed with
  | integer => rfl
  | _ => cases integral <;> cases accepted

theorem kind_of_convertBoolean (accepted : node.convertBoolean type = .ok literal) :
    literal.kind = .boolean := by
  unfold convertBoolean at accepted
  split at accepted
  · cases accepted
    rfl
  · split at accepted <;> cases accepted
    rfl

theorem kind_of_convertFloat (accepted : node.convertFloat type = .ok literal) :
    literal.kind = .float := by
  unfold convertFloat at accepted
  split at accepted <;> cases accepted
  rfl

/-- Whole numbers are literals of the integer types. -/
theorem exists_integral_of_convert (accepted : node.convert type = .ok literal)
    (whole : literal.kind = .int ∨ literal.kind = .uint) :
    ∃ signed width, Integral type.kind signed width := by
  cases found : type.kind.integerWidth? with
  | some shape => exact ⟨shape.1, shape.2, integral_iff.mpr found⟩
  | none =>
      unfold convert at accepted
      simp only [found] at accepted
      cases lexed : node.kind <;> simp only [lexed] at accepted <;> split at accepted
      case boolean.isTrue => simp [kind_of_convertBoolean accepted] at whole
      case integer.isTrue | float.isTrue => simp [kind_of_convertFloat accepted] at whole
      -- Each other branch refuses the default, or its literal is of a kind of its own.
      all_goals cases accepted <;> simp at whole

/-- At each of the integer types a number of the type is converted from each of its canonical
spellings, of which there are some in every radix, and any other number is refused.  No text
whatsoever is converted to a number outside of the type, nor to a whole number at another type. -/
theorem convert_canonical (integral : Integral type.kind signed width) :
    type.kind.isUnsigned = !signed ∧
    (∀ radix number, ∃ written : String, Canonical written.toList radix number) ∧
    (∀ (node : DefaultNode) (radix : Radix) (number : Int),
      node.kind = .integer → Canonical node.text.toList radix number →
      (Within signed width number →
        node.convert type = .ok (integerLiteral type signed radix number)) ∧
      (¬Within signed width number →
        ∃ cause : Cause, cause.family = .invalidLiteral ∧
          node.convert type = .error ⟨cause, none, node.location⟩)) ∧
    (∀ (node : DefaultNode) (literal : Literal), node.convert type = .ok literal →
      node.kind = .integer ∧ ∃ radix number, Within signed width number ∧
        literal = integerLiteral type signed radix number) ∧
    ∀ (node : DefaultNode) (other : Ty) (literal : Literal), node.convert other = .ok literal →
      literal.kind = .int ∨ literal.kind = .uint →
      ∃ signed width, Integral other.kind signed width := by
  have found := integral_iff.mp integral
  refine ⟨integral.isUnsigned, exists_canonical, ?_, ?_, ?_⟩
  · intro node radix number lexed canonical
    exact ⟨convert_of_canonical lexed found canonical, fun outside =>
      convert_refuses lexed found fun _ => refused_of_canonical lexed found canonical outside⟩
  · intro node literal accepted
    have lexed := lexed_of_convert integral accepted
    obtain ⟨number, radix, -, within, same⟩ := (convert_eq_ok_iff lexed found).mp accepted
    exact ⟨lexed, radix, number, within, same⟩
  · exact fun node other literal => exists_integral_of_convert

theorem convert_canonical_bounds :
    (⟨.integer, "-0200", none⟩ : DefaultNode).convert { kind := .i8 } =
        .ok (integerLiteral { kind := .i8 } true .octal (-128)) ∧
      (∃ cause : Cause, cause.family = .invalidLiteral ∧
        (⟨.integer, "0200", none⟩ : DefaultNode).convert { kind := .i8 } =
          .error ⟨cause, none, none⟩) ∧
      (⟨.integer, "255", none⟩ : DefaultNode).convert { kind := .u8 } =
        .ok (integerLiteral { kind := .u8 } false .decimal 255) ∧
      (⟨.integer, "-0x8000000000000000", none⟩ : DefaultNode).convert { kind := .i64 } =
        .ok (integerLiteral { kind := .i64 } true .hexadecimal (-9223372036854775808)) ∧
      ∃ cause : Cause, cause.family = .invalidLiteral ∧
        (⟨.integer, "0x10000000000000000", none⟩ : DefaultNode).convert { kind := .u64 } =
          .error ⟨cause, none, none⟩ := by
  have octal (sign : Sign) (noPlus : sign ≠ .plus) :
      Canonical (sign.written ++ "0200".toList) .octal (sign.apply 128) :=
    canonical_of_digits sign noPlus (.octal (by decide)) (List.cons_ne_nil 2 [0, 0]) (by decide)
  have decimal : Canonical "255".toList .decimal 255 :=
    canonical_of_digits .absent nofun (.decimal (by decide)) (List.cons_ne_nil 2 [5, 5]) (by decide)
  have lowest : Canonical "-0x8000000000000000".toList .hexadecimal (-9223372036854775808) :=
    canonical_of_digits .minus nofun (.hexadecimal (.inl rfl))
      (List.cons_ne_nil 8 (List.replicate 15 0)) (by decide)
  have beyond : Canonical "0x10000000000000000".toList .hexadecimal 18446744073709551616 :=
    canonical_of_digits .absent nofun (.hexadecimal (.inl rfl))
      (List.cons_ne_nil 1 (List.replicate 16 0)) (by decide)
  refine ⟨?_, ?_, ?_, ?_, ?_⟩
  · exact ((convert_canonical .i8).2.2.1 ⟨.integer, "-0200", none⟩ .octal (-128) rfl
      (octal .minus nofun)).1 ⟨by decide, by decide⟩
  · refine ((convert_canonical .i8).2.2.1 ⟨.integer, "0200", none⟩ .octal 128 rfl
      (octal .absent nofun)).2 fun within => ?_
    exact absurd within.2 (by decide)
  · exact ((convert_canonical .u8).2.2.1 ⟨.integer, "255", none⟩ .decimal 255 rfl decimal).1
      ⟨by decide, by decide⟩
  · exact ((convert_canonical .i64).2.2.1 ⟨.integer, "-0x8000000000000000", none⟩ .hexadecimal
      (-9223372036854775808) rfl lowest).1 ⟨by decide, by decide⟩
  · refine ((convert_canonical .u64).2.2.1 ⟨.integer, "0x10000000000000000", none⟩ .hexadecimal
      18446744073709551616 rfl beyond).2 fun within => ?_
    exact absurd within.2 (by decide)

end DefaultNode

end NativeBoundary

import NativeBoundary.Json.Canonical
import NativeBoundary.Proofs.Text.Kept

/-!
# Escaped texts

The escapes of a canonical text are read back one character at a time: a shorthand, one unit in four
hexadecimal digits, or two units that are the halves of one character.  So no escape is the
beginning of another, and a text of scalar values is told by what stands between its quotes.
-/

namespace NativeBoundary.Json

open Text (hexDigit hexDigits)
open Text.Surrogate

/-! ## Hexadecimal digits -/

def hexPlace (c : Char) : Nat := if c.toNat < 58 then c.toNat - 48 else c.toNat - 87

def hexNumber (digits : List Char) : Nat :=
  digits.foldl (fun total c => 16 * total + hexPlace c) 0

theorem hexPlace_hexDigit {value : Nat} (small : value < 16) :
    hexPlace (hexDigit value) = value := by
  have all : ∀ digit : Fin 16, hexPlace (hexDigit digit) = digit := by decide
  exact all ⟨value, small⟩

theorem hexNumber_hexDigits (width n : Nat) :
    hexNumber (hexDigits width n) = n % 16 ^ width := by
  induction width generalizing n with
  | zero => simp [hexDigits, hexNumber, Nat.mod_one]
  | succ width ih =>
      have last : n % 16 < 16 := Nat.mod_lt _ (by decide)
      have front : hexNumber (hexDigits width (n / 16)) = n / 16 % 16 ^ width := ih (n / 16)
      unfold hexNumber at front ⊢
      rw [hexDigits, List.foldl_append, front, List.foldl_cons, List.foldl_nil,
        hexPlace_hexDigit last, Nat.pow_succ', Nat.mod_mul]
      omega

theorem hexDigits_four (n : Nat) : ∃ a b c d, hexDigits 4 n = [a, b, c, d] := by
  refine ⟨hexDigit (n / 16 / 16 / 16 % 16), hexDigit (n / 16 / 16 % 16), hexDigit (n / 16 % 16),
    hexDigit (n % 16), rfl⟩

/-! ## One escape -/

def shorthand (c : Char) : Char :=
  if c = 'n' then '\n'
  else if c = 'r' then '\r'
  else if c = 't' then '\t'
  else if c = 'b' then Char.ofNat 8
  else if c = 'f' then Char.ofNat 12
  else c

/-- A character from its first unit and what stands behind it. -/
def joined (unit : Nat) (rest : List Char) : Option (Char × List Char) :=
  if isLeading unit then
    match rest with
    | '\\' :: 'u' :: a :: b :: c :: d :: rest =>
        some (Char.ofNat (pairValue unit (hexNumber [a, b, c, d])), rest)
    | _ => none
  else some (Char.ofNat unit, rest)

/-- Reads the character that a text begins with, however it is escaped. -/
def unescape : List Char → Option (Char × List Char)
  | [] => none
  | c :: rest =>
      if c = '\\' then
        match rest with
        | 'u' :: a :: b :: c :: d :: rest => joined (hexNumber [a, b, c, d]) rest
        | c :: rest => some (shorthand c, rest)
        | [] => none
      else some (c, rest)

theorem unescape_unit {unit : Nat} (small : unit < 0x10000) (rest : List Char) :
    unescape ('\\' :: 'u' :: hexDigits 4 unit ++ rest) = joined unit rest := by
  obtain ⟨a, b, c, d, digits⟩ := hexDigits_four unit
  have number : hexNumber [a, b, c, d] = unit := by
    rw [← digits, hexNumber_hexDigits]
    exact Nat.mod_eq_of_lt small
  rw [digits]
  simp only [unescape, if_true, List.cons_append, List.nil_append, number]

theorem joined_pair {leading trailing : Nat} (isFirst : isLeading leading = true)
    (small : trailing < 0x10000) (rest : List Char) :
    joined leading ('\\' :: 'u' :: hexDigits 4 trailing ++ rest) =
      some (Char.ofNat (pairValue leading trailing), rest) := by
  obtain ⟨a, b, c, d, digits⟩ := hexDigits_four trailing
  have number : hexNumber [a, b, c, d] = trailing := by
    rw [← digits, hexNumber_hexDigits]
    exact Nat.mod_eq_of_lt small
  rw [digits]
  simp only [joined, isFirst, List.cons_append, List.nil_append, number, if_true]

/-! ## Characters as they are kept -/

theorem escaped_of_high {c : Char} (high : 126 < c.toNat) :
    escaped c = (units c).flatMap fun unit => '\\' :: 'u' :: hexDigits 4 unit := by
  have differs {other : Char} (low : other.toNat ≤ 126) : c ≠ other := by
    rintro rfl
    omega
  unfold escaped
  rw [if_neg (differs (by decide)), if_neg (differs (by decide)), if_neg (differs (by decide)),
    if_neg (differs (by decide)), if_neg (differs (by decide)), if_neg (by omega),
    if_neg (by omega), if_neg (by omega)]

/-- The two halves of a character above the basic plane are escaped one after the other. -/
def pairText (point : Nat) : List Char :=
  '\\' :: 'u' :: hexDigits 4 (halves point).1 ++ '\\' :: 'u' :: hexDigits 4 (halves point).2

theorem unescape_pairText {c : Char} (low : 0x10000 ≤ c.toNat) (rest : List Char) :
    unescape (pairText c.toNat ++ rest) = some (c, rest) := by
  have high : c.toNat < 0x110000 := by
    have valid := valid_toNat c
    omega
  have leading := halves_leading low high
  have boundsFirst := half_bounds (isHalf_of_isLeading leading)
  have boundsSecond := half_bounds (isHalf_of_isTrailing (halves_trailing c.toNat))
  rw [pairText, List.append_assoc, unescape_unit (by omega), joined_pair leading (by omega),
    pairValue_halves low, Char.ofNat_toNat]

/-- The escapes of a character, kept as one character or as two stand-ins. -/
def escapedPoint (c : Char) : List Char := (kept c).flatMap escaped

theorem escaped_standIn {unit : Nat} (half : isHalf unit = true) :
    escaped (standIn unit) = '\\' :: 'u' :: hexDigits 4 unit := by
  have high : 126 < (standIn unit).toNat := by
    rw [toNat_standIn half, distance]
    omega
  rw [escaped_of_high high, units, if_pos (isStandIn_standIn half), unitOf_standIn half]
  exact List.append_nil _

theorem escapedPoint_of_standIn {c : Char} (standsIn : isStandIn c = true) :
    escapedPoint c = pairText c.toNat := by
  have low := low_of_isStandIn standsIn
  have valid := valid_toNat c
  have leading := halves_leading low (by omega)
  rw [escapedPoint, kept, if_pos standsIn, List.flatMap_cons, List.flatMap_singleton,
    escaped_standIn (isHalf_of_isLeading leading),
    escaped_standIn (isHalf_of_isTrailing (halves_trailing c.toNat))]
  rfl

theorem unescape_plain {c : Char} (plain : c ≠ '\\') (rest : List Char) :
    unescape (c :: rest) = some (c, rest) := by
  simp only [unescape, plain, if_false]

theorem joined_toNat (c : Char) (rest : List Char) : joined c.toNat rest = some (c, rest) := by
  have notLeading : isLeading c.toNat = false := by
    apply Bool.eq_false_iff.mpr
    intro leading
    have bounds := half_bounds (isHalf_of_isLeading leading)
    have valid := valid_toNat c
    omega
  unfold joined
  rw [notLeading, if_neg Bool.false_ne_true, Char.ofNat_toNat]

theorem unescape_units {c : Char} (ordinary : isStandIn c = false) (rest : List Char) :
    unescape ((units c).flatMap (fun unit => '\\' :: 'u' :: hexDigits 4 unit) ++ rest) =
      some (c, rest) := by
  rw [units, ordinary, if_neg Bool.false_ne_true]
  by_cases basic : c.toNat < 0x10000
  · rw [if_pos basic, List.flatMap_singleton, unescape_unit basic, joined_toNat]
  · rw [if_neg basic, List.flatMap_cons, List.flatMap_singleton]
    exact unescape_pairText (Nat.le_of_not_lt basic) rest

theorem unescape_escaped {c : Char} (ordinary : isStandIn c = false) (rest : List Char) :
    unescape (escaped c ++ rest) = some (c, rest) := by
  unfold escaped
  split
  · next same => rw [same]; rfl
  split
  · next same => rw [same]; rfl
  split
  · next same => rw [same]; rfl
  split
  · next same => rw [same]; rfl
  split
  · next same => rw [same]; rfl
  split
  · next same => rw [← Char.ofNat_toNat c, same]; rfl
  split
  · next same => rw [← Char.ofNat_toNat c, same]; rfl
  split
  · next notBackslash _ _ _ _ _ _ => exact unescape_plain notBackslash rest
  · exact unescape_units ordinary rest

/-- One escape is read back, whatever comes behind it. -/
theorem unescape_escapedPoint (c : Char) (rest : List Char) :
    unescape (escapedPoint c ++ rest) = some (c, rest) := by
  cases standsIn : isStandIn c with
  | true =>
      rw [escapedPoint_of_standIn standsIn]
      exact unescape_pairText (low_of_isStandIn standsIn) rest
  | false =>
      rw [escapedPoint, kept_eq_self standsIn, List.flatMap_singleton]
      exact unescape_escaped standsIn rest

/-! ## Whole texts -/

theorem units_cons (c : Char) : ∃ unit rest, units c = unit :: rest := by
  unfold units
  split
  · exact ⟨_, _, rfl⟩
  split
  · exact ⟨_, _, rfl⟩
  · exact ⟨_, _, rfl⟩

/-- No escape begins with a quote. -/
theorem escaped_starts (c : Char) : ∃ first rest, escaped c = first :: rest ∧ first ≠ '"' := by
  unfold escaped
  split
  · exact ⟨'\\', _, rfl, by decide⟩
  next notQuote =>
    iterate 6
      split
      · exact ⟨'\\', _, rfl, by decide⟩
    split
    · exact ⟨c, _, rfl, notQuote⟩
    · obtain ⟨unit, rest, some⟩ := units_cons c
      rw [some]
      exact ⟨'\\', _, rfl, by decide⟩

theorem kept_cons (c : Char) : ∃ first rest, kept c = first :: rest := by
  unfold kept
  split
  · exact ⟨_, _, rfl⟩
  · exact ⟨_, _, rfl⟩

theorem escapedPoint_starts (c : Char) :
    ∃ first rest, escapedPoint c = first :: rest ∧ first ≠ '"' := by
  obtain ⟨start, others, keeps⟩ := kept_cons c
  obtain ⟨first, rest, starts, notQuote⟩ := escaped_starts start
  rw [escapedPoint, keeps, List.flatMap_cons, starts]
  exact ⟨first, _, rfl, notQuote⟩

theorem escapedPoint_append_inj {first second : Char} {behind after : List Char}
    (same : escapedPoint first ++ behind = escapedPoint second ++ after) :
    first = second ∧ behind = after := by
  have read := unescape_escapedPoint first behind
  rw [same, unescape_escapedPoint] at read
  obtain ⟨points, rests⟩ := Prod.mk.inj (Option.some.inj read)
  exact ⟨points.symm, rests.symm⟩

theorem escapedPoints_append_inj {first second behind after : List Char}
    (same : first.flatMap escapedPoint ++ '"' :: behind =
      second.flatMap escapedPoint ++ '"' :: after) : first = second ∧ behind = after := by
  induction first generalizing second with
  | nil =>
      cases second with
      | nil => exact ⟨rfl, List.tail_eq_of_cons_eq same⟩
      | cons c rest =>
          obtain ⟨start, others, starts, notQuote⟩ := escapedPoint_starts c
          rw [List.flatMap_cons, starts] at same
          exact absurd (List.head_eq_of_cons_eq same).symm notQuote
  | cons c rest ih =>
      cases second with
      | nil =>
          obtain ⟨start, others, starts, notQuote⟩ := escapedPoint_starts c
          rw [List.flatMap_cons, starts] at same
          exact absurd (List.head_eq_of_cons_eq same) notQuote
      | cons d others =>
          rw [List.flatMap_cons, List.flatMap_cons, List.append_assoc, List.append_assoc] at same
          obtain ⟨points, remaining⟩ := escapedPoint_append_inj same
          obtain ⟨rests, behinds⟩ := ih remaining
          exact ⟨by rw [points, rests], behinds⟩

theorem stringText_keptText (text : String) :
    stringText (keptText text) = '"' :: (text.toList.flatMap escapedPoint ++ ['"']) := by
  have kepts : (keptText text).toList = text.toList.flatMap kept := String.toList_ofList
  rw [stringText, kepts, List.flatMap_assoc]
  rfl

/-- A text of scalar values between its quotes is told apart from what stands behind. -/
theorem stringText_append_inj {first second : String} {behind after : List Char}
    (same : stringText (keptText first) ++ behind = stringText (keptText second) ++ after) :
    first = second ∧ behind = after := by
  rw [stringText_keptText, stringText_keptText] at same
  rw [List.cons_append, List.cons_append, List.append_assoc, List.append_assoc] at same
  obtain ⟨points, rests⟩ := escapedPoints_append_inj (List.tail_eq_of_cons_eq same)
  exact ⟨String.toList_inj.mp points, rests⟩

end NativeBoundary.Json

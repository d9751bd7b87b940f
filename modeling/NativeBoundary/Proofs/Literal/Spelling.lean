import NativeBoundary.Literal.Convert
import NativeBoundary.Proofs.Text.Numeral

/-!
# Spellings of whole numbers

The texts that a default at an integer type may have.  The sign and the lead of the radix are taken
off the text, and what is left is read as a whole number once more, which lets pass spacing, a
second sign and a mark of the radix before the digits.  Only a spelling without these is as whole
numbers are written.
-/

namespace NativeBoundary

theorem Radix.base_eq_ten_iff {radix : Radix} : radix.base = 10 ↔ radix = .decimal := by
  cases radix <;> decide

namespace DefaultNode

open Text Text.Numeral

variable {written lead behind chars : List Char} {radix : Radix} {digits : List Nat}

/-! ## Radices -/

/-- What leads to the digits of a radix, where the given text stands behind it. -/
inductive Lead : Radix → List Char → List Char → Prop where
  | decimal {behind : List Char} (plain : behind.head? = some '0' → behind = ['0']) :
      Lead .decimal [] behind
  | octal {c : Char} {behind : List Char} (other : c ≠ 'x' ∧ c ≠ 'X') :
      Lead .octal ['0'] (c :: behind)
  | hexadecimal {mark : Char} {behind : List Char} (isMark : mark = 'x' ∨ mark = 'X') :
      Lead .hexadecimal ['0', mark] behind

theorem splitRadix_append (leads : Lead radix lead behind) :
    splitRadix (lead ++ behind) = (radix, behind) := by
  cases leads with
  | hexadecimal isMark => rcases isMark with rfl | rfl <;> rfl
  | octal other => simp [splitRadix, other]
  | decimal plain =>
      change splitRadix behind = _
      unfold splitRadix
      split <;> simp at plain ⊢

theorem exists_lead (unsigned : List Char) :
    ∃ radix lead behind, unsigned = lead ++ behind ∧ Lead radix lead behind := by
  by_cases zero : unsigned.head? = some '0'
  · obtain ⟨next, rfl⟩ := List.head?_eq_some_iff.mp zero
    cases next with
    | nil => exact ⟨.decimal, [], ['0'], rfl, .decimal fun _ => rfl⟩
    | cons c behind =>
        by_cases isMark : c = 'x' ∨ c = 'X'
        · exact ⟨.hexadecimal, ['0', c], behind, rfl, .hexadecimal isMark⟩
        · exact ⟨.octal, ['0'], c :: behind, rfl, .octal (not_or.mp isMark)⟩
  · exact ⟨.decimal, [], unsigned, rfl, .decimal fun isZero => absurd isZero zero⟩

theorem Lead.isBlank_of_head (leads : Lead radix lead chars) :
    ∀ c ∈ lead.head?, isBlank c = false := by
  intro c head
  cases leads with
  | decimal => cases head
  | octal | hexadecimal =>
      rw [← Option.mem_some.mp head]
      rfl

theorem unsigned_of_lead (leads : Lead radix lead chars) (run : Run radix.base chars digits) :
    Unsigned (lead ++ chars) := by
  cases leads with
  | decimal => exact unsigned_of_run .absent run
  | octal | hexadecimal => simp [Unsigned]

/-! ## Spellings -/

/-- A text writes a number in a radix: at most one sign, the lead of the radix, and digits. -/
def Writes (written : List Char) (radix : Radix) (number : Int) : Prop :=
  ∃ (sign : Sign) (lead chars : List Char) (digits : List Nat),
    written = sign.written ++ (lead ++ chars) ∧ Lead radix lead chars ∧
      Run radix.base chars digits ∧ number = sign.apply (valueOf radix.base digits)

/-- The parts of a text that is read as a whole number. -/
structure Spelling where
  sign : Sign
  radix : Radix
  lead : List Char
  gap : List Char
  again : Sign
  mark : List Char
  chars : List Char
  digits : List Nat
  spacing : ∀ c ∈ gap, isSpacing c = true
  marked : Mark radix.base mark
  run : Run radix.base chars digits
  leads : Lead radix lead (gap ++ (again.written ++ (mark ++ chars)))
  unsigned : sign = .absent → Unsigned (lead ++ (gap ++ (again.written ++ (mark ++ chars))))

namespace Spelling

/-- What is read once more behind the lead of the radix. -/
def rest (spelling : Spelling) : List Char :=
  spelling.gap ++ (spelling.again.written ++ (spelling.mark ++ spelling.chars))

def text (spelling : Spelling) : List Char :=
  spelling.sign.written ++ (spelling.lead ++ spelling.rest)

def value (spelling : Spelling) : Int :=
  spelling.sign.apply (spelling.again.apply (valueOf spelling.radix.base spelling.digits))

/-- Decimal digits are not read if they are too many. -/
def TooLong (spelling : Spelling) : Prop :=
  spelling.radix = .decimal ∧ decimalDigitLimit < spelling.digits.length

instance (spelling : Spelling) : Decidable spelling.TooLong :=
  inferInstanceAs (Decidable (_ ∧ _))

/-- Nothing stands between the lead of the radix and the digits. -/
structure Plain (spelling : Spelling) : Prop where
  closed : spelling.gap = []
  once : spelling.again = .absent
  unmarked : spelling.mark = []

variable {spelling : Spelling}

theorem wholeNumber?_eq (same : spelling.text = trim isBlank written) :
    wholeNumber? written =
      if spelling.TooLong then none else some (spelling.value, spelling.radix) := by
  have trimmed := trimmed_of_run spelling.again spelling.marked.isBlank_of_head spelling.run
  have again := whole?_eq (trim_append spelling.spacing trimmed.spacing) spelling.marked
    spelling.run
  unfold wholeNumber?
  rw [← same, text, rest, splitSign_append spelling.unsigned]
  simp only [splitRadix_append spelling.leads, again, Radix.base_eq_ten_iff]
  change (if spelling.TooLong then none else some _).bind _ = _
  split <;> rfl

/-- Whatever is read as a whole number has a spelling. -/
theorem exists_of_wholeNumber? {read : Int × Radix} (found : wholeNumber? written = some read) :
    ∃ spelling : Spelling, spelling.text = trim isBlank written := by
  obtain ⟨sign, unsigned, split, noSign⟩ := exists_sign (trim isBlank written)
  obtain ⟨radix, lead, behind, rfl, leads⟩ := exists_lead unsigned
  unfold wholeNumber? at found
  rw [split, splitSign_append noSign] at found
  simp only [splitRadix_append leads, Option.bind_eq_bind, Option.bind_eq_some_iff] at found
  obtain ⟨value, readAgain, -⟩ := found
  obtain ⟨again, mark, chars, digits, inner, marked, run⟩ := exists_of_whole? readAgain
  -- The text has been trimmed once, so the second reader trims only the gap behind the lead.
  have ends : ∀ c ∈ behind.getLast?, isSpacing c = false := by
    intro c last
    refine (trimmed_trim isBlank written).spacing.last c ?_
    rw [split, List.getLast?_append, List.getLast?_append, Option.mem_def.mp last]
    rfl
  have parts := takeWhile_append_trim ends
  rw [inner] at parts
  refine ⟨{ sign, radix, lead, again, mark, chars, digits, marked, run
            gap := behind.takeWhile isSpacing
            spacing := fun c => List.mem_takeWhile_imp
            leads := by rwa [parts]
            unsigned := by rwa [parts] }, ?_⟩
  simp only [text, rest, parts, split]

/-! ## Plain spellings -/

theorem Plain.writes (plain : spelling.Plain) :
    Writes spelling.text spelling.radix spelling.value := by
  obtain ⟨closed, once, unmarked⟩ := plain
  have whole : spelling.rest = spelling.chars := by
    simp [rest, closed, once, unmarked, Sign.written]
  refine ⟨spelling.sign, spelling.lead, spelling.chars, spelling.digits, ?_, ?_, spelling.run, ?_⟩
  · rw [text, whole]
  · rw [← whole]
    exact spelling.leads
  · rw [value, once]
    rfl

/-- Neither spacing nor a sign nor a mark stands in a run of digits. -/
theorem plain_of_run (run : Run spelling.radix.base spelling.rest digits) : spelling.Plain := by
  have absent {c : Char} (noDigit : digit? spelling.radix.base c = none) (other : c ≠ '_') :
      c ∉ spelling.gap ∧ c ∉ spelling.again.written ∧ c ∉ spelling.mark := by
    have outside := run.not_mem noDigit other
    simp only [rest, List.mem_append, not_or] at outside
    exact ⟨outside.1, outside.2.1, outside.2.2.1⟩
  refine ⟨List.eq_nil_iff_forall_not_mem.mpr fun c member => ?_, ?_, ?_⟩
  · have spacing := spelling.spacing c member
    exact (absent (digit?_eq_none_of_isSpacing spacing) (by rintro rfl; cases spacing)).1 member
  · cases second : spelling.again with
    | absent => rfl
    | plus =>
        have outside := (absent (c := '+') rfl (by decide)).2.1
        simp [second, Sign.written] at outside
    | minus =>
        have outside := (absent (c := '-') rfl (by decide)).2.1
        simp [second, Sign.written] at outside
  · have letter (c : Char) (marks : Marks spelling.radix.base c) : c ∉ spelling.mark :=
      (absent (digit?_of_marks marks) (ne_underscore_of_marks marks)).2.2
    have marked := spelling.marked
    generalize spelling.mark = mark at letter marked
    cases marked with
    | absent => rfl
    | closed _ marks => exact absurd (by simp) (letter _ marks)
    | apart _ marks => exact absurd (by simp) (letter _ marks)

/-- The sign and the lead of a text are determined, so all that else stands in it are digits. -/
theorem plain_of_writes {number : Int} (writes : Writes spelling.text radix number) :
    spelling.Plain := by
  obtain ⟨sign, lead, chars, digits, split, leads, run, -⟩ := writes
  have signs : splitSign (sign.written ++ (lead ++ chars)) = (sign.isMinus, lead ++ chars) :=
    splitSign_append fun _ => unsigned_of_lead leads run
  rw [← split, text, rest, splitSign_append spelling.unsigned] at signs
  have radices := splitRadix_append leads
  rw [← (Prod.mk.inj signs).2, splitRadix_append spelling.leads] at radices
  obtain ⟨rfl, same⟩ := Prod.mk.inj radices
  exact plain_of_run (by rwa [rest, same])

end Spelling

/-- The spelling of digits behind the lead of their radix. -/
def plainSpelling (sign : Sign) (leads : Lead radix lead chars)
    (run : Run radix.base chars digits) : Spelling where
  sign
  radix
  lead
  gap := []
  again := .absent
  mark := []
  chars
  digits
  spacing _ member := absurd member List.not_mem_nil
  marked := .absent
  run
  leads
  unsigned := fun _ => unsigned_of_lead leads run

theorem wholeNumber?_of_run {sign : Sign} (leads : Lead radix lead chars)
    (run : Run radix.base chars digits) :
    wholeNumber? (sign.written ++ (lead ++ chars)) =
      if radix = .decimal ∧ decimalDigitLimit < digits.length then none
      else some (sign.apply (Nat.ofDigits radix.base digits.reverse : Nat), radix) := by
  have trimmed := trimmed_of_run sign leads.isBlank_of_head run
  rw [← valueOf_eq_ofDigits]
  exact (plainSpelling sign leads run).wholeNumber?_eq trimmed.trim_eq.symm

/-! ## Defaults at integer types -/

variable {node : DefaultNode} {type : Ty} {signed : Bool} {width : Nat}

/-- The numbers of an integer type. -/
def Within (signed : Bool) (width : Nat) (number : Int) : Prop :=
  if signed then -2 ^ (width - 1) ≤ number ∧ number < 2 ^ (width - 1)
  else 0 ≤ number ∧ number < 2 ^ width

theorem within_iff {number : Int} :
    Within signed width number ↔
      (bounds signed width).1 ≤ number ∧ number ≤ (bounds signed width).2 := by
  have below (limit : Int) : number < limit ↔ number ≤ limit - 1 := by omega
  cases signed with
  | true => exact and_congr_right fun _ => below _
  | false => exact and_congr_right fun _ => below _

/-- The literal of a number at an integer type. -/
def integerLiteral (type : Ty) (signed : Bool) (radix : Radix) (number : Int) : Literal where
  kind := if signed then .int else .uint
  value := .integer number
  radix := some radix
  type := some type

section Convert

variable (lexed : node.kind = .integer) (integral : type.kind.integerWidth? = some (signed, width))

include lexed integral

theorem convert_eq_convertInteger : node.convert type = node.convertInteger type signed width := by
  simp only [convert, lexed, integral]

theorem convert_eq_ok_iff {literal : Literal} :
    node.convert type = .ok literal ↔
      ∃ number radix, wholeNumber? node.text.toList = some (number, radix) ∧
        Within signed width number ∧ literal = integerLiteral type signed radix number := by
  rw [convert_eq_convertInteger lexed integral, convertInteger]
  cases wholeNumber? node.text.toList with
  | none => simp [refuse]
  | some read =>
      obtain ⟨number, radix⟩ := read
      simp only [Option.some.injEq, Prod.mk.injEq]
      split
      · next inside =>
        constructor
        · rintro ⟨⟩
          exact ⟨number, radix, ⟨rfl, rfl⟩, within_iff.mpr inside, rfl⟩
        · rintro ⟨_, _, ⟨rfl, rfl⟩, -, rfl⟩
          rfl
      · next outside =>
        constructor
        · nofun
        · rintro ⟨_, _, ⟨rfl, rfl⟩, inside, -⟩
          exact absurd (within_iff.mp inside) outside

/-- What is not accepted is refused as a literal, at the place of the default. -/
theorem convert_refuses (refused : ∀ literal, node.convert type ≠ .ok literal) :
    ∃ cause : Cause, cause.family = .invalidLiteral ∧
      node.convert type = .error ⟨cause, none, node.location⟩ := by
  rw [convert_eq_convertInteger lexed integral, convertInteger] at refused ⊢
  cases read : wholeNumber? node.text.toList with
  | none => exact ⟨.malformedInteger node.text, rfl, rfl⟩
  | some number =>
      simp only [read] at refused ⊢
      split
      · next inside => exact absurd (if_pos inside) (refused _)
      · exact ⟨.outOfRange node.text type, rfl, rfl⟩

/-- A default at an integer type is accepted exactly if its text has a spelling that is not too
long, of a number of the type.  The text is as whole numbers are written, with at most one sign and
one lead before the digits, exactly if the spelling is plain, and then the literal is the number. -/
theorem convert_integer_spelling :
    (∀ literal, node.convert type = .ok literal ↔
      ∃ spelling : Spelling, spelling.text = trim isBlank node.text.toList ∧ ¬spelling.TooLong ∧
        Within signed width spelling.value ∧
        literal = integerLiteral type signed spelling.radix spelling.value) ∧
    ∀ spelling : Spelling, spelling.text = trim isBlank node.text.toList →
      ((∃ radix number, Writes (trim isBlank node.text.toList) radix number) ↔ spelling.Plain) ∧
      (spelling.Plain →
        Writes (trim isBlank node.text.toList) spelling.radix spelling.value) := by
  refine ⟨fun literal => ?_, fun spelling same => ?_⟩
  · rw [convert_eq_ok_iff lexed integral]
    constructor
    · rintro ⟨number, radix, read, within, rfl⟩
      obtain ⟨spelling, same⟩ := Spelling.exists_of_wholeNumber? read
      rw [Spelling.wholeNumber?_eq same] at read
      split at read
      · cases read
      · next short =>
        obtain ⟨rfl, rfl⟩ := Prod.mk.inj (Option.some.inj read)
        exact ⟨spelling, same, short, within, rfl⟩
    · rintro ⟨spelling, same, short, within, rfl⟩
      refine ⟨spelling.value, spelling.radix, ?_, within, rfl⟩
      rw [Spelling.wholeNumber?_eq same, if_neg short]
  · rw [← same]
    refine ⟨⟨?_, fun plain => ⟨_, _, plain.writes⟩⟩, Spelling.Plain.writes⟩
    rintro ⟨radix, number, writes⟩
    exact Spelling.plain_of_writes writes

end Convert

/-- A hexadecimal number behind a minus, with or without a sign before its digits. -/
def hexadecimalSpelling (again : Sign) : Spelling where
  sign := .minus
  radix := .hexadecimal
  lead := ['0', 'x']
  gap := []
  again
  mark := []
  chars := ['1', 'f']
  digits := [1, 15]
  spacing _ member := absurd member List.not_mem_nil
  marked := .absent
  run := .next rfl (.last rfl)
  leads := .hexadecimal (.inl rfl)
  unsigned := nofun

theorem convert_integer_spelling_hexadecimal :
    let node : DefaultNode := { kind := .integer, text := " -0x1f" }
    node.convert { kind := .i16 } = .ok (integerLiteral { kind := .i16 } true .hexadecimal (-31)) ∧
      Writes (trim isBlank node.text.toList) .hexadecimal (-31) := by
  have spelled : (hexadecimalSpelling .absent).text = trim isBlank " -0x1f".toList := by decide
  have within : Within true 16 (hexadecimalSpelling .absent).value := ⟨by decide, by decide⟩
  have lexed : ({ kind := .integer, text := " -0x1f" } : DefaultNode).kind = .integer := rfl
  have integral : ({ kind := .i16 } : Ty).kind.integerWidth? = some (true, 16) := rfl
  obtain ⟨accepted, plain⟩ := convert_integer_spelling lexed integral
  exact ⟨(accepted _).mpr ⟨_, spelled, by decide, within, rfl⟩, (plain _ spelled).2 ⟨rfl, rfl, rfl⟩⟩

/-- A second sign is let pass behind the lead of the radix, and makes the number positive. -/
theorem convert_integer_signs :
    let node : DefaultNode := { kind := .integer, text := "-0x-1f" }
    node.convert { kind := .i16 } = .ok (integerLiteral { kind := .i16 } true .hexadecimal 31) ∧
      ¬∃ radix number, Writes (trim isBlank node.text.toList) radix number := by
  refine ⟨by decide, ?_⟩
  rintro ⟨radix, number, writes⟩
  have spelled : (hexadecimalSpelling .minus).text = trim isBlank "-0x-1f".toList := by decide
  rw [← spelled] at writes
  cases (Spelling.plain_of_writes writes).once

end DefaultNode

end NativeBoundary

import Mathlib.Data.List.DropRight
import Mathlib.Data.Nat.Digits.Defs
import NativeBoundary.Text.Numeral

/-!
# Whole numerals

The texts that are read as a whole number of a base, described apart from the reader: spacing, one
sign, perhaps a mark of the base, and a run of digits.  The number is the one that the digits have
in the base, negated behind a minus.
-/

namespace NativeBoundary.Text

/-! ## Trimmed texts -/

section Trimming

variable {inClass : Char → Bool} {text : List Char}

/-- Neither end of a text is in a class. -/
structure Trimmed (inClass : Char → Bool) (text : List Char) : Prop where
  first : ∀ c ∈ text.head?, inClass c = false
  last : ∀ c ∈ text.getLast?, inClass c = false

theorem trimEnd_eq (last : ∀ c ∈ text.getLast?, inClass c = false) :
    trimEnd inClass text = text :=
  List.rdropWhile_eq_self_iff.mpr fun nonempty => by
    rw [last _ (List.getLast?_eq_some_getLast nonempty)]
    exact Bool.false_ne_true

/-- A text that ends outside of a class is trimmed of its beginning only. -/
theorem takeWhile_append_trim (last : ∀ c ∈ text.getLast?, inClass c = false) :
    text.takeWhile inClass ++ trim inClass text = text := by
  have split := List.takeWhile_append_dropWhile (p := inClass) (l := text)
  have kept : trim inClass text = text.dropWhile inClass := by
    refine trimEnd_eq fun c ends => last c ?_
    rw [← split, List.getLast?_append, Option.mem_def.mp ends]
    rfl
  rw [kept, split]

theorem trim_append {before : List Char} (inside : ∀ c ∈ before, inClass c = true)
    (trimmed : Trimmed inClass text) : trim inClass (before ++ text) = text := by
  have begins : text.dropWhile inClass = text := by
    cases text with
    | nil => rfl
    | cons c rest => exact List.dropWhile_cons_of_neg (by simp [trimmed.first c rfl])
  rw [trim, List.dropWhile_append_of_pos inside, begins, trimEnd_eq trimmed.last]

theorem Trimmed.trim_eq (trimmed : Trimmed inClass text) : trim inClass text = text :=
  show trim inClass ([] ++ text) = text from trim_append nofun trimmed

theorem trimmed_trim (inClass : Char → Bool) (text : List Char) :
    Trimmed inClass (trim inClass text) where
  first c begins := by
    obtain ⟨after, split⟩ : trim inClass text <+: text.dropWhile inClass :=
      List.rdropWhile_prefix _ _
    have inner : c ∈ (text.dropWhile inClass).head? := by
      rw [← split, List.head?_append, Option.mem_def.mp begins]
      rfl
    have outside := List.head?_dropWhile_not inClass text
    rwa [Option.mem_def.mp inner] at outside
  last c ends := by
    have nonempty : trim inClass text ≠ [] := by
      rintro none
      simp [none] at ends
    rw [List.getLast?_eq_some_getLast nonempty] at ends
    have outside : ¬inClass ((trim inClass text).getLast nonempty) = true :=
      List.rdropWhile_last_not _ _ nonempty
    rw [Option.mem_some.mp ends] at outside
    exact Bool.eq_false_of_not_eq_true outside

theorem isSpacing_of_isBlank {c : Char} (other : isBlank c = false) : isSpacing c = false :=
  Bool.eq_false_of_not_eq_true fun spacing => by simp [isBlank_of_isSpacing spacing] at other

theorem Trimmed.spacing (trimmed : Trimmed isBlank text) :
    Trimmed isSpacing text :=
  ⟨fun c begins => isSpacing_of_isBlank (trimmed.first c begins),
    fun c ends => isSpacing_of_isBlank (trimmed.last c ends)⟩

end Trimming

/-! ## Characters -/

section Characters

variable {base : Nat} {c : Char}

theorem digit?_eq_none_of_mem
    (listed : c ∈ ['_', '+', '-', 'x', 'X', 'o', 'O']) : digit? base c = none := by
  simp only [List.mem_cons, List.not_mem_nil, or_false] at listed
  rcases listed with rfl | rfl | rfl | rfl | rfl | rfl | rfl <;> rfl

theorem ne_underscore_of_digit? {digit : Nat} (read : digit? base c = some digit) : c ≠ '_' := by
  rintro rfl
  rw [digit?_eq_none_of_mem (by decide)] at read
  cases read

theorem isBlank_of_visible (low : 32 < c.toNat) (high : c.toNat < 127) :
    isBlank c = false := by
  simp only [isBlank, isSeparator, isSpacing, Bool.or_eq_false_iff, Bool.and_eq_false_iff,
    decide_eq_false_iff_not, beq_eq_false_iff_ne]
  omega

theorem isBlank_of_decimalDigit? {value : Nat} (found : decimalDigit? c = some value) :
    isBlank c = false := by
  have apart : ∀ start ∈ decimalZeros, ∀ distance < 10,
      isBlank (Char.ofNat (start + distance)) = false := by
    decide +kernel
  simp only [decimalDigit?, Option.map_eq_some_iff] at found
  obtain ⟨start, first, rfl⟩ := found
  have inside := List.find?_some first
  simp only [Bool.and_eq_true, decide_eq_true_eq] at inside
  have outside := apart start (List.mem_of_find?_eq_some first) (c.toNat - start) (by omega)
  rwa [Nat.add_sub_cancel' inside.1, Char.ofNat_toNat] at outside

theorem isBlank_of_digit? {digit : Nat} (read : digit? base c = some digit) :
    isBlank c = false := by
  simp only [digit?, Option.filter_eq_some_iff] at read
  obtain ⟨value, -⟩ := read
  split at value
  · next small =>
    simp only [Bool.and_eq_true, decide_eq_true_eq, Char.le_def, UInt32.le_iff_toNat_le] at small
    exact isBlank_of_visible (Nat.lt_of_lt_of_le (by decide) small.1)
      (Nat.lt_of_le_of_lt small.2 (by decide))
  · split at value
    · next capital =>
      simp only [Bool.and_eq_true, decide_eq_true_eq, Char.le_def, UInt32.le_iff_toNat_le]
        at capital
      exact isBlank_of_visible (Nat.lt_of_lt_of_le (by decide) capital.1)
        (Nat.lt_of_le_of_lt capital.2 (by decide))
    · exact isBlank_of_decimalDigit? value

theorem digit?_eq_none_of_isSpacing (spacing : isSpacing c = true) : digit? base c = none :=
  Option.eq_none_iff_forall_not_mem.mpr fun digit read => by
    simp [isSpacing_of_isBlank (isBlank_of_digit? read)] at spacing

end Characters

namespace Numeral

variable {base : Nat} {text chars : List Char} {digits : List Nat}

/-! ## Runs of digits -/

/-- Digits of a base and of any script, with an underscore between two of them or none. -/
inductive Run (base : Nat) : List Char → List Nat → Prop where
  | last {c : Char} {digit : Nat} (read : digit? base c = some digit) : Run base [c] [digit]
  | next {c : Char} {digit : Nat} {chars : List Char} {digits : List Nat}
      (read : digit? base c = some digit) (rest : Run base chars digits) :
      Run base (c :: chars) (digit :: digits)
  | apart {c : Char} {digit : Nat} {chars : List Char} {digits : List Nat}
      (read : digit? base c = some digit) (rest : Run base chars digits) :
      Run base (c :: '_' :: chars) (digit :: digits)

namespace Run

theorem head (run : Run base chars digits) :
    ∃ c rest digit, chars = c :: rest ∧ digit? base c = some digit := by
  cases run <;> exact ⟨_, _, _, rfl, ‹_›⟩

theorem getLast (run : Run base chars digits) :
    ∃ c digit, chars.getLast? = some c ∧ digit? base c = some digit := by
  induction run with
  | last read => exact ⟨_, _, rfl, read⟩
  | next _ rest ih | apart _ rest ih =>
      obtain ⟨c, digit, ends, read⟩ := ih
      refine ⟨c, digit, ?_, read⟩
      simp [List.getLast?_cons, ends]

/-- Nothing but digits and underscores stands in a run. -/
theorem digit_or_underscore (run : Run base chars digits) :
    ∀ c ∈ chars, c = '_' ∨ ∃ digit, digit? base c = some digit := by
  induction run with
  | last read => simp [read]
  | next read rest ih => simpa [read] using ih
  | apart read rest ih => simpa [read] using ih

theorem not_mem (run : Run base chars digits) {c : Char} (noDigit : digit? base c = none)
    (other : c ≠ '_') : c ∉ chars := by
  intro member
  rcases run.digit_or_underscore c member with rfl | ⟨digit, read⟩
  · exact other rfl
  · rw [noDigit] at read
    cases read

theorem digitRun_eq (run : Run base chars digits) : digitRun base chars = some digits := by
  induction run with
  | last read => simp [digitRun, read]
  | @next c digit chars digits read rest ih =>
      -- The rest begins with a digit, so its first character is not dropped as an underscore.
      obtain ⟨d, others, _, rfl, found⟩ := rest.head
      rw [digitRun]
      · simp [read, ih]
      · simp
      · simp [ne_underscore_of_digit? found]
  | apart read rest ih => simp [digitRun, read, ih]

theorem of_digitRun (found : digitRun base chars = some digits) : Run base chars digits := by
  induction chars using digitRun.induct generalizing digits with
  | case1 => simp [digitRun] at found
  | case2 c =>
      simp only [digitRun, Option.map_eq_some_iff] at found
      obtain ⟨digit, read, rfl⟩ := found
      exact .last read
  | case3 c rest ih =>
      simp only [digitRun, Option.bind_eq_bind, Option.bind_eq_some_iff, Option.some.injEq]
        at found
      obtain ⟨digit, read, others, run, rfl⟩ := found
      exact .apart read (ih run)
  | case4 c rest single paired ih =>
      rw [digitRun] at found
      · simp only [Option.bind_eq_bind, Option.bind_eq_some_iff, Option.some.injEq] at found
        obtain ⟨digit, read, others, run, rfl⟩ := found
        exact .next read (ih run)
      · exact single
      · exact paired

end Run

/-! ## Signs and marks -/

inductive Sign where
  | absent | plus | minus
  deriving DecidableEq, Repr

namespace Sign

def written : Sign → List Char
  | absent => []
  | plus => ['+']
  | minus => ['-']

def isMinus : Sign → Bool
  | minus => true
  | absent | plus => false

def apply (sign : Sign) (value : Int) : Int :=
  if sign.isMinus then -value else value

theorem natAbs_apply (sign : Sign) (magnitude : Nat) :
    (sign.apply magnitude).natAbs = magnitude := by
  cases sign with
  | minus => exact Int.natAbs_neg _
  | absent | plus => rfl

theorem isBlank_of_head {sign : Sign} {behind : List Char}
    (begins : ∀ c ∈ behind.head?, isBlank c = false) :
    ∀ c ∈ (sign.written ++ behind).head?, isBlank c = false := by
  cases sign with
  | absent => exact begins
  | plus | minus =>
      intro c head
      rw [← Option.mem_some.mp head]
      rfl

end Sign

def Unsigned (text : List Char) : Prop :=
  text.head? ≠ some '-' ∧ text.head? ≠ some '+'

theorem splitSign_append {sign : Sign} (unsigned : sign = .absent → Unsigned text) :
    splitSign (sign.written ++ text) = (sign.isMinus, text) := by
  cases sign with
  | plus | minus => rfl
  | absent =>
      obtain ⟨notMinus, notPlus⟩ := unsigned rfl
      change splitSign text = (false, text)
      unfold splitSign
      split
      · simp at notMinus
      · simp at notPlus
      · rfl

theorem exists_sign (text : List Char) :
    ∃ (sign : Sign) (rest : List Char),
      text = sign.written ++ rest ∧ (sign = .absent → Unsigned rest) := by
  by_cases isMinus : text.head? = some '-'
  · obtain ⟨rest, rfl⟩ := List.head?_eq_some_iff.mp isMinus
    exact ⟨.minus, rest, rfl, nofun⟩
  · by_cases isPlus : text.head? = some '+'
    · obtain ⟨rest, rfl⟩ := List.head?_eq_some_iff.mp isPlus
      exact ⟨.plus, rest, rfl, nofun⟩
    · exact ⟨.absent, text, rfl, fun _ => ⟨isMinus, isPlus⟩⟩

/-- The letter that marks a base. -/
def Marks (base : Nat) (letter : Char) : Prop :=
  base = 16 ∧ (letter = 'x' ∨ letter = 'X') ∨ base = 8 ∧ (letter = 'o' ∨ letter = 'O')

/-- What may stand before the digits of a base: nothing, or its mark, perhaps with an underscore. -/
inductive Mark (base : Nat) : List Char → Prop where
  | absent : Mark base []
  | closed {zero letter : Char} (isZero : decimalDigit? zero = some 0)
      (marks : Marks base letter) : Mark base [zero, letter]
  | apart {zero letter : Char} (isZero : decimalDigit? zero = some 0)
      (marks : Marks base letter) : Mark base [zero, letter, '_']

theorem Mark.isBlank_of_head {mark : List Char} (marked : Mark base mark) :
    ∀ c ∈ mark.head?, isBlank c = false := by
  intro c head
  cases marked with
  | absent => cases head
  | closed isZero _ | apart isZero _ =>
      rw [← Option.mem_some.mp head]
      exact isBlank_of_decimalDigit? isZero

theorem digit?_of_marks {letter : Char} (marks : Marks base letter) :
    digit? base letter = none := by
  apply digit?_eq_none_of_mem
  rcases marks with ⟨-, rfl | rfl⟩ | ⟨-, rfl | rfl⟩ <;> decide

theorem ne_underscore_of_marks {letter : Char} (marks : Marks base letter) : letter ≠ '_' := by
  rcases marks with ⟨-, rfl | rfl⟩ | ⟨-, rfl | rfl⟩ <;> decide

theorem dropMark_of_marks {zero letter : Char} (isZero : decimalDigit? zero = some 0)
    (marks : Marks base letter) (rest : List Char) :
    dropMark base (zero :: letter :: rest) =
      match rest with
      | '_' :: chars => chars
      | chars => chars := by
  rcases marks with ⟨rfl, rfl | rfl⟩ | ⟨rfl, rfl | rfl⟩ <;>
    · simp only [dropMark, isZero]
      rfl

theorem dropMark_eq_self (unmarked : ∀ zero letter rest, text = zero :: letter :: rest →
    ¬(decimalDigit? zero = some 0 ∧ Marks base letter)) : dropMark base text = text := by
  unfold dropMark
  dsimp only
  split
  · next zero letter rest =>
    refine if_neg fun marked => unmarked zero letter rest rfl ?_
    simpa [Marks] using marked
  · rfl

theorem exists_mark (base : Nat) (text : List Char) :
    ∃ mark rest, text = mark ++ rest ∧ Mark base mark ∧ dropMark base text = rest := by
  by_cases marked : ∃ zero letter rest, text = zero :: letter :: rest ∧
      decimalDigit? zero = some 0 ∧ Marks base letter
  · obtain ⟨zero, letter, rest, rfl, isZero, marks⟩ := marked
    rw [dropMark_of_marks isZero marks]
    split
    · next chars => exact ⟨[zero, letter, '_'], chars, rfl, .apart isZero marks, rfl⟩
    · exact ⟨[zero, letter], rest, rfl, .closed isZero marks, rfl⟩
  · exact ⟨[], text, rfl, .absent, dropMark_eq_self fun zero letter rest same both =>
      marked ⟨zero, letter, rest, same, both⟩⟩

theorem dropMark_append {mark : List Char} (marked : Mark base mark)
    (run : Run base chars digits) : dropMark base (mark ++ chars) = chars := by
  cases marked with
  | absent =>
      refine dropMark_eq_self fun zero letter rest same both => ?_
      have inside : letter ∈ chars := by simp [show chars = _ from same]
      exact run.not_mem (digit?_of_marks both.2) (ne_underscore_of_marks both.2) inside
  | closed isZero marks =>
      obtain ⟨c, rest, digit, rfl, read⟩ := run.head
      rw [List.cons_append, List.cons_append, List.nil_append, dropMark_of_marks isZero marks]
      split
      · next same => exact absurd (List.cons.inj same).1 (ne_underscore_of_digit? read)
      · rfl
  | apart isZero marks => exact dropMark_of_marks isZero marks _

/-! ## Whole numbers -/

theorem unsigned_of_run {mark : List Char} (marked : Mark base mark)
    (run : Run base chars digits) : Unsigned (mark ++ chars) := by
  have neither {c : Char} (isDigit : digit? base c ≠ none ∨ decimalDigit? c ≠ none) :
      c ≠ '-' ∧ c ≠ '+' := by
    constructor <;> rintro rfl <;> exact isDigit.elim (absurd rfl) (absurd rfl)
  cases marked with
  | absent =>
      obtain ⟨c, rest, digit, rfl, read⟩ := run.head
      simpa [Unsigned] using neither (.inl (by simp [read]))
  | closed isZero _ | apart isZero _ => simpa [Unsigned] using neither (.inr (by simp [isZero]))

/-- Nothing is trimmed of a run, nor of what stands before it if that begins with no blank. -/
theorem trimmed_of_run {before : List Char} (sign : Sign)
    (begins : ∀ c ∈ before.head?, isBlank c = false) (run : Run base chars digits) :
    Trimmed isBlank (sign.written ++ (before ++ chars)) where
  first := by
    refine Sign.isBlank_of_head ?_
    cases before with
    | nil =>
        obtain ⟨c, rest, digit, rfl, read⟩ := run.head
        intro d head
        rw [← Option.mem_some.mp head]
        exact isBlank_of_digit? read
    | cons d rest => exact begins
  last c ends := by
    obtain ⟨d, digit, last, read⟩ := run.getLast
    rw [List.getLast?_append, List.getLast?_append, last] at ends
    rw [← Option.mem_some.mp ends]
    exact isBlank_of_digit? read

/-- Behind a sign and a mark stand the digits of the number; in base ten there may be too many. -/
theorem whole?_eq {sign : Sign} {mark : List Char}
    (split : trim isSpacing text = sign.written ++ (mark ++ chars)) (marked : Mark base mark)
    (run : Run base chars digits) :
    whole? base text =
      if base = 10 ∧ decimalDigitLimit < digits.length then none
      else some (sign.apply (valueOf base digits)) := by
  unfold whole?
  rw [split, splitSign_append fun _ => unsigned_of_run marked run]
  simp [dropMark_append marked run, run.digitRun_eq, Sign.apply]

theorem exists_of_whole? {value : Int} (read : whole? base text = some value) :
    ∃ (sign : Sign) (mark chars : List Char) (digits : List Nat),
      trim isSpacing text = sign.written ++ (mark ++ chars) ∧ Mark base mark ∧
        Run base chars digits := by
  obtain ⟨sign, unsigned, split, noSign⟩ := exists_sign (trim isSpacing text)
  obtain ⟨mark, chars, rfl, marked, dropped⟩ := exists_mark base unsigned
  unfold whole? at read
  rw [split, splitSign_append noSign] at read
  simp only [dropped, Option.bind_eq_bind, Option.bind_eq_some_iff] at read
  obtain ⟨digits, found, -⟩ := read
  exact ⟨sign, mark, chars, digits, split, marked, .of_digitRun found⟩

/-- The digits of a number stand in the order of their weights, the greatest first. -/
theorem valueOf_eq_ofDigits (base : Nat) (digits : List Nat) :
    valueOf base digits = Nat.ofDigits base digits.reverse := by
  rw [valueOf, Nat.ofDigits_eq_foldr, List.foldr_reverse]
  simp [Nat.add_comm, Nat.mul_comm]

/-- A number is written unless it takes more than so many decimal digits. -/
theorem isWritten_iff {number : Int} :
    isWritten number = true ↔ number.natAbs < 10 ^ decimalDigitLimit := by
  have power (digits : Nat) : Nat.pow 10 digits = 10 ^ digits := rfl
  rw [isWritten, decide_eq_true_iff, power]

end Numeral

end NativeBoundary.Text

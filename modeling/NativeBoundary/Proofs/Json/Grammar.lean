import Mathlib.Data.List.Nodup
import NativeBoundary.Json.Canonical
import NativeBoundary.Json.Reader
import NativeBoundary.Proofs.Text.Kept

/-!
# Texts of a value

All texts in which a value without decimals can be written: spacing is free, and so is the choice
between a character and its escapes.  The members of an object stand in their order, under distinct
names.  A part of a value is written at the front of a text, with a rest behind it.
-/

namespace NativeBoundary.Json

open Text Surrogate

/-- One way to write a character between quotes. -/
inductive Spelling : Char → List Char → Prop where
  | plain {c : Char} (visible : 32 ≤ c.toNat) (notQuote : c ≠ '"') (notBackslash : c ≠ '\\') :
      Spelling c (kept c)
  | short {mark c : Char} (known : simpleEscape? mark = some c) : Spelling c ['\\', mark]
  | unit {first second third fourth : Char} {unit : Nat}
      (digits : unit? first second third fourth = some unit) (whole : isHalf unit = false) :
      Spelling (Char.ofNat unit) ['\\', 'u', first, second, third, fourth]
  | pair {first second third fourth fifth sixth seventh eighth : Char} {leading trailing : Nat}
      (digits : unit? first second third fourth = some leading)
      (isFirst : isLeading leading = true)
      (others : unit? fifth sixth seventh eighth = some trailing)
      (isSecond : isTrailing trailing = true) :
      Spelling (Char.ofNat (pairValue leading trailing))
        ['\\', 'u', first, second, third, fourth, '\\', 'u', fifth, sixth, seventh, eighth]

/-- Characters and the closing quote, with the rest behind it. -/
inductive Spelled : List Char → List Char → List Char → Prop where
  | close {rest : List Char} : Spelled [] ('"' :: rest) rest
  | char {c : Char} {points spelling text rest : List Char} (spells : Spelling c spelling)
      (others : Spelled points text rest) : Spelled (c :: points) (spelling ++ text) rest

/-- Nothing but spacing stands in front of the rest. -/
def Blank (text rest : List Char) : Prop :=
  ∃ spacing, (∀ c ∈ spacing, isSpace c = true) ∧ text = spacing ++ rest

/-- A whole number ends here. -/
def NumberEnds (rest : List Char) : Prop :=
  ∀ c ∈ rest.head?, c.isDigit = false ∧ c ≠ '.' ∧ c ≠ 'e' ∧ c ≠ 'E'

/-- What can stand at the front of a text: a value, the items of an array up to its bracket, one
member of an object, or all of them up to its brace. -/
inductive Part where
  | value (value : Json)
  | items (items : List Json)
  | member (name : String) (value : Json)
  | members (members : List (String × Json))

/-- The part is written at the front of the text, with the rest behind it. -/
inductive Written : Part → List Char → List Char → Prop where
  | null {rest : List Char} : Written (.value .null) ('n' :: 'u' :: 'l' :: 'l' :: rest) rest
  | yes {rest : List Char} : Written (.value (.bool true)) ('t' :: 'r' :: 'u' :: 'e' :: rest) rest
  | no {rest : List Char} :
      Written (.value (.bool false)) ('f' :: 'a' :: 'l' :: 's' :: 'e' :: rest) rest
  | integer {number : Int} {rest : List Char} (ends : NumberEnds rest) :
      Written (.value (.integer number)) (integerText number ++ rest) rest
  | string {points text rest : List Char} (spelled : Spelled points text rest) :
      Written (.value (.string (String.ofList (points.flatMap kept)))) ('"' :: text) rest
  | noItems {text rest : List Char} (blank : Blank text (']' :: rest)) :
      Written (.value (.array [])) ('[' :: text) rest
  | array {items : List Json} {text inner rest : List Char} (blank : Blank text inner)
      (inside : Written (.items items) inner rest) :
      Written (.value (.array items)) ('[' :: text) rest
  | noMembers {text rest : List Char} (blank : Blank text ('}' :: rest)) :
      Written (.value (.object [])) ('{' :: text) rest
  | object {members : List (String × Json)} {text inner rest : List Char}
      (distinct : (members.map Prod.fst).Nodup) (blank : Blank text inner)
      (inside : Written (.members members) inner rest) :
      Written (.value (.object members)) ('{' :: text) rest
  | lastItem {item : Json} {text after rest : List Char}
      (first : Written (.value item) text after) (closed : Blank after (']' :: rest)) :
      Written (.items [item]) text rest
  | item {item : Json} {others : List Json} {text after behind next rest : List Char}
      (first : Written (.value item) text after) (comma : Blank after (',' :: behind))
      (blank : Blank behind next) (remaining : Written (.items others) next rest) :
      Written (.items (item :: others)) text rest
  | member {value : Json} {points text afterName afterColon inner rest : List Char}
      (named : Spelled points text afterName) (colon : Blank afterName (':' :: afterColon))
      (blank : Blank afterColon inner) (inside : Written (.value value) inner rest) :
      Written (.member (String.ofList (points.flatMap kept)) value) ('"' :: text) rest
  | lastMember {name : String} {value : Json} {text after rest : List Char}
      (first : Written (.member name value) text after) (closed : Blank after ('}' :: rest)) :
      Written (.members [(name, value)]) text rest
  | moreMembers {name : String} {value : Json} {others : List (String × Json)}
      {text after behind next rest : List Char} (first : Written (.member name value) text after)
      (comma : Blank after (',' :: behind)) (blank : Blank behind next)
      (remaining : Written (.members others) next rest) :
      Written (.members ((name, value) :: others)) text rest

/-- The text is the value between spacing. -/
def WrittenAs (value : Json) (text : String) : Prop :=
  ∃ inner rest, Blank text.toList inner ∧ Written (.value value) inner rest ∧ Blank rest []

/-! ## Spacing -/

theorem Blank.refl (text : List Char) : Blank text text := ⟨[], List.forall_mem_nil _, rfl⟩

theorem Blank.length_le {text rest : List Char} (blank : Blank text rest) :
    rest.length ≤ text.length := by
  obtain ⟨spacing, -, rfl⟩ := blank
  rw [List.length_append]
  exact Nat.le_add_left _ _

/-- Spacing is skipped up to the first character behind it. -/
theorem Blank.skipSpace_cons {text rest : List Char} {c : Char} (blank : Blank text (c :: rest))
    (visible : isSpace c = false) : skipSpace text = c :: rest := by
  obtain ⟨spacing, spaces, rfl⟩ := blank
  rw [skipSpace, List.dropWhile_append_of_pos spaces]
  exact List.dropWhile_cons_of_neg (by rw [visible]; exact Bool.false_ne_true)

theorem Blank.skipSpace_nil {text : List Char} (blank : Blank text []) : skipSpace text = [] := by
  obtain ⟨spacing, spaces, rfl⟩ := blank
  rw [skipSpace, List.dropWhile_append_of_pos spaces]
  rfl

/-! ## The front of a text -/

/-- Neither spacing nor a closing bracket. -/
def isOpening (c : Char) : Bool := !isSpace c && c ≠ ']' && c ≠ '}'

theorem isOpening_of_isDigit {c : Char} (digit : c.isDigit = true) : isOpening c = true := by
  have differs {other : Char} (noDigit : other.isDigit = false) : c ≠ other := by
    rintro rfl
    rw [digit] at noDigit
    cases noDigit
  have visible : isSpace c = false := by
    simp [isSpace, differs (by decide : ' '.isDigit = false),
      differs (by decide : '\n'.isDigit = false), differs (by decide : '\r'.isDigit = false),
      differs (by decide : '\t'.isDigit = false)]
  simp [isOpening, visible, differs (by decide : ']'.isDigit = false),
    differs (by decide : '}'.isDigit = false)]

theorem integerText_cons (number : Int) :
    ∃ c rest, integerText number = c :: rest ∧ (c = '-' ∨ c.isDigit = true) := by
  unfold integerText
  split
  · exact ⟨'-', _, rfl, .inl rfl⟩
  · cases digits : Nat.toDigits 10 number.natAbs with
    | nil => exact absurd digits Nat.toDigits_ne_nil
    | cons c rest =>
        have inside : c ∈ Nat.toDigits 10 number.natAbs := digits ▸ List.mem_cons_self
        exact ⟨c, rest, rfl, .inr (Nat.isDigit_of_mem_toDigits (by decide) (by decide) inside)⟩

/-- Every part begins with a character that no spacing and no bracket behind it is mistaken for. -/
theorem Written.starts {part : Part} {text rest : List Char} (written : Written part text rest) :
    ∃ c behind, text = c :: behind ∧ isOpening c = true := by
  induction written with
  | @integer number rest ends =>
      obtain ⟨c, behind, starts, first⟩ := integerText_cons number
      refine ⟨c, behind ++ rest, by rw [starts]; rfl, ?_⟩
      rcases first with rfl | digit
      · decide
      · exact isOpening_of_isDigit digit
  | lastItem _ _ ih => exact ih
  | item _ _ _ _ ih _ => exact ih
  | lastMember _ _ ih => exact ih
  | moreMembers _ _ _ _ ih _ => exact ih
  | _ => exact ⟨_, _, rfl, by decide⟩

/-- Spacing in front of a part is skipped, and nothing else. -/
theorem Written.skipSpace_eq {part : Part} {text inner rest : List Char}
    (written : Written part inner rest) (blank : Blank text inner) : skipSpace text = inner := by
  obtain ⟨c, behind, rfl, opening⟩ := written.starts
  refine blank.skipSpace_cons ?_
  simp only [isOpening, Bool.and_eq_true, Bool.not_eq_true'] at opening
  exact opening.1.1

theorem Spelled.length_lt {points text rest : List Char} (spelled : Spelled points text rest) :
    rest.length < text.length := by
  induction spelled with
  | close => exact Nat.lt_succ_self _
  | char _ _ ih =>
      rw [List.length_append]
      omega

/-- No part is empty. -/
theorem Written.length_lt {part : Part} {text rest : List Char} (written : Written part text rest) :
    rest.length < text.length := by
  induction written with
  | null => simp only [List.length_cons]; omega
  | yes => simp only [List.length_cons]; omega
  | no => simp only [List.length_cons]; omega
  | @integer number rest ends =>
      obtain ⟨c, behind, starts, -⟩ := integerText_cons number
      simp only [starts, List.length_append, List.length_cons]
      omega
  | string spelled => exact Nat.lt_succ_of_lt spelled.length_lt
  | noItems blank => exact Nat.lt_succ_of_lt blank.length_le
  | array blank _ ih => exact Nat.lt_succ_of_lt (Nat.lt_of_lt_of_le ih blank.length_le)
  | noMembers blank => exact Nat.lt_succ_of_lt blank.length_le
  | object _ blank _ ih => exact Nat.lt_succ_of_lt (Nat.lt_of_lt_of_le ih blank.length_le)
  | lastItem _ closed ih => exact Nat.lt_trans closed.length_le ih
  | item _ comma blank _ ih ihOthers =>
      exact Nat.lt_trans (Nat.lt_of_lt_of_le ihOthers blank.length_le)
        (Nat.lt_trans comma.length_le ih)
  | member named colon blank _ ih =>
      have afterColon := Nat.lt_of_lt_of_le ih blank.length_le
      exact Nat.lt_succ_of_lt (Nat.lt_trans afterColon
        (Nat.lt_trans colon.length_le named.length_lt))
  | lastMember _ closed ih => exact Nat.lt_trans closed.length_le ih
  | moreMembers _ comma blank _ ih ihOthers =>
      exact Nat.lt_trans (Nat.lt_of_lt_of_le ihOthers blank.length_le)
        (Nat.lt_trans comma.length_le ih)

end NativeBoundary.Json

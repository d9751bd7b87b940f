import NativeBoundary.TypeExpr.Token

/-!
# The tokens that a text is written with

Blanks may stand anywhere between tokens, a sign stands for itself, and an identifier ends only
where no further character of an identifier follows, so that it reaches as far as it can.  Scanning
finds the tokens of every text that is written with some, and no other text has tokens.
-/

namespace NativeBoundary.TypeExpr

namespace Token

/-- A letter or an underscore, with letters, underscores and digits behind it. -/
def isIdentifier (name : String) : Bool :=
  match name.toList with
  | [] => false
  | first :: rest => isLetter first && rest.all isNameChar

/-- The text does not go on with a character of an identifier. -/
def Ends (text : List Char) : Prop := ∀ c ∈ text.head?, isNameChar c = false

theorem exists_of_isIdentifier {name : String} (shape : isIdentifier name = true) :
    ∃ first rest, name.toList = first :: rest ∧ isLetter first = true ∧
      ∀ c ∈ rest, isNameChar c = true := by
  unfold isIdentifier at shape
  split at shape
  · cases shape
  · next first rest split =>
    obtain ⟨letter, others⟩ := (Bool.and_eq_true _ _).mp shape
    exact ⟨first, rest, split, letter, List.all_eq_true.mp others⟩

theorem isIdentifier_ofList {first : Char} {rest : List Char} (letter : isLetter first = true)
    (others : ∀ c ∈ rest, isNameChar c = true) :
    isIdentifier (String.ofList (first :: rest)) = true := by
  rw [isIdentifier, String.toList_ofList]
  exact (Bool.and_eq_true _ _).mpr ⟨letter, List.all_eq_true.mpr others⟩

theorem not_isBlank_of_isLetter {c : Char} (letter : isLetter c = true) :
    Text.isBlank c = false := by
  change ((decide (65 ≤ c.val ∧ c.val ≤ 90) || (decide (97 ≤ c.val) && decide (c.val ≤ 122))) ||
    decide (c = '_')) = true at letter
  simp only [Bool.or_eq_true, Bool.and_eq_true, decide_eq_true_eq, UInt32.le_iff_toNat_le] at letter
  change ((65 ≤ c.toNat ∧ c.toNat ≤ 90) ∨ (97 ≤ c.toNat ∧ c.toNat ≤ 122)) ∨ c = '_' at letter
  simp only [Text.isBlank, Text.isSeparator, Text.isSpacing, Bool.or_eq_false_iff,
    Bool.and_eq_false_iff, decide_eq_false_iff_not, beq_eq_false_iff_ne]
  rcases letter with (⟨low, high⟩ | ⟨low, high⟩) | rfl
  · omega
  · omega
  · decide

/-- A sign is no blank and begins no identifier. -/
theorem plain_of_sign {c : Char} {token : Token} (stands : sign? c = some token) :
    Text.isBlank c = false ∧ isLetter c = false := by
  unfold sign? at stands
  split at stands
  · decide
  · decide
  · decide
  · decide
  · cases stands

end Token

open Token

/-- The text is written with the tokens. -/
inductive Lexed : List Char → List Token → Prop where
  | done : Lexed [] []
  | blank {c : Char} {text : List Char} {tokens : List Token} (blank : Text.isBlank c = true)
      (behind : Lexed text tokens) : Lexed (c :: text) tokens
  | identifier {name : String} {text : List Char} {tokens : List Token}
      (shape : isIdentifier name = true) (ends : Ends text) (behind : Lexed text tokens) :
      Lexed (name.toList ++ text) (.identifier name :: tokens)
  | sign {c : Char} {token : Token} {text : List Char} {tokens : List Token}
      (stands : sign? c = some token) (behind : Lexed text tokens) :
      Lexed (c :: text) (token :: tokens)

theorem takeWhile_of_ends {text : List Char} (ends : Ends text) :
    text.takeWhile isNameChar = [] ∧ text.dropWhile isNameChar = text := by
  cases text with
  | nil => exact ⟨rfl, rfl⟩
  | cons c rest =>
      have outside : isNameChar c = false := ends c rfl
      exact ⟨List.takeWhile_cons_of_neg (by simp [outside]),
        List.dropWhile_cons_of_neg (by simp [outside])⟩

theorem ends_dropWhile (text : List Char) : Ends (text.dropWhile isNameChar) := by
  intro c first
  have outside := List.head?_dropWhile_not isNameChar text
  rw [Option.mem_def.mp first] at outside
  simpa using outside

theorem lexed_of_scan {text : List Char} {tokens : List Token} (scanned : scan text = .ok tokens) :
    Lexed text tokens := by
  fun_induction scan text generalizing tokens with
  | case1 =>
      cases scanned
      exact .done
  | case2 c rest blank ih => exact .blank blank (ih scanned)
  | case3 c rest _ letter name others found =>
      rename_i ih
      cases scanned
      have split : c :: rest = name.toList ++ rest.dropWhile isNameChar := by
        rw [String.toList_ofList, List.cons_append, List.takeWhile_append_dropWhile]
      rw [split]
      have shape : Token.isIdentifier name = true :=
        isIdentifier_ofList letter (List.all_eq_true.mp List.all_takeWhile)
      exact .identifier shape (ends_dropWhile rest) (ih found)
  | case4 => cases scanned
  | case5 => cases scanned
  | case6 c rest _ _ token stands others found ih =>
      cases scanned
      exact .sign stands (ih found)
  | case7 => cases scanned

theorem scan_of_lexed {text : List Char} {tokens : List Token} (lexed : Lexed text tokens) :
    scan text = .ok tokens := by
  induction lexed with
  | done => rw [scan]
  | blank blank _ ih => rw [scan, if_pos blank, ih]
  | @identifier name text tokens shape ends _ ih =>
      obtain ⟨first, rest, split, letter, others⟩ := exists_of_isIdentifier shape
      have taken : (rest ++ text).takeWhile isNameChar = rest := by
        rw [List.takeWhile_append_of_pos others, (takeWhile_of_ends ends).1, List.append_nil]
      have dropped : (rest ++ text).dropWhile isNameChar = text := by
        rw [List.dropWhile_append_of_pos others, (takeWhile_of_ends ends).2]
      have visible : ¬ Text.isBlank first = true := by simp [not_isBlank_of_isLetter letter]
      rw [split, List.cons_append, scan, if_neg visible, if_pos letter]
      simp only [taken, dropped, ih, ← split, String.ofList_toList]
  | @sign c token text tokens stands _ ih =>
      obtain ⟨visible, noLetter⟩ := plain_of_sign stands
      rw [scan, if_neg (by simp [visible]), if_neg (by simp [noLetter])]
      simp only [stands, ih]

/-- A text is written with one list of tokens only. -/
theorem Lexed.unique {text : List Char} {first second : List Token} (lexed : Lexed text first)
    (other : Lexed text second) : first = second :=
  Except.ok.inj ((scan_of_lexed lexed).symm.trans (scan_of_lexed other))

theorem Lexed.isIdentifier {text : List Char} {tokens : List Token} (lexed : Lexed text tokens)
    {name : String} (member : .identifier name ∈ tokens) : Token.isIdentifier name = true := by
  induction lexed with
  | done => cases member
  | blank _ _ ih => exact ih member
  | identifier shape _ _ ih =>
      rcases List.mem_cons.mp member with same | later
      · cases same
        exact shape
      · exact ih later
  | @sign c token text tokens stands _ ih =>
      rcases List.mem_cons.mp member with rfl | later
      · unfold sign? at stands
        split at stands <;> cases stands
      · exact ih later

/-- What scanning stops at is a character of the text, and not a blank. -/
theorem scan_error {text : List Char} {bad : Char} (stopped : scan text = .error bad) :
    bad ∈ text ∧ Text.isBlank bad = false := by
  fun_induction scan text with
  | case1 => cases stopped
  | case2 c rest _ ih =>
      obtain ⟨member, visible⟩ := ih stopped
      exact ⟨List.mem_cons_of_mem c member, visible⟩
  | case3 => cases stopped
  | case4 c rest _ _ _ found ih =>
      cases stopped
      obtain ⟨member, visible⟩ := ih found
      exact ⟨List.mem_cons_of_mem c ((List.dropWhile_sublist isNameChar).mem member), visible⟩
  | case5 c rest visible =>
      cases stopped
      exact ⟨List.mem_cons_self, by simpa using visible⟩
  | case6 => cases stopped
  | case7 c rest _ _ _ _ _ found ih =>
      cases stopped
      obtain ⟨member, visible⟩ := ih found
      exact ⟨List.mem_cons_of_mem c member, visible⟩

end NativeBoundary.TypeExpr

import NativeBoundary.Proofs.TypeExpr.Depth

/-!
# The grammar of type texts in documents

A type is a base type or a base type with a question mark behind it.  A base type is a name that is
not reserved, or `sequence` with one type in angle brackets, or `record` with two.  A `Phrase` is a
derivation of this grammar, with the tokens that it derives and the tree that it stands for.  The
parser reads the texts whose tokens have a derivation and no others, there is only one for each of
them, and its tree is what the parser answers.
-/

namespace NativeBoundary.TypeExpr

/-- The names that a spelling uses for its constructors. -/
def Spelling.reserved : Spelling → List String
  | .document => ["sequence", "record"]
  | .metadata => ["Vec", "HashMap", "Option"]

/-- A name that stands for a type of its own in documents. -/
structure PlainName where
  text : String
  shape : Token.isIdentifier text = true
  free : text ∉ Spelling.document.reserved

/-- Derivations of a type; the flag tells whether a question mark stands at the end. -/
inductive Phrase where
  | plain (name : PlainName) (marked : Bool)
  | sequence (element : Phrase) (marked : Bool)
  | map (key value : Phrase) (marked : Bool)

namespace Phrase

def mark (marked : Bool) : List Token := if marked then [.question] else []

/-- The sentence that is derived. -/
def tokens : Phrase → List Token
  | .plain name marked => .identifier name.text :: mark marked
  | .sequence element marked =>
      .identifier "sequence" :: .opening :: (element.tokens ++ .closing :: mark marked)
  | .map key value marked =>
      .identifier "record" :: .opening ::
        (key.tokens ++ .comma :: (value.tokens ++ .closing :: mark marked))

/-- The tree of a derivation, with the location at each node. -/
def expr (location : Option Location) : Phrase → TypeExpr
  | .plain name marked => { named name.text with nullable := marked, location }
  | .sequence element marked =>
      { sequenceOf (element.expr location) with nullable := marked, location }
  | .map key value marked =>
      { mapOf (key.expr location) (value.expr location) with nullable := marked, location }

end Phrase

variable {text : String} {location : Option Location}

theorem head_of_free {name : String} (free : name ∉ Spelling.document.reserved) :
    Spelling.document.head name = .plain name := by
  unfold Spelling.head
  split <;> simp_all [Spelling.reserved]

theorem free_of_head {name written : String} (head : Spelling.document.head name = .plain written) :
    written = name ∧ name ∉ Spelling.document.reserved := by
  unfold Spelling.head at head
  split at head <;> simp_all [Spelling.reserved]

theorem eq_sequence_of_head {name : String} (head : Spelling.document.head name = .sequence) :
    name = "sequence" := by
  unfold Spelling.head at head
  split at head <;> simp_all

theorem eq_record_of_head {name : String} (head : Spelling.document.head name = .map) :
    name = "record" := by
  unfold Spelling.head at head
  split at head <;> simp_all

theorem nullable_eq_self {expr : TypeExpr} (single : expr.nullable = false) :
    { expr with nullable := false } = expr := by
  cases expr
  cases single
  rfl

/-- A base type is as nullable as it is marked. -/
theorem markNullable_mark {expr : TypeExpr} (single : expr.nullable = false) (marked : Bool)
    {rest : List Token} (unmarked : rest.head? ≠ some .question) :
    markNullable .document expr (Phrase.mark marked ++ rest) =
      ({ expr with nullable := marked }, rest) := by
  cases marked with
  | true => rfl
  | false =>
      have same : expr = { expr with nullable := false } := (nullable_eq_self single).symm
      cases rest with
      | nil => exact Prod.ext same rfl
      | cons token behind =>
          cases token with
          | question => exact absurd rfl unmarked
          | identifier _ | opening | closing | comma => exact Prod.ext same rfl

theorem exists_mark {expr marked : TypeExpr} {after rest : List Token}
    (single : expr.nullable = false)
    (same : markNullable .document expr after = (marked, rest)) :
    ∃ flag, after = Phrase.mark flag ++ rest ∧ marked = { expr with nullable := flag } := by
  rcases markNullable_cases same with ⟨-, rfl, rfl⟩ | ⟨rfl, rfl, -⟩
  · exact ⟨true, rfl, rfl⟩
  · exact ⟨false, rfl, (nullable_eq_self single).symm⟩

namespace Phrase

/-- What a derivation derives is read as its tree, wherever no further question mark follows. -/
theorem reads (phrase : Phrase) (location : Option Location) {rest : List Token}
    (unmarked : rest.head? ≠ some .question) :
    Reads .document location (phrase.tokens ++ rest) (phrase.expr location) rest := by
  induction phrase generalizing rest with
  | plain name marked =>
      exact .plain (head_of_free name.free) (markNullable_mark rfl marked unmarked)
  | sequence element marked ih =>
      rw [tokens, List.cons_append, List.cons_append, List.append_assoc]
      exact .sequence rfl (ih (by simp)) (markNullable_mark rfl marked unmarked)
  | map key value marked ihKey ihValue =>
      rw [tokens, List.cons_append, List.cons_append, List.append_assoc, List.cons_append,
        List.append_assoc]
      exact .map rfl (ihKey (by simp)) (ihValue (by simp)) (markNullable_mark rfl marked unmarked)

theorem reads_tokens (phrase : Phrase) (location : Option Location) :
    Reads .document location phrase.tokens (phrase.expr location) [] := by
  have reads : Reads .document location (phrase.tokens ++ []) (phrase.expr location) [] :=
    phrase.reads location (by simp)
  rwa [List.append_nil] at reads

/-- What is read has a derivation. -/
theorem exists_of_reads {tokens rest : List Token} {expr : TypeExpr}
    (reads : Reads .document location tokens expr rest)
    (shapes : ∀ name, .identifier name ∈ tokens → Token.isIdentifier name = true) :
    ∃ phrase : Phrase, tokens = phrase.tokens ++ rest ∧ phrase.expr location = expr := by
  induction reads with
  | @plain name written behind rest expr head marked =>
      obtain ⟨rfl, free⟩ := free_of_head head
      obtain ⟨flag, rfl, rfl⟩ := exists_mark rfl marked
      exact ⟨.plain ⟨written, shapes written List.mem_cons_self, free⟩ flag, rfl, rfl⟩
  | sequence head _ marked ih =>
      cases eq_sequence_of_head head
      obtain ⟨element, rfl, rfl⟩ := ih fun name member => shapes name (by simp [member])
      obtain ⟨flag, rfl, rfl⟩ := exists_mark rfl marked
      exact ⟨.sequence element flag, by simp [Phrase.tokens], rfl⟩
  | map head _ _ marked ihKey ihValue =>
      cases eq_record_of_head head
      obtain ⟨key, rfl, rfl⟩ := ihKey fun name member => shapes name (by simp [member])
      obtain ⟨value, rfl, rfl⟩ := ihValue fun name member => shapes name (by simp [member])
      obtain ⟨flag, rfl, rfl⟩ := exists_mark rfl marked
      exact ⟨.map key value flag, by simp [Phrase.tokens], rfl⟩
  | option head _ _ _ => cases spelling_of_option head

theorem expr_injective : Function.Injective (expr location) := by
  intro first second same
  induction first generalizing second with
  | plain name marked =>
      cases second with
      | plain other flag =>
          obtain ⟨text, _, _⟩ := name
          obtain ⟨otherText, _, _⟩ := other
          cases same
          rfl
      | sequence _ _ | map _ _ _ => cases same
  | sequence element marked ih =>
      cases second with
      | sequence other flag =>
          obtain ⟨sameElement, rfl⟩ : element.expr location = other.expr location ∧
              marked = flag := by simpa [expr, sequenceOf] using same
          rw [ih sameElement]
      | plain _ _ | map _ _ _ => cases same
  | map key value marked ihKey ihValue =>
      cases second with
      | map otherKey otherValue flag =>
          obtain ⟨sameKey, sameValue, rfl⟩ : key.expr location = otherKey.expr location ∧
              value.expr location = otherValue.expr location ∧ marked = flag := by
            simpa [expr, mapOf] using same
          rw [ihKey sameKey, ihValue sameValue]
      | plain _ _ | sequence _ _ => cases same

/-- No sentence has two derivations. -/
theorem tokens_injective : Function.Injective tokens := by
  intro first second same
  have readFirst := first.reads_tokens none
  rw [same] at readFirst
  exact expr_injective (readFirst.unique (second.reads_tokens none)).1

/-- The text is written with the sentence of the derivation. -/
def Spells (phrase : Phrase) (text : String) : Prop := Lexed text.toList phrase.tokens

end Phrase

theorem parse_document_eq_ok_iff {expr : TypeExpr} :
    parse .document text location = .ok expr ↔
      ∃ phrase : Phrase, phrase.Spells text ∧ phrase.expr location = expr := by
  rw [parse_eq_ok_iff]
  constructor
  · rintro ⟨tokens, lexed, reads⟩
    obtain ⟨phrase, rfl, same⟩ := Phrase.exists_of_reads reads fun name => lexed.isIdentifier
    exact ⟨phrase, by rwa [List.append_nil] at lexed, same⟩
  · rintro ⟨phrase, spells, rfl⟩
    exact ⟨phrase.tokens, spells, phrase.reads_tokens location⟩

/-- A text is parsed exactly if it is a sentence of the grammar, and then the answer is the tree of
its only derivation, with the given location at each node.  Every other text is malformed, and what
is named as a character of no token is a character of the text.  A reader with a limit reads the
same texts as far as they stay within it. -/
theorem parse_decides_grammar (text : String) (location : Option Location) :
    (∀ expr, parse .document text location = .ok expr ↔
      ∃ phrase : Phrase, phrase.Spells text ∧ phrase.expr location = expr) ∧
    (∀ first second : Phrase, first.Spells text → second.Spells text → first = second) ∧
    (∀ problem, parse .document text location = .error problem →
      problem.cause.family = .parse ∧ ((∃ tokens, Lexed text.toList tokens) ∨
        ∃ bad ∈ text.toList, Text.isBlank bad = false ∧
          problem.cause = .unexpectedCharacter bad text)) ∧
    ∀ expr, readText .document text location = .ok expr ↔
      parse .document text location = .ok expr ∧ expr.nesting .document ≤ deepestText := by
  refine ⟨fun _ => parse_document_eq_ok_iff, fun first second spells others => ?_,
    fun _ => parse_refusal, fun _ => readText_eq_ok_iff⟩
  exact Phrase.tokens_injective (spells.unique others)

theorem parse_decides_grammar_route :
    ∃ phrase : Phrase, phrase.Spells " record<string , sequence< Stop? >?>" ∧
      (∀ other : Phrase, other.Spells " record<string , sequence< Stop? >?>" → other = phrase) ∧
      phrase.expr none = mapOf (named "string")
        { sequenceOf { named "Stop" with nullable := true } with nullable := true } := by
  obtain ⟨grammar, single, -⟩ :=
    parse_decides_grammar " record<string , sequence< Stop? >?>" none
  have parsed : parse .document " record<string , sequence< Stop? >?>" none =
      .ok (mapOf (named "string")
        { sequenceOf { named "Stop" with nullable := true } with nullable := true }) := by
    decide +kernel
  obtain ⟨phrase, spells, tree⟩ := (grammar _).mp parsed
  exact ⟨phrase, spells, fun other others => single other phrase others spells, tree⟩

end NativeBoundary.TypeExpr

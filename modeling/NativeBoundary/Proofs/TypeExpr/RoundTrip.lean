import NativeBoundary.Proofs.TypeExpr.Grammar

/-!
# Printed expressions are read back

An expression whose nodes have exactly the parts that their shapes call for is printed as a sentence
of the grammar of documents, which is its own derivation.  So reading the printed text gives the
expression back, and a text that was read may be replaced by what is printed for it.
-/

namespace NativeBoundary.TypeExpr

/-- No node has a location, and each has the parts of its shape and no others, with names that stand
for themselves. -/
def Printable : TypeExpr → Prop
  | ⟨.identifier, some name, none, none, none, _, none⟩ =>
      Token.isIdentifier name = true ∧ name ∉ Spelling.document.reserved
  | ⟨.sequence, none, some element, none, none, _, none⟩ => Printable element
  | ⟨.map, none, none, some key, some value, _, none⟩ => Printable key ∧ Printable value
  | _ => False
termination_by structural expr => expr

theorem Printable.exists_phrase {expr : TypeExpr} (printable : Printable expr) :
    ∃ phrase : Phrase, phrase.expr none = expr := by
  fun_induction Printable expr with
  | case1 name marked => exact ⟨.plain ⟨name, printable.1, printable.2⟩ marked, rfl⟩
  | case2 element marked ih =>
      obtain ⟨phrase, rfl⟩ := ih printable
      exact ⟨.sequence phrase marked, rfl⟩
  | case3 key value marked ihKey ihValue =>
      obtain ⟨keyPhrase, rfl⟩ := ihKey printable.1
      obtain ⟨valuePhrase, rfl⟩ := ihValue printable.2
      exact ⟨.map keyPhrase valuePhrase marked, rfl⟩
  | case4 => exact printable.elim

/-! ## The characters of a printed expression -/

/-- The text is written with the tokens, whatever follows it and is no part of a name. -/
def Writes (text : List Char) (tokens : List Token) : Prop :=
  ∀ ⦃behind : List Char⦄ ⦃others : List Token⦄, Token.Ends behind → Lexed behind others →
    Lexed (text ++ behind) (tokens ++ others)

namespace Writes

variable {name : String} {text second : List Char} {tokens others : List Token}

theorem lexed (writes : Writes text tokens) : Lexed text tokens := by
  have alone : Lexed (text ++ []) (tokens ++ []) := writes nofun .done
  rwa [List.append_nil, List.append_nil] at alone

theorem word (shape : Token.isIdentifier name = true) :
    Writes name.toList [.identifier name] :=
  fun _ _ ends behind => .identifier shape ends behind

/-- A name with one part in brackets. -/
theorem single (shape : Token.isIdentifier name = true) (part : Writes text tokens) :
    Writes (name.toList ++ '<' :: (text ++ ['>']))
      (.identifier name :: .opening :: (tokens ++ [.closing])) := by
  intro behind rest _ lexed
  have closed : Lexed ('>' :: behind) (.closing :: rest) := .sign rfl lexed
  have inner : Lexed (text ++ '>' :: behind) (tokens ++ .closing :: rest) :=
    part (by rintro c ⟨⟩; rfl) closed
  have opened : Lexed ('<' :: (text ++ '>' :: behind)) (.opening :: (tokens ++ .closing :: rest)) :=
    .sign rfl inner
  simpa using Lexed.identifier shape (by rintro c ⟨⟩; rfl) opened

/-- A name with two parts in brackets, between them a comma and a blank. -/
theorem pair (shape : Token.isIdentifier name = true) (first : Writes text tokens)
    (next : Writes second others) :
    Writes (name.toList ++ '<' :: (text ++ ',' :: ' ' :: (second ++ ['>'])))
      (.identifier name :: .opening :: (tokens ++ .comma :: (others ++ [.closing]))) := by
  have parted : Writes (text ++ ',' :: ' ' :: second) (tokens ++ .comma :: others) := by
    intro behind rest ends lexed
    have later : Lexed (',' :: ' ' :: (second ++ behind)) (.comma :: (others ++ rest)) :=
      .sign rfl (.blank (by decide) (next ends lexed))
    simpa using first (by rintro c ⟨⟩; rfl) later
  simpa using parted.single shape

end Writes

namespace Phrase

def markText (marked : Bool) : List Char := if marked then ['?'] else []

theorem writes_mark {text : List Char} {tokens : List Token} (writes : Writes text tokens)
    (marked : Bool) : Writes (text ++ markText marked) (tokens ++ mark marked) := by
  cases marked with
  | true =>
      intro behind others _ lexed
      have asked : Lexed ('?' :: behind) (.question :: others) := .sign rfl lexed
      simpa [markText, mark] using writes (by rintro c ⟨⟩; rfl) asked
  | false => simpa [markText, mark] using writes

variable {location : Option Location}

theorem text_plain (name : PlainName) (marked : Bool) :
    ((Phrase.plain name marked).expr location).text.toList =
      name.text.toList ++ markText marked := by
  cases marked <;> simp [expr, TypeExpr.text, named, markText]

theorem text_sequence (element : Phrase) (marked : Bool) :
    ((Phrase.sequence element marked).expr location).text.toList =
      ("sequence".toList ++ '<' :: ((element.expr location).text.toList ++ ['>'])) ++
        markText marked := by
  cases marked <;> simp [expr, TypeExpr.text, textOption, sequenceOf, markText]

theorem text_map (key value : Phrase) (marked : Bool) :
    ((Phrase.map key value marked).expr location).text.toList =
      ("record".toList ++ '<' :: ((key.expr location).text.toList ++ ',' :: ' ' ::
        ((value.expr location).text.toList ++ ['>']))) ++ markText marked := by
  cases marked <;> simp [expr, TypeExpr.text, textOption, mapOf, markText]

/-- A tree is printed with the tokens of its derivation. -/
theorem writes_text (phrase : Phrase) :
    Writes (phrase.expr location).text.toList phrase.tokens := by
  induction phrase with
  | plain name marked =>
      rw [text_plain]
      exact writes_mark (.word name.shape) marked
  | sequence element marked ih =>
      rw [text_sequence]
      simpa [tokens] using
        writes_mark (ih.single (rfl : Token.isIdentifier "sequence" = true)) marked
  | map key value marked ihKey ihValue =>
      rw [text_map]
      simpa [tokens] using
        writes_mark (ihKey.pair (rfl : Token.isIdentifier "record" = true) ihValue) marked

theorem spells_text (phrase : Phrase) : phrase.Spells (phrase.expr location).text :=
  phrase.writes_text.lexed

theorem parse_text (phrase : Phrase) :
    parse .document (phrase.expr location).text location = .ok (phrase.expr location) :=
  parse_document_eq_ok_iff.mpr ⟨phrase, phrase.spells_text, rfl⟩

/-- A tree is written within a bound that its nesting stays below. -/
theorem textWithin_eq (phrase : Phrase) (room : Nat) :
    (phrase.expr location).textWithin room =
      if (phrase.expr location).nesting .document < room then
        some (phrase.expr location).text
      else none := by
  induction phrase generalizing room with
  | plain name marked =>
      cases room with
      | zero => rfl
      | succ left => simp [expr, textWithin, TypeExpr.text, nesting, named]
  | sequence element marked ih =>
      cases room with
      | zero => rfl
      | succ left =>
          by_cases low : (element.expr location).nesting .document < left <;>
            simp [expr, textWithin, partText?, TypeExpr.text, textOption, nesting, nestingOption,
              sequenceOf, ih, low]
  | map key value marked ihKey ihValue =>
      cases room with
      | zero => rfl
      | succ left =>
          by_cases lowKey : (key.expr location).nesting .document < left <;>
            by_cases lowValue : (value.expr location).nesting .document < left <;>
              simp [expr, textWithin, partText?, TypeExpr.text, textOption, nesting, nestingOption,
                mapOf, Nat.max_lt, ihKey, ihValue, lowKey, lowValue]

theorem text?_eq_some_iff (phrase : Phrase) {text : String} :
    (phrase.expr location).text? = some text ↔
      (phrase.expr location).nesting .document < deepestSpelling ∧
        (phrase.expr location).text = text := by
  rw [text?, textWithin_eq, Option.ite_none_right_eq_some, Option.some_inj]

/-- What is printed is shallow enough to be read. -/
theorem readText_of_text? (phrase : Phrase) {printed : String}
    (written : (phrase.expr location).text? = some printed) :
    readText .document printed location = .ok (phrase.expr location) := by
  obtain ⟨low, rfl⟩ := phrase.text?_eq_some_iff.mp written
  have within : deepestSpelling ≤ deepestText := by decide
  exact readText_eq_ok_iff.mpr ⟨phrase.parse_text, Nat.le_trans (Nat.le_of_lt low) within⟩

end Phrase

/-- Reading what is printed for an expression of proper shape gives the expression, and reading what
is printed for an expression that was read gives it again, at every depth of nesting; the limit on
the depth stops no text that it did not stop before.  An expression is printed down to a depth of
its own, and whatever is printed is within the limit on reading. -/
theorem parse_printed :
    (∀ expr, Printable expr → parse .document expr.text none = .ok expr ∧
      (readText .document expr.text none = .ok expr ↔ expr.nesting .document ≤ deepestText) ∧
      ∀ text, expr.text? = some text ↔
        expr.nesting .document < deepestSpelling ∧ expr.text = text) ∧
    (∀ text location expr, parse .document text location = .ok expr →
      parse .document expr.text location = .ok expr) ∧
    (∀ text location expr, readText .document text location = .ok expr →
      readText .document expr.text location = .ok expr) ∧
    (∀ expr printed, Printable expr → expr.text? = some printed →
      readText .document printed none = .ok expr) ∧
    ∀ text location expr printed, readText .document text location = .ok expr →
      expr.text? = some printed → readText .document printed location = .ok expr := by
  have again {text : String} {location : Option Location} {expr : TypeExpr}
      (parsed : parse .document text location = .ok expr) :
      parse .document expr.text location = .ok expr := by
    obtain ⟨phrase, -, rfl⟩ := parse_document_eq_ok_iff.mp parsed
    exact phrase.parse_text
  refine ⟨fun expr printable => ?_, fun _ _ _ => again, fun text location expr read => ?_,
    fun expr printed printable => ?_, fun text location expr printed read => ?_⟩
  · obtain ⟨phrase, rfl⟩ := printable.exists_phrase
    exact ⟨phrase.parse_text, readText_eq_ok_iff.trans (and_iff_right phrase.parse_text),
      fun _ => phrase.text?_eq_some_iff⟩
  · obtain ⟨parsed, within⟩ := readText_eq_ok_iff.mp read
    exact readText_eq_ok_iff.mpr ⟨again parsed, within⟩
  · obtain ⟨phrase, rfl⟩ := printable.exists_phrase
    exact phrase.readText_of_text?
  · obtain ⟨phrase, -, rfl⟩ := parse_document_eq_ok_iff.mp (readText_eq_ok_iff.mp read).1
    exact phrase.readText_of_text?

theorem parse_printed_ledger :
    parse .document "record<string, sequence<Entry?>?>?" none =
      .ok { mapOf (named "string")
        { sequenceOf { named "Entry" with nullable := true } with nullable := true } with
        nullable := true } ∧
    readText .document "sequence<Entry?>" (some ⟨"shop.udl", 4, 2⟩) =
      readText .document " sequence<\tEntry ? >" (some ⟨"shop.udl", 4, 2⟩) := by
  obtain ⟨printed, -, reread, -, -⟩ := parse_printed
  have spaced : readText .document " sequence<\tEntry ? >" (some ⟨"shop.udl", 4, 2⟩) =
      .ok ((Phrase.sequence (.plain ⟨"Entry", rfl, by decide⟩ true) false).expr
        (some ⟨"shop.udl", 4, 2⟩)) := by
    decide +kernel
  exact ⟨(printed { mapOf (named "string")
    { sequenceOf { named "Entry" with nullable := true } with nullable := true } with
    nullable := true } ⟨⟨rfl, by decide⟩, rfl, by decide⟩).1,
    (reread _ _ _ spaced).trans spaced.symm⟩

end NativeBoundary.TypeExpr

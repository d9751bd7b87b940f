import NativeBoundary.Proofs.TypeExpr.RoundTrip

/-!
# Expressions in the spelling of metadata

Metadata writes a sequence as `Vec`, a map as `HashMap` and a nullable type as an `Option` around
it, and has names of its own for two builtin types.  What a document spells may be written so and
read back as the same expression, unless a name in it means something else in metadata; the other
way around the same holds of what metadata spells.  No metadata text has a question mark in it, or
an option directly inside another.
-/

namespace NativeBoundary.TypeExpr

/-- The name under which metadata has a type that a document names so. -/
def metadataName : String → String
  | "boolean" => "bool"
  | "string" => "String"
  | name => name

mutual

/-- The text of an expression in the spelling of metadata. -/
def metadataText : TypeExpr → String
  | ⟨shape, name, element, key, value, nullable, _⟩ =>
      let plain :=
        match shape with
        | .identifier => metadataName (name.getD absentText)
        | .sequence => "Vec<" ++ metadataTextOption element ++ ">"
        | .map =>
            "HashMap<" ++ metadataTextOption key ++ ", " ++ metadataTextOption value ++ ">"
      if nullable then "Option<" ++ plain ++ ">" else plain

def metadataTextOption : Option TypeExpr → String
  | none => absentText
  | some expr => metadataText expr

end

mutual

/-- The names that occur in an expression. -/
def names : TypeExpr → List String
  | ⟨shape, name, element, key, value, _, _⟩ =>
      match shape with
      | .identifier => name.toList
      | .sequence => namesOption element
      | .map => namesOption key ++ namesOption value

def namesOption : Option TypeExpr → List String
  | none => []
  | some expr => names expr

end

/-- The names that do not stand for themselves in metadata. -/
def metadataWords : List String := Spelling.metadata.reserved ++ ["bool", "String"]

variable {location : Option Location}

theorem head_metadataName {name : String} (free : name ∉ metadataWords) :
    Spelling.metadata.head (metadataName name) = .plain name := by
  unfold metadataName
  split
  · rfl
  · rfl
  · unfold Spelling.head
    split <;> simp_all [metadataWords, Spelling.reserved]

theorem isIdentifier_metadataName {name : String} (shape : Token.isIdentifier name = true) :
    Token.isIdentifier (metadataName name) = true := by
  unfold metadataName
  split
  · rfl
  · rfl
  · exact shape

theorem isIdentifier_of_head {name written : String} (shape : Token.isIdentifier name = true)
    (head : Spelling.metadata.head name = .plain written) :
    Token.isIdentifier written = true := by
  unfold Spelling.head at head
  split at head <;> cases head <;> first | rfl | exact shape

/-! ## From documents to metadata -/

namespace Phrase

/-- Metadata writes a nullable type as an option around it. -/
def wrap (marked : Bool) (tokens : List Token) : List Token :=
  if marked then .identifier "Option" :: .opening :: (tokens ++ [.closing]) else tokens

def wrapText (marked : Bool) (text : List Char) : List Char :=
  if marked then "Option".toList ++ '<' :: (text ++ ['>']) else text

/-- The tokens with which metadata writes the tree of a derivation. -/
def metadataTokens : Phrase → List Token
  | .plain name marked => wrap marked [.identifier (metadataName name.text)]
  | .sequence element marked =>
      wrap marked (.identifier "Vec" :: .opening :: (element.metadataTokens ++ [.closing]))
  | .map key value marked =>
      wrap marked (.identifier "HashMap" :: .opening ::
        (key.metadataTokens ++ .comma :: (value.metadataTokens ++ [.closing])))

theorem reads_wrap {tokens : List Token} {expr : TypeExpr} (single : expr.nullable = false)
    (base : ∀ rest, Reads .metadata location (tokens ++ rest) expr rest) (marked : Bool)
    (rest : List Token) :
    Reads .metadata location (wrap marked tokens ++ rest) { expr with nullable := marked }
      rest := by
  cases marked with
  | true =>
      have inner := base (.closing :: rest)
      simpa [wrap] using Reads.option (rfl : Spelling.metadata.head "Option" = .option) inner single
  | false =>
      rw [nullable_eq_self single]
      exact base rest

/-- Metadata reads the tree of a derivation from these tokens. -/
theorem reads_metadata (phrase : Phrase)
    (free : ∀ name ∈ (phrase.expr location).names, name ∉ metadataWords) (rest : List Token) :
    Reads .metadata location (phrase.metadataTokens ++ rest) (phrase.expr location) rest := by
  induction phrase generalizing rest with
  | plain name marked =>
      have head := head_metadataName (free name.text (by simp [expr, named, names]))
      have base (rest : List Token) :
          Reads .metadata location ([.identifier (metadataName name.text)] ++ rest)
            { named name.text with location } rest := .plain head rfl
      exact reads_wrap rfl base marked rest
  | sequence element marked ih =>
      have inner := ih fun name member =>
        free name (by simpa [expr, sequenceOf, names, namesOption] using member)
      have base (rest : List Token) :
          Reads .metadata location
            (.identifier "Vec" :: .opening :: (element.metadataTokens ++ [.closing]) ++ rest)
            { sequenceOf (element.expr location) with location } rest := by
        simpa using Reads.sequence (rfl : Spelling.metadata.head "Vec" = .sequence)
          (inner (.closing :: rest)) rfl
      exact reads_wrap rfl base marked rest
  | map key value marked ihKey ihValue =>
      have first := ihKey fun name member =>
        free name (by simp [expr, mapOf, names, namesOption, member])
      have next := ihValue fun name member =>
        free name (by simp [expr, mapOf, names, namesOption, member])
      have base (rest : List Token) :
          Reads .metadata location
            (.identifier "HashMap" :: .opening ::
              (key.metadataTokens ++ .comma :: (value.metadataTokens ++ [.closing])) ++ rest)
            { mapOf (key.expr location) (value.expr location) with location } rest := by
        simpa using Reads.map (rfl : Spelling.metadata.head "HashMap" = .map)
          (first (.comma :: (value.metadataTokens ++ .closing :: rest)))
          (next (.closing :: rest)) rfl
      exact reads_wrap rfl base marked rest

theorem writes_wrap {text : List Char} {tokens : List Token} (writes : Writes text tokens)
    (marked : Bool) : Writes (wrapText marked text) (wrap marked tokens) := by
  cases marked with
  | true => exact writes.single (rfl : Token.isIdentifier "Option" = true)
  | false => exact writes

theorem metadataText_plain (name : PlainName) (marked : Bool) :
    ((Phrase.plain name marked).expr location).metadataText.toList =
      wrapText marked (metadataName name.text).toList := by
  cases marked <;> simp [expr, TypeExpr.metadataText, named, wrapText]

theorem metadataText_sequence (element : Phrase) (marked : Bool) :
    ((Phrase.sequence element marked).expr location).metadataText.toList =
      wrapText marked
        ("Vec".toList ++ '<' :: ((element.expr location).metadataText.toList ++ ['>'])) := by
  cases marked <;>
    simp [expr, TypeExpr.metadataText, metadataTextOption, sequenceOf, wrapText]

theorem metadataText_map (key value : Phrase) (marked : Bool) :
    ((Phrase.map key value marked).expr location).metadataText.toList =
      wrapText marked ("HashMap".toList ++ '<' :: ((key.expr location).metadataText.toList ++
        ',' :: ' ' :: ((value.expr location).metadataText.toList ++ ['>']))) := by
  cases marked <;> simp [expr, TypeExpr.metadataText, metadataTextOption, mapOf, wrapText]

theorem writes_metadataText (phrase : Phrase) :
    Writes (phrase.expr location).metadataText.toList phrase.metadataTokens := by
  induction phrase with
  | plain name marked =>
      rw [metadataText_plain]
      exact writes_wrap (.word (isIdentifier_metadataName name.shape)) marked
  | sequence element marked ih =>
      rw [metadataText_sequence]
      exact writes_wrap (ih.single rfl) marked
  | map key value marked ihKey ihValue =>
      rw [metadataText_map]
      exact writes_wrap (ihKey.pair rfl ihValue) marked

theorem parse_metadataText (phrase : Phrase)
    (free : ∀ name ∈ (phrase.expr location).names, name ∉ metadataWords) :
    parse .metadata (phrase.expr location).metadataText location = .ok (phrase.expr location) := by
  have reads := phrase.reads_metadata free []
  rw [List.append_nil] at reads
  exact parse_eq_ok_iff.mpr ⟨phrase.metadataTokens, phrase.writes_metadataText.lexed, reads⟩

end Phrase

/-! ## What metadata never spells -/

/-- What does not contain a sign lies wholly before the sign or wholly behind it. -/
theorem infix_of_infix_around {pattern front rest : List Token} {sign : Token}
    (outside : sign ∉ pattern) (found : pattern <:+: front ++ sign :: rest) :
    pattern <:+: front ∨ pattern <:+: rest := by
  have empty_of_start {part : List Token} (begins : part <+: sign :: rest)
      (within : part ⊆ pattern) : part = [] := by
    rcases List.prefix_cons_iff.mp begins with empty | ⟨others, rfl, -⟩
    · exact empty
    · exact absurd (within List.mem_cons_self) outside
  rcases List.infix_append_iff.mp found with before | behind | ⟨part, others, rfl, ends, begins⟩
  · exact .inl before
  · rcases List.infix_cons_iff.mp behind with begins | behind
    · rw [empty_of_start begins (List.Subset.refl _)]
      exact .inl (List.nil_infix)
    · exact .inr behind
  · rw [empty_of_start begins (List.subset_append_right part others), List.append_nil]
    exact .inl ends.isInfix

/-- An option directly inside an option. -/
def nestedOption : List Token := [.identifier "Option", .opening, .identifier "Option"]

theorem nestedOption_infix_head {tokens : List Token} {name : String}
    (found : nestedOption <:+: .identifier name :: .opening :: tokens) :
    (name = "Option" ∧ tokens.head? = some (.identifier "Option")) ∨ nestedOption <:+: tokens := by
  rcases List.infix_cons_iff.mp found with begins | found
  · obtain ⟨rest, same⟩ := begins
    cases same
    exact .inl ⟨rfl, rfl⟩
  · rcases List.infix_cons_iff.mp found with ⟨rest, same⟩ | found
    · cases same
    · exact .inr found

/-- Tokens without a question mark and without an option directly inside another. -/
structure Bare (tokens : List Token) : Prop where
  unmarked : .question ∉ tokens
  unnested : ¬ nestedOption <:+: tokens

namespace Bare

variable {front behind : List Token} {name : String}

theorem single (name : String) : Bare [.identifier name] := by
  refine ⟨by simp, fun found => ?_⟩
  have short := found.length_le
  simp [nestedOption] at short

theorem parted (bare : Bare front) (others : Bare behind) : Bare (front ++ .comma :: behind) := by
  refine ⟨by simp [bare.unmarked, others.unmarked], fun found => ?_⟩
  rcases infix_of_infix_around (by decide) found with found | found
  · exact bare.unnested found
  · exact others.unnested found

theorem closed (bare : Bare front) : Bare (front ++ [.closing]) := by
  refine ⟨by simp [bare.unmarked], fun found => ?_⟩
  rcases infix_of_infix_around (by decide) found with found | found
  · exact bare.unnested found
  · cases List.infix_nil.mp found

theorem headed (bare : Bare behind)
    (apart : name = "Option" → behind.head? ≠ some (.identifier "Option")) :
    Bare (.identifier name :: .opening :: behind) := by
  refine ⟨by simp [bare.unmarked], fun found => ?_⟩
  rcases nestedOption_infix_head found with ⟨same, first⟩ | found
  · exact apart same first
  · exact bare.unnested found

end Bare

/-- What metadata reads at the front are bare tokens. -/
theorem Reads.exists_front {tokens rest : List Token} {expr : TypeExpr}
    (reads : Reads .metadata location tokens expr rest) :
    ∃ front, tokens = front ++ rest ∧ Bare front := by
  induction reads with
  | @plain name written behind rest expr head marked =>
      cases marked
      exact ⟨[.identifier name], rfl, .single name⟩
  | @sequence name tokens after rest element expr head inner marked ih =>
      cases marked
      obtain ⟨front, rfl, bare⟩ := ih
      have apart : name ≠ "Option" := by
        rintro rfl
        cases head
      exact ⟨.identifier name :: .opening :: (front ++ [.closing]), by simp,
        bare.closed.headed (absurd · apart)⟩
  | @map name tokens second after rest key value expr head first next marked ihKey ihValue =>
      cases marked
      obtain ⟨front, rfl, bareKey⟩ := ihKey
      obtain ⟨behind, rfl, bareValue⟩ := ihValue
      have apart : name ≠ "Option" := by
        rintro rfl
        cases head
      exact ⟨.identifier name :: .opening :: (front ++ .comma :: (behind ++ [.closing])), by simp,
        (bareKey.parted bareValue.closed).headed (absurd · apart)⟩
  | @option name tokens rest expr head inner single ih =>
      have opens := inner.opensOption_eq_false single
      obtain ⟨front, rfl, bare⟩ := ih
      refine ⟨.identifier name :: .opening :: (front ++ [.closing]), by simp,
        bare.closed.headed fun _ first => ?_⟩
      -- A part that begins as an option is nullable already, and so is refused.
      cases front with
      | nil => cases first
      | cons token others =>
          cases first
          cases opens

/-! ## From metadata to documents -/

namespace Phrase

/-- The derivation with a question mark at its end. -/
def asked : Phrase → Phrase
  | .plain name _ => .plain name true
  | .sequence element _ => .sequence element true
  | .map key value _ => .map key value true

theorem expr_asked (phrase : Phrase) :
    phrase.asked.expr location = { phrase.expr location with nullable := true } := by
  cases phrase <;> rfl

end Phrase

theorem names_nullable (expr : TypeExpr) (marked : Bool) :
    names { expr with nullable := marked } = expr.names := by
  cases expr
  simp only [names]

/-- What metadata reads is the tree of a derivation, if each name in it stands for itself in a
document. -/
theorem exists_phrase_of_reads {tokens rest : List Token} {expr : TypeExpr}
    (reads : Reads .metadata location tokens expr rest)
    (shapes : ∀ name, .identifier name ∈ tokens → Token.isIdentifier name = true)
    (free : ∀ name ∈ expr.names, name ∉ Spelling.document.reserved) :
    ∃ phrase : Phrase, phrase.expr location = expr := by
  induction reads with
  | @plain name written behind rest expr head marked =>
      cases marked
      have shape : Token.isIdentifier written = true :=
        isIdentifier_of_head (shapes name List.mem_cons_self) head
      exact ⟨.plain ⟨written, shape, free written (by simp [named, names])⟩ false, rfl⟩
  | sequence head inner marked ih =>
      cases marked
      obtain ⟨element, rfl⟩ := ih (fun name member => shapes name (by simp [member]))
        fun name member => free name (by simpa [sequenceOf, names, namesOption] using member)
      exact ⟨.sequence element false, rfl⟩
  | map head first next marked ihKey ihValue =>
      cases marked
      obtain ⟨front, rfl, -⟩ := first.exists_front
      obtain ⟨key, rfl⟩ := ihKey (fun name member => shapes name (.tail _ (.tail _ member)))
        fun name member => free name (by simp [mapOf, names, namesOption, member])
      obtain ⟨value, rfl⟩ := ihValue (fun name member => shapes name (by simp [member]))
        fun name member => free name (by simp [mapOf, names, namesOption, member])
      exact ⟨.map key value false, rfl⟩
  | @option name tokens rest expr head inner single ih =>
      rw [names_nullable] at free
      obtain ⟨phrase, rfl⟩ := ih (fun name member => shapes name (by simp [member])) free
      exact ⟨phrase.asked, phrase.expr_asked⟩

/-- An option is a level of its own in metadata only. -/
theorem Phrase.nesting_le (phrase : Phrase) :
    (phrase.expr location).nesting .document ≤ (phrase.expr location).nesting .metadata := by
  induction phrase with
  | plain name marked => cases marked <;> simp [expr, named, nesting]
  | sequence element marked ih =>
      cases marked <;> simp [expr, sequenceOf, nesting, nestingOption] <;> omega
  | map key value marked ihKey ihValue =>
      cases marked <;> simp [expr, mapOf, nesting, nestingOption] <;> omega

/-- Both spellings denote the same trees.  What a document spells is read back when it is written
for metadata, unless one of its names means something else there; and what metadata spells is read
back when it is printed for a document, under the same condition.  The limit on the depth stops the
text for metadata only where an option is a level too many, and never the text for a document.
Metadata refuses each text with a question mark in it or with an option directly inside another. -/
theorem spellings_agree :
    (∀ text location expr, parse .document text location = .ok expr →
      (∀ name ∈ expr.names, name ∉ metadataWords) →
        parse .metadata expr.metadataText location = .ok expr ∧
        (readText .metadata expr.metadataText location = .ok expr ↔
          expr.nesting .metadata ≤ deepestText)) ∧
    (∀ text location expr, parse .metadata text location = .ok expr →
      (∀ name ∈ expr.names, name ∉ Spelling.document.reserved) →
        parse .document expr.text location = .ok expr ∧
        (readText .metadata text location = .ok expr →
          readText .document expr.text location = .ok expr)) ∧
    ∀ text location tokens, Lexed text.toList tokens →
      (.question ∈ tokens ∨ nestedOption <:+: tokens) →
        ∃ problem, parse .metadata text location = .error problem ∧
          problem.cause.family = .parse := by
  refine ⟨fun text location expr parsed free => ?_, fun text location expr parsed free => ?_,
    fun text location tokens lexed wrong => ?_⟩
  · obtain ⟨phrase, -, rfl⟩ := parse_document_eq_ok_iff.mp parsed
    have written := phrase.parse_metadataText free
    exact ⟨written, readText_eq_ok_iff.trans (and_iff_right written)⟩
  · obtain ⟨tokens, lexed, reads⟩ := parse_eq_ok_iff.mp parsed
    obtain ⟨phrase, rfl⟩ := exists_phrase_of_reads reads (fun _ => lexed.isIdentifier) free
    refine ⟨phrase.parse_text, fun read => ?_⟩
    exact readText_eq_ok_iff.mpr
      ⟨phrase.parse_text, Nat.le_trans phrase.nesting_le (readText_eq_ok_iff.mp read).2⟩
  · cases parsed : parse .metadata text location with
    | error problem => exact ⟨problem, rfl, (parse_refusal parsed).1⟩
    | ok expr =>
        obtain ⟨others, lexedOthers, reads⟩ := parse_eq_ok_iff.mp parsed
        cases lexed.unique lexedOthers
        obtain ⟨front, same, bare⟩ := reads.exists_front
        rw [List.append_nil] at same
        subst same
        rcases wrong with marked | nested
        · exact absurd marked bare.unmarked
        · exact absurd nested bare.unnested

theorem spellings_agree_catalog :
    parse .metadata "Option<HashMap<String, Vec<Option<bool>>>>" none =
      parse .document " record<string,sequence<boolean ?>> ?" none ∧
    parse .document "sequence<boolean?>" none = parse .metadata "Vec< Option<bool> >" none ∧
    ∃ problem, parse .metadata "Vec<Option<Option<u8>>>" none = .error problem ∧
      problem.cause.family = .parse := by
  obtain ⟨written, printed, refused⟩ := spellings_agree
  have document : parse .document " record<string,sequence<boolean ?>> ?" none =
      .ok { mapOf (named "string") (sequenceOf { named "boolean" with nullable := true }) with
        nullable := true } := by
    decide +kernel
  have metadata : parse .metadata "Vec< Option<bool> >" none =
      .ok (sequenceOf { named "boolean" with nullable := true }) := by
    decide +kernel
  have lexed : Lexed "Vec<Option<Option<u8>>>".toList
      [.identifier "Vec", .opening, .identifier "Option", .opening, .identifier "Option", .opening,
        .identifier "u8", .closing, .closing, .closing] := lexed_of_scan (by decide +kernel)
  exact ⟨(written _ _ _ document (by decide)).1.trans document.symm,
    (printed _ _ _ metadata (by decide)).1.trans metadata.symm,
    refused _ none _ lexed (.inr ⟨[.identifier "Vec", .opening], _, rfl⟩)⟩

end NativeBoundary.TypeExpr

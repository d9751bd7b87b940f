import NativeBoundary.Proofs.Interface.Construction
import NativeBoundary.Proofs.Interface.Lowering
import NativeBoundary.Proofs.Interface.Vocabulary
import NativeBoundary.Proofs.Registry.Recording

/-!
# Printed types are resolved to themselves

A type that expressions denote is printed as a sentence of the grammar of documents whose tree
stands for it, provided that all bound names are plain ones.  No optional is around an optional, so
one question mark is enough wherever one is needed; and what a builtin kind is called is one of its
spellings.  So types of one interface with the same text are the same.
-/

namespace NativeBoundary

namespace TypeExpr

variable {location : Option Location}

/-- A name that stands for itself where it is written as a type. -/
abbrev IsPlainName (name : String) : Prop :=
  Token.isIdentifier name = true ∧ name ∉ Spelling.document.reserved

theorem isPlainName_of_isBuiltin {kind : TyKind} (isBuiltin : kind.isBuiltin = true) :
    IsPlainName kind.name := by
  cases kind <;> first | decide +kernel | cases isBuiltin

theorem text_nullable {expr : TypeExpr} (single : expr.nullable = false) :
    ({ expr with nullable := true } : TypeExpr).text = expr.text ++ "?" := by
  cases expr
  cases single
  simp [text]

namespace Image

variable {names : Names} {expr : TypeExpr} {type : Ty}

/-- What stands for no optional has no question mark. -/
theorem not_nullable (image : expr.Image names type) (single : type.kind ≠ .optional) :
    expr.nullable = false := by
  cases image with
  | @identifier _ _ _ _ nullable => cases nullable <;> first | rfl | exact absurd rfl single
  | @sequence _ _ _ _ nullable => cases nullable <;> first | rfl | exact absurd rfl single
  | @map _ _ _ _ nullable => cases nullable <;> first | rfl | exact absurd rfl single

theorem optional (image : expr.Image names type) (single : expr.nullable = false) :
    Image names { expr with nullable := true } type.optional := by
  have unmarked : Image names { expr with nullable := false } type := by
    rwa [nullable_eq_self single]
  exact Image.settled (show Image names
    { ({ expr with nullable := true } : TypeExpr) with nullable := false } type from unmarked)

end Image

end TypeExpr

namespace Names

open TypeExpr (Phrase PlainName Image IsPlainName)

/-- The type is printed as the sentence of the derivation, whose tree stands for it and is nested
less deeply than the type is high. -/
structure Prints (names : Names) (phrase : Phrase) (type : Ty) : Prop where
  image : ∀ location, Image names (phrase.expr location) type
  text : ∀ location, type.text? = some (phrase.expr location).text
  nesting : ∀ location, (phrase.expr location).nesting .document < type.height

namespace Prints

variable {names : Names} {phrase keyPhrase valuePhrase : Phrase} {type key value : Ty}

theorem plain (name : PlainName) (meant : names.meaning name.text = some type)
    (text : type.text? = some name.text) : names.Prints (.plain name false) type where
  image _ := .identifier meant
  text _ := text.trans (by simp [Phrase.expr, TypeExpr.text, TypeExpr.named])
  nesting location := by
    refine lt_of_eq_of_lt (TypeExpr.nesting_named name.text) ?_
    cases type
    exact Nat.succ_pos _

theorem optional (prints : names.Prints phrase type) (single : type.kind ≠ .optional) :
    names.Prints phrase.asked type.optional := by
  have unmarked (location : Option Location) : (phrase.expr location).nullable = false :=
    (prints.image location).not_nullable single
  constructor <;> intro location <;> rw [phrase.expr_asked]
  · exact (prints.image location).optional (unmarked location)
  · rw [Ty.text?_optional, prints.text location, TypeExpr.text_nullable (unmarked location)]
    rfl
  · rw [TypeExpr.nesting_nullable (unmarked location), Ty.height_optional]
    exact Nat.lt_succ_of_lt (prints.nesting location)

theorem sequence (prints : names.Prints phrase type) :
    names.Prints (.sequence phrase false) (.sequence type) where
  image location := .sequence (prints.image location)
  text location := by
    rw [Ty.text?_sequence, prints.text location]
    simp [Phrase.expr, TypeExpr.text, TypeExpr.textOption, TypeExpr.sequenceOf]
  nesting location := by
    refine lt_of_eq_of_lt (TypeExpr.nesting_sequenceOf (phrase.expr location)) ?_
    rw [Ty.height_sequence]
    exact Nat.succ_lt_succ (prints.nesting location)

theorem map (first : names.Prints keyPhrase key) (next : names.Prints valuePhrase value) :
    names.Prints (.map keyPhrase valuePhrase false) (.map key value) where
  image location := .map (first.image location) (next.image location)
  text location := by
    rw [Ty.text?_map (first.text location) (next.text location)]
    simp [Phrase.expr, TypeExpr.text, TypeExpr.textOption, TypeExpr.mapOf]
  nesting location := by
    refine lt_of_eq_of_lt
      (TypeExpr.nesting_mapOf (keyPhrase.expr location) (valuePhrase.expr location)) ?_
    rw [Ty.height_map]
    have lowKey := first.nesting location
    have lowValue := next.nesting location
    omega

end Prints

/-- Whatever can be put together under plain names is printed. -/
theorem Denotes.exists_prints {names : Names} (proper : names.Proper)
    (plain : ∀ {name type}, names name = some type → IsPlainName name) {type : Ty}
    (denotes : names.Denotes type) : ∃ phrase, names.Prints phrase type := by
  induction denotes with
  | @meaning name type meant =>
      rcases proper.builtin_or_introduced meant with ⟨kind, isBuiltin, rfl⟩ | ⟨bound, introduction⟩
      · obtain ⟨shape, free⟩ := TypeExpr.isPlainName_of_isBuiltin isBuiltin
        refine ⟨_, .plain ⟨kind.name, shape, free⟩ ?_ ?_⟩
        · rw [Names.meaning, Ty.builtin?_name isBuiltin, Option.some_or]
        · exact Ty.text?_of_not_structural (TyKind.not_structural_of_isBuiltin isBuiltin)
      · obtain ⟨shape, free⟩ := plain bound
        refine ⟨_, .plain ⟨name, shape, free⟩ meant ?_⟩
        cases introduction with
        | declared declares =>
            exact Ty.text?_of_not_structural (TyKind.not_structural_of_isDeclared declares)
        | external | custom => rfl
  | optional _ single printed =>
      obtain ⟨phrase, prints⟩ := printed
      exact ⟨_, prints.optional single⟩
  | sequence _ printed =>
      obtain ⟨phrase, prints⟩ := printed
      exact ⟨_, prints.sequence⟩
  | map _ _ printedKey printedValue =>
      obtain ⟨keyPhrase, first⟩ := printedKey
      obtain ⟨valuePhrase, next⟩ := printedValue
      exact ⟨_, first.map next⟩

end Names

namespace Interface

open Document (Declaration)
open Metadata (Group Item)
open TypeExpr (IsPlainName)

/-- All names under which the two sources introduce types are plain. -/
structure PlainlyNamed (declarations : List Declaration) (items : List Item) : Prop where
  document : ∀ binding ∈ declarations.flatMap Declaration.bindings, IsPlainName binding.1
  metadata : ∀ name ∈ items.filterMap Item.typeName?, IsPlainName name

variable {document : Option Document} {items : List Item} {settings : Settings}
  {plain interface : Interface}

/-- The names that are bound when the derivation begins are those of the sources. -/
theorem PlainlyNamed.of_prepares
    (plainly : PlainlyNamed ((document.map Document.definitions).getD []) items)
    (prepares : Prepares document items settings plain) {name : String} {type : Ty}
    (bound : plain.names name = some type) : IsPlainName name := by
  obtain ⟨group, brought, grouped, brings, spaced, -⟩ := prepares
  have binds := ((plain_of_bring brings).fallBackSpace spaced).binds
  rcases List.mem_append.mp (binds.mem_of_bound bound) with inside | ofGroup
  · exact plainly.document _ inside
  · exact plainly.metadata name
      ((Group.mem_introduced_of_ofItems grouped).mp (List.mem_map_of_mem ofGroup))

/-- The text of a known type is that of a derivation, and what is read from it is resolved to the
type. -/
theorem resolves_of_prepares (prepares : Prepares document items settings plain)
    (writable : plain.Writable)
    (plainly : PlainlyNamed ((document.map Document.definitions).getD []) items) {type : Ty}
    (known : type ∈ plain.types) :
    ∃ text, type.text? = some text ∧ ∀ location, ∃ expr,
      TypeExpr.readText .document text location = .ok expr ∧
      (Registry.resolve expr plain.registry).result = .ok type := by
  have occurs := occurring_of_mem_types known
  obtain ⟨proper, denotes⟩ := denotes_of_prepares prepares
  obtain ⟨phrase, prints⟩ :=
    (denotes type occurs).exists_prints proper (plainly.of_prepares prepares)
  have low : type.height ≤ TypeExpr.deepestText :=
    Nat.le_trans (height_le_of_prepares prepares writable type occurs) (by decide)
  refine ⟨(phrase.expr none).text, prints.text none, fun location => ?_⟩
  -- Trees of one derivation that differ in their locations are written alike.
  have text : (phrase.expr none).text = (phrase.expr location).text :=
    Option.some.inj ((prints.text none).symm.trans (prints.text location))
  have shallow : (phrase.expr location).nesting .document ≤ TypeExpr.deepestText :=
    Nat.le_trans (Nat.le_of_lt (prints.nesting location)) low
  refine ⟨phrase.expr location, ?_, Registry.resolve_eq_ok_iff.mpr (prints.image location)⟩
  rw [text]
  exact TypeExpr.readText_eq_ok_iff.mpr ⟨phrase.parse_text, shallow⟩

/-- Where the sources have plain names for their types, every type of the built interface has a text
that can be written, the text is read, and what is read is resolved to the type itself, whatever
location is given.  So no two types have the same text. -/
theorem printed_resolves (built : build document items settings = .ok interface)
    (plainly : PlainlyNamed ((document.map Document.definitions).getD []) items) :
    (∀ type ∈ interface.types, Breakdown.ofType? type = none ∧
      ∃ text, type.text? = some text ∧ ∀ location, ∃ expr,
        TypeExpr.readText .document text location = .ok expr ∧
        (Registry.resolve expr interface.registry).result = .ok type) ∧
    ∀ first ∈ interface.types, ∀ second ∈ interface.types,
      first.text? = second.text? → first = second := by
  obtain ⟨before, prepares, writable, sameRegistry⟩ := exists_prepares_of_build built
  rw [types, sameRegistry]
  refine ⟨fun type known => ⟨?_, resolves_of_prepares prepares writable plainly known⟩, ?_⟩
  · exact spelled_of_prepares prepares writable type (occurring_of_mem_types known)
  · intro first inFirst second inSecond same
    obtain ⟨text, printed, reads⟩ := resolves_of_prepares prepares writable plainly inFirst
    obtain ⟨other, printedOther, readsOther⟩ :=
      resolves_of_prepares prepares writable plainly inSecond
    obtain rfl : text = other := Option.some.inj (printed.symm.trans (same.trans printedOther))
    obtain ⟨expr, read, resolved⟩ := reads none
    obtain ⟨exprOther, readOther, resolvedOther⟩ := readsOther none
    cases read.symm.trans readOther
    exact Except.ok.inj (resolved.symm.trans resolvedOther)

/-- A document with a type of each origin, where optionals stand inside of a map. -/
def ledgerDocument : Document where
  definitions := [
    { name := "ledger", body := .space [] },
    .ofExternal "Account" "bank",
    .ofCustom "Memo" "string",
    { name := "Entry", body := .dictionary [
      { name := "account", type := .named "Account" },
      { name := "amount", type := .named "double" },
      { name := "memo", type := { TypeExpr.named "Memo" with nullable := true } }] },
    { name := "Book", body := .dictionary [
      { name := "pages", type := .mapOf (.named "string")
          { TypeExpr.sequenceOf { TypeExpr.named "Entry" with nullable := true } with
            nullable := true } }] }]

/-- The type of the pages in the book. -/
def pagesType : Ty :=
  .map (.builtin .string) (.optional (.sequence (.optional (.named .record "Entry"))))

theorem printed_resolves_ledger :
    ∃ interface, build (some ledgerDocument) [] {} = .ok interface ∧
      pagesType ∈ interface.types ∧
      pagesType.text? = some "record<string, sequence<Entry?>?>" ∧
      ∃ expr, TypeExpr.readText .document "record<string, sequence<Entry?>?>" none = .ok expr ∧
        (Registry.resolve expr interface.registry).result = .ok pagesType := by
  have built := build_ok_of_result
    (by decide +kernel : (buildOutcome (some ledgerDocument) [] {}).result = .ok ())
  have known : pagesType ∈ (buildOutcome (some ledgerDocument) [] {}).state.types := by
    decide +kernel
  have plainly : PlainlyNamed ((some ledgerDocument).map Document.definitions |>.getD []) [] :=
    ⟨by decide +kernel, by decide +kernel⟩
  obtain ⟨-, text, printed, reads⟩ := (printed_resolves built plainly).1 pagesType known
  have spelled : pagesType.text? = some "record<string, sequence<Entry?>?>" := by decide +kernel
  obtain rfl : text = "record<string, sequence<Entry?>?>" :=
    Option.some.inj (printed.symm.trans spelled)
  exact ⟨_, built, known, printed, reads none⟩

end Interface

end NativeBoundary

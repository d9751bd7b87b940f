import NativeBoundary.Json.Reader
import NativeBoundary.Text.Numeral
import NativeBoundary.Toml.Table

/-!
# Reading TOML text

Comments, sections, dotted keys, inline tables, basic and literal strings of one line, whole
numbers and truth values. Arrays, dates, fractions and strings of several lines are refused like
any other text that is not of this grammar. A line ends with a line feed, a carriage return or
both.
-/

namespace NativeBoundary.Toml

def isSpace (c : Char) : Bool := c = ' ' || c = '\t'

def skipSpace (text : List Char) : List Char := text.dropWhile isSpace

/-- The controls that stand neither in a comment nor in a string. -/
def isControl (c : Char) : Bool := (c.toNat < 32 && c ≠ '\t') || c.toNat = 127

def isBareKey (c : Char) : Bool := c.isAlphanum || c = '_' || c = '-'

/-- The character of a code, in the form in which texts keep it. -/
def scalar? (digits : List Char) : Option (List Char) := do
  let values ← digits.mapM Json.hexValue?
  let code := Text.Numeral.valueOf 16 values
  if code.isValidChar then some (Text.Surrogate.kept (Char.ofNat code)) else none

def simpleEscape? : Char → Option Char
  | 'b' => some (Char.ofNat 8)
  | 't' => some '\t'
  | 'n' => some '\n'
  | 'f' => some (Char.ofNat 12)
  | 'r' => some '\r'
  | '"' => some '"'
  | '\\' => some '\\'
  | _ => none

/-- The characters of a basic string up to its closing quote, and the text behind the quote. -/
def basicBody : List Char → Option (List Char × List Char)
  | [] => none
  | '"' :: rest => some ([], rest)
  | '\\' :: 'u' :: a :: b :: c :: d :: rest => do
      let first ← scalar? [a, b, c, d]
      let (body, after) ← basicBody rest
      some (first ++ body, after)
  | '\\' :: 'U' :: a :: b :: c :: d :: e :: f :: g :: h :: rest => do
      let first ← scalar? [a, b, c, d, e, f, g, h]
      let (body, after) ← basicBody rest
      some (first ++ body, after)
  | '\\' :: c :: rest => do
      let first ← simpleEscape? c
      let (body, after) ← basicBody rest
      some (first :: body, after)
  | c :: rest =>
      if isControl c then none
      else do
        let (body, after) ← basicBody rest
        some (c :: body, after)

/-- The characters of a literal string up to its closing quote, and the text behind the quote. -/
def literalBody : List Char → Option (List Char × List Char)
  | [] => none
  | '\'' :: rest => some ([], rest)
  | c :: rest =>
      if isControl c then none
      else do
        let (body, after) ← literalBody rest
        some (c :: body, after)

def keyPart : List Char → Option (String × List Char)
  | '"' :: rest => (basicBody rest).map fun (body, after) => (String.ofList body, after)
  | '\'' :: rest => (literalBody rest).map fun (body, after) => (String.ofList body, after)
  | text =>
      let bare := text.takeWhile isBareKey
      if bare.isEmpty then none else some (String.ofList bare, text.dropWhile isBareKey)

/-- A dotted key and the text behind it and its space. -/
def key : Nat → List Char → Option (Key × List Char)
  | 0, _ => none
  | bound + 1, text => do
      let (part, after) ← keyPart text
      match skipSpace after with
      | '.' :: rest =>
          let (inner, behind) ← key bound (skipSpace rest)
          some (⟨part :: inner.path, inner.name⟩, behind)
      | behind => some (⟨[], part⟩, behind)

def asciiDigit? (base : Nat) (c : Char) : Option Nat :=
  if c.isAlphanum then Text.digit? base c else none

/-- The digits at the front of a text, with single underscores between them, and what follows. -/
def digitSpan (base : Nat) : List Char → List Nat × List Char
  | '_' :: text => ([], '_' :: text)
  | c :: '_' :: next :: rest =>
      match asciiDigit? base c, asciiDigit? base next with
      | some digit, some _ =>
          let (digits, after) := digitSpan base (next :: rest)
          (digit :: digits, after)
      | some digit, none => ([digit], '_' :: next :: rest)
      | none, _ => ([], c :: '_' :: next :: rest)
  | c :: rest =>
      match asciiDigit? base c with
      | some digit =>
          let (digits, after) := digitSpan base rest
          (digit :: digits, after)
      | none => ([], c :: rest)
  | [] => ([], [])

inductive Fault where
  | malformed
  | longNumeral (digits : Nat)
  deriving DecidableEq, Repr

/-- What a part of the grammar yields, or the fault of a text that does not have it. -/
def orMalformed {α : Type} (found : Option α) : Except Fault α :=
  match found with
  | some result => .ok result
  | none => .error .malformed

/-- A number behind its mark, of any length. -/
def marked (base : Nat) (text : List Char) : Except Fault (Int × List Char) :=
  match digitSpan base text with
  | ([], _) => .error .malformed
  | (digits, after) => .ok (Text.Numeral.valueOf base digits, after)

/-- A decimal number behind its sign; a leading zero stands alone. -/
def decimal (negative : Bool) : List Char → Except Fault (Int × List Char)
  | '0' :: rest => .ok (0, rest)
  | text =>
      match digitSpan 10 text with
      | ([], _) => .error .malformed
      | (digits, after) =>
          let magnitude : Int := Text.Numeral.valueOf 10 digits
          if Text.Numeral.decimalDigitLimit < digits.length then
            .error (.longNumeral digits.length)
          else .ok (if negative then -magnitude else magnitude, after)

/-- A whole number. A base other than ten has its mark and no sign. -/
def integer : List Char → Except Fault (Int × List Char)
  | '0' :: 'x' :: rest => marked 16 rest
  | '0' :: 'o' :: rest => marked 8 rest
  | '0' :: 'b' :: rest => marked 2 rest
  | text =>
      let (negative, unsigned) := Text.Numeral.splitSign text
      decimal negative unsigned

mutual

/-- One value and the text behind it. The first argument bounds the nesting. -/
def value : Nat → List Char → Except Fault (Json × List Char)
  | 0, _ => .error .malformed
  | bound + 1, text =>
      match text with
      | '"' :: rest => do
          let (body, after) ← orMalformed (basicBody rest)
          .ok (.string (String.ofList body), after)
      | '\'' :: rest => do
          let (body, after) ← orMalformed (literalBody rest)
          .ok (.string (String.ofList body), after)
      | 't' :: rest => orMalformed ((Json.dropWord "rue".toList rest).map (Json.bool true, ·))
      | 'f' :: rest => orMalformed ((Json.dropWord "alse".toList rest).map (Json.bool false, ·))
      | '\x7b' :: rest =>
          match skipSpace rest with
          | '\x7d' :: after => .ok (.object [], after)
          | inner => do
              let (table, after) ← members bound {} inner
              .ok (.object table, after)
      | _ => do
          let (number, after) ← integer text
          .ok (.integer number, after)

/-- A key, its equals sign and its value. -/
def pair : Nat → List Char → Except Fault (Key × Json × List Char)
  | 0, _ => .error .malformed
  | bound + 1, text => do
      let (name, afterKey) ← orMalformed (key text.length text)
      let afterSign ← orMalformed (Json.dropWord ['='] afterKey)
      let (item, after) ← value bound (skipSpace afterSign)
      .ok (name, item, after)

/-- The members of an inline table up to its brace; at least one. -/
def members : Nat → Layout → List Char → Except Fault (Table × List Char)
  | 0, _, _ => .error .malformed
  | bound + 1, layout, text => do
      let (name, item, after) ← pair bound text
      let extended ← orMalformed (layout.assign? name item)
      match skipSpace after with
      | '\x7d' :: rest => .ok (extended.root, rest)
      | ',' :: rest => members bound extended (skipSpace rest)
      | _ => .error .malformed

end

def depthBound (text : List Char) : Nat := 3 * text.length + 3

/-- What a line says apart from its comment. -/
def statement (layout : Layout) : List Char → Except Fault (Layout × List Char)
  | [] => .ok (layout, [])
  | '\n' :: rest => .ok (layout, '\n' :: rest)
  | '#' :: rest => .ok (layout, '#' :: rest)
  | '[' :: rest => orMalformed do
      let (name, afterKey) ← key rest.length (skipSpace rest)
      let after ← Json.dropWord [']'] afterKey
      let extended ← layout.openSection? (name.path ++ [name.name])
      some (extended, after)
  | text => do
      let (name, item, after) ← pair (depthBound text) text
      let extended ← orMalformed (layout.assign? name item)
      .ok (extended, after)

/-- The text behind the end of a line, in front of which only a comment may stand. -/
def lineEnd : List Char → Option (List Char)
  | [] => some []
  | '\n' :: rest => some rest
  | '#' :: rest =>
      if (rest.takeWhile (· ≠ '\n')).any isControl then none
      else some ((rest.dropWhile (· ≠ '\n')).drop 1)
  | _ => none

/-- Reads line by line. The first argument bounds the number of lines. -/
def lines : Nat → Layout → List Char → Except Fault Table
  | 0, _, _ => .error .malformed
  | bound + 1, layout, text =>
      match skipSpace text with
      | [] => .ok layout.root
      | line => do
          let (extended, after) ← statement layout line
          let rest ← orMalformed (lineEnd (skipSpace after))
          lines bound extended rest

def read (text : String) : Except Fault Table :=
  let characters := Text.unifyLines text.toList
  lines (characters.length + 1) {} characters

end NativeBoundary.Toml

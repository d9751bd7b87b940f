import NativeBoundary.Text.Blank
import NativeBoundary.Text.CharacterName.Basic
import NativeBoundary.Text.LetterForm
import NativeBoundary.Text.Surrogate

/-!
# Constants

What an action in marked text may be given: numbers, texts, octets, the words `True`, `False` and
`None`, three dots, tuples, sets and tables, and the sum of a real number and an imaginary one. The
members of a set and the keys of a table must not hold sets or tables themselves. Constants are
recognised, never evaluated. The depth of a position is the number of brackets open there.
-/

namespace NativeBoundary.CommandLine

inductive Constant where
  | real (signed : Bool)
  | imaginary (signed : Bool)
  | sum
  | string
  | octetString
  | name
  | tuple (fixed : Bool)
  | collection
  deriving DecidableEq, Repr

namespace Constant

/-- Whether a constant can be a member of a set or a key of a table. -/
def isFixed : Constant → Bool
  | .tuple fixed => fixed
  | .collection => false
  | _ => true

abbrev Found := Option (Constant × List Char)

def isNamePart (c : Char) : Bool := c.isAlphanum || c = '_' || 0x80 ≤ c.toNat

def isGap (depth : Nat) (c : Char) : Bool :=
  c = ' ' || c = '\t' || c.toNat = 12 || (0 < depth && c = '\n')

/-- Drops gaps, continued lines and remarks; line ends are gaps only between brackets. -/
def skip (depth : Nat) (text : List Char) : List Char :=
  go text.length text
where
  go : Nat → List Char → List Char
    | 0, text => text
    | bound + 1, text =>
        match text.dropWhile (isGap depth) with
        | '\\' :: '\n' :: rest => go bound rest
        | '#' :: rest => go bound (rest.dropWhile (· ≠ '\n'))
        | rest => rest

/-- How many brackets may be open at once. -/
def deepestBrackets : Nat := 200

/-- What stands behind an opening bracket, unless too many are open. -/
def enter (depth : Nat) (inner : List Char) : Option (List Char) :=
  if depth < deepestBrackets then some (skip (depth + 1) inner) else none

/-- Digits of a class with single underscores between them, and the text behind them. -/
def digitRun (isDigit : Char → Bool) : List Char → List Char × List Char
  | [] => ([], [])
  | c :: rest =>
      if !isDigit c then ([], c :: rest)
      else
        let further :=
          match rest with
          | '_' :: next :: _ => if isDigit next then rest.drop 1 else rest
          | _ => rest
        let (digits, after) := digitRun isDigit further
        (c :: digits, after)
termination_by text => text.length
decreasing_by
  simp only [List.length_cons]
  split
  · split <;> simp
  · exact Nat.lt_succ_self _

def longestNumeral : Nat := 4300

def isHexDigit (c : Char) : Bool :=
  c.isDigit || ('a' ≤ c && c ≤ 'f') || ('A' ≤ c && c ≤ 'F')

/-- The class of the digits behind a mark of a base. -/
def markedDigits? : Char → Option (Char → Bool)
  | 'x' | 'X' => some isHexDigit
  | 'o' | 'O' => some fun c => '0' ≤ c && c ≤ '7'
  | 'b' | 'B' => some fun c => c = '0' || c = '1'
  | _ => none

def ended (constant : Constant) (rest : List Char) : Found :=
  if rest.head?.any fun c => isNamePart c || c = '.' then none else some (constant, rest)

/-- An exponent with its sign, if there is one. -/
def dropExponent (text : List Char) : Bool × List Char :=
  match text with
  | mark :: rest =>
      let unsigned := match rest with
        | '+' :: digits | '-' :: digits => digits
        | digits => digits
      let (digits, after) := digitRun Char.isDigit unsigned
      if (mark = 'e' || mark = 'E') && !digits.isEmpty then (true, after) else (false, text)
  | [] => (false, [])

def decimal (text : List Char) : Found :=
  let (whole, afterWhole) := digitRun Char.isDigit text
  let (pointed, afterPoint) := match afterWhole with
    | '.' :: rest => (true, rest)
    | rest => (false, rest)
  let (fraction, afterFraction) :=
    if pointed then digitRun Char.isDigit afterPoint else ([], afterPoint)
  let (raised, rest) := dropExponent afterFraction
  if whole.isEmpty && fraction.isEmpty then none
  else
    match rest with
    | 'j' :: after | 'J' :: after => ended (.imaginary false) after
    | _ =>
        let isWhole := !pointed && !raised
        let isZero := whole.all (· = '0')
        let padded := whole.head? = some '0'
        if isWhole && !isZero && (padded || longestNumeral < whole.length) then none
        else ended (.real false) rest

def number (text : List Char) : Found :=
  match text with
  | '0' :: mark :: rest =>
      match markedDigits? mark with
      | none => decimal text
      | some isDigit =>
          let unmarked := match rest with
            | '_' :: digits => digits
            | digits => digits
          let (digits, after) := digitRun isDigit unmarked
          if digits.isEmpty then none else ended (.real false) after
  | _ => decimal text

/-- How the body of a text between quotes is written. -/
structure Writing where
  quote : Char
  long : Bool
  raw : Bool
  octets : Bool

/-- The count of hexadecimal digits that an escape calls for. -/
def escapeDigits (writing : Writing) : Char → Nat
  | 'x' => 2
  | 'u' => if writing.octets then 0 else 4
  | 'U' => if writing.octets then 0 else 8
  | _ => 0

def greatestPoint : List Char := "0010ffff".toList

def isPoint (digits : List Char) : Bool :=
  digits.all isHexDigit && (digits.length < 8 || !greatestPoint.lex (digits.map Char.toLower) (· < ·))

/-- The text behind the name of a character in braces. -/
def afterName : List Char → Option (List Char)
  | '{' :: inner =>
      let name := inner.takeWhile (· ≠ '}')
      if Text.CharacterName.isName name then
        match inner.dropWhile (· ≠ '}') with
        | _ :: rest => some rest
        | [] => none
      else none
  | _ => none

/-- The text behind an escape, given its letter and what stands behind that. -/
def afterEscape (writing : Writing) (letter : Char) (behind : List Char) : Option (List Char) :=
  if writing.raw then some behind
  else if letter = 'N' && !writing.octets then afterName behind
  else
    let count := escapeDigits writing letter
    let digits := behind.take count
    if digits.length = count && isPoint digits then some (behind.drop count) else none

/-- The text behind the closing quote. The first argument bounds the number of steps. -/
def afterBody (writing : Writing) : Nat → List Char → Option (List Char)
  | 0, _ | _, [] => none
  | bound + 1, c :: rest =>
      let quote := writing.quote
      if c = quote && !writing.long then some rest
      else if c = quote && [quote, quote].isPrefixOf rest then some (rest.drop 2)
      else if c = '\n' && !writing.long then none
      else if writing.octets && 0x80 ≤ c.toNat then none
      else if c = '\\' then
        match rest with
        | [] => none
        | letter :: behind =>
            if writing.octets && 0x80 ≤ letter.toNat then none
            else
              match afterEscape writing letter behind with
              | some after => afterBody writing bound after
              | none => none
      else afterBody writing bound rest

/-- Texts in quotes by the letters in front of them: whether they are raw, and whether they hold
octets. -/
def markings : List (String × Bool × Bool) :=
  [("", false, false), ("u", false, false), ("r", true, false), ("b", false, true),
    ("br", true, true), ("rb", true, true)]

def quoted (text : List Char) : Found :=
  let mark := String.ofList ((text.takeWhile Char.isAlpha).map Char.toLower)
  match markings.lookup mark, text.dropWhile Char.isAlpha with
  | some (raw, octets), quote :: body =>
      let long := [quote, quote].isPrefixOf body
      let writing : Writing := { quote, long, raw, octets }
      if quote = '"' || quote = '\'' then
        (afterBody writing body.length (if long then body.drop 2 else body)).map
          (if octets then .octetString else .string, ·)
      else none
  | _, _ => none

/-- Texts in quotes that follow each other make one; texts and octets do not mix. -/
def quotedRun (depth : Nat) : Nat → List Char → Found
  | 0, _ => none
  | bound + 1, text => do
      let (first, after) ← quoted text
      let next := skip depth after
      let mark := next.takeWhile Char.isAlpha
      match next.dropWhile Char.isAlpha with
      | '"' :: _ | '\'' :: _ =>
          let (second, rest) ← quotedRun depth bound (mark ++ next.dropWhile Char.isAlpha)
          if first = second then some (first, rest) else none
      | _ => some (first, after)

def words : List String := ["True", "False", "None"]

/-- A word that stands for a constant, or the empty set. The letters of the set may be written in
other forms. -/
def word (depth : Nat) (text : List Char) : Found :=
  let name := text.takeWhile isNamePart
  let rest := text.dropWhile isNamePart
  if words.contains (String.ofList name) then some (.name, rest)
  else if name.map Text.plainLetter = "set".toList then
    match skip depth rest with
    | '(' :: inner =>
        match enter depth inner with
        | some (')' :: after) => some (.collection, after)
        | _ => none
    | _ => none
  else none

def negated : Constant → Option Constant
  | .real false => some (.real true)
  | .imaginary false => some (.imaginary true)
  | _ => none

mutual

/-- A constant without sign and sum. The second argument bounds the number of steps. -/
def atom (depth : Nat) : Nat → List Char → Found
  | 0, _ => none
  | bound + 1, text =>
      match text with
      | '.' :: '.' :: '.' :: rest => some (.name, rest)
      | '(' :: inner =>
          match enter depth inner with
          | none => none
          | some (')' :: rest) => some (.tuple true, rest)
          | some items => do
              let (first, after) ← whole (depth + 1) bound items
              match skip (depth + 1) after with
              | ')' :: rest => some (first, rest)
              | ',' :: more => do
                  let further := skip (depth + 1) more
                  let (others, rest) ← members (depth + 1) bound ')' further
                  some (.tuple (first.isFixed && others.all isFixed), rest)
              | _ => none
      | '{' :: inner =>
          match enter depth inner with
          | none => none
          | some ('}' :: rest) => some (.collection, rest)
          | some items => do
              let (first, after) ← whole (depth + 1) bound items
              let follow := skip (depth + 1) after
              if !first.isFixed then none
              else
                match follow with
                | ':' :: value => do
                    let (_, behind) ← whole (depth + 1) bound (skip (depth + 1) value)
                    let rest ← entries (depth + 1) bound (skip (depth + 1) behind)
                    some (.collection, rest)
                | ',' :: more => do
                    let further := skip (depth + 1) more
                    let (others, rest) ← members (depth + 1) bound '}' further
                    if others.all isFixed then some (.collection, rest) else none
                | '}' :: rest => some (.collection, rest)
                | _ => none
      | '"' :: _ | '\'' :: _ => quotedRun depth (bound + 1) text
      | c :: _ =>
          if c.isDigit || c = '.' then number text
          else
            match text.dropWhile Char.isAlpha with
            | '"' :: _ | '\'' :: _ => quotedRun depth (bound + 1) text
            | _ => word depth text
      | [] => none

/-- A constant with its sign, or a sum. -/
def whole (depth : Nat) : Nat → List Char → Found
  | 0, _ => none
  | bound + 1, text => do
      let (first, after) ← match text with
        | '+' :: rest | '-' :: rest => do
            let (unsigned, after) ← atom depth bound (skip depth rest)
            let signed ← negated unsigned
            some (signed, after)
        | _ => atom depth bound text
      match skip depth after, first with
      | '+' :: rest, .real _ | '-' :: rest, .real _ =>
          match atom depth bound (skip depth rest) with
          | some (.imaginary false, behind) => some (.sum, behind)
          | _ => none
      | _, _ => some (first, after)

/-- The members of a tuple or a set up to the closing bracket. -/
def members (depth : Nat) : Nat → (closing : Char) → List Char → Option (List Constant × List Char)
  | 0, _, _ => none
  | bound + 1, closing, text =>
      if text.head? = some closing then some ([], text.drop 1)
      else do
        let (first, after) ← whole depth bound text
        match skip depth after with
        | ',' :: more => do
            let (others, rest) ← members depth bound closing (skip depth more)
            some (first :: others, rest)
        | c :: rest => if c = closing then some ([first], rest) else none
        | [] => none

/-- The further entries of a table up to its closing brace. -/
def entries (depth : Nat) : Nat → List Char → Option (List Char)
  | 0, _ => none
  | bound + 1, text =>
      match text with
      | '}' :: rest => some rest
      | ',' :: more =>
          match skip depth more with
          | '}' :: rest => some rest
          | items => do
              let (key, after) ← whole depth bound items
              match skip depth after with
              | ':' :: value => do
                  let (_, behind) ← whole depth bound (skip depth value)
                  if key.isFixed then entries depth bound (skip depth behind) else none
              | _ => none
      | _ => none

end

/-- Whether only gaps and remarks are left of a text. -/
def isDone (text : List Char) : Bool :=
  match skip 0 text with
  | [] => true
  | '\n' :: rest => (skip 1 rest).isEmpty
  | _ => false

/-- A row of constants at the top of a text is a tuple without its brackets. -/
def row : Nat → List Char → Bool
  | 0, _ => false
  | bound + 1, text =>
      match whole 0 (2 * text.length + 2) text with
      | none => false
      | some (_, after) =>
          match skip 0 after with
          | ',' :: more => isDone more || row bound (skip 0 more)
          | _ => isDone after

/-- Whether characters can be read at all: no NUL is among them, and no lone half of a pair. -/
def isReadable (text : List Char) : Bool :=
  text.all (·.toNat ≠ 0) && Text.Surrogate.isWhole text

/-- A text from its first line on that holds more than a remark. Such a line must not be set in,
neither by gaps in front of it nor by those in front of a continued line. -/
def fromFirstLine (remark held inset : Bool) : List Char → Option (List Char)
  | [] => none
  | '\n' :: rest => fromFirstLine false false false rest
  | c :: rest =>
      if remark then fromFirstLine true held inset rest
      else if c = '#' then fromFirstLine true held inset rest
      else if c = ' ' || c = '\t' then fromFirstLine false held true rest
      else if c.toNat = 12 then fromFirstLine false held false rest
      else
        match c, rest with
        | '\\', '\n' :: behind => fromFirstLine false (held || inset) inset behind
        | _, _ => if held || inset then none else some (c :: rest)

def isConstant (text : List Char) : Bool :=
  let unified := Text.unifyLines text
  isReadable unified && (fromFirstLine false false false unified).any (row (unified.length + 1))

end Constant

end NativeBoundary.CommandLine

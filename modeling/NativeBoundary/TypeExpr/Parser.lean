import NativeBoundary.TypeExpr.Basic
import NativeBoundary.TypeExpr.Token

/-!
# Reading type texts

Two spellings denote the same expressions. In a document a sequence is `sequence<T>`, a map is
`record<K, V>`, and one question mark makes a type nullable. In metadata they are `Vec<T>`,
`HashMap<K, V>` and `Option<T>`, an option does not stand directly inside another, and two builtin
types have names of their own. Each expression is read from the front of the token list; the bound
is the number of tokens, so it runs out only where the tokens do.
-/

namespace NativeBoundary.TypeExpr

inductive Spelling where
  | document | metadata
  deriving DecidableEq, Repr

/-- The constructors that a name can stand for in front of an opening sign. -/
inductive Head where
  | sequence | map | option | plain (name : String)
  deriving DecidableEq, Repr

def Spelling.head : Spelling → String → Head
  | .document, "sequence" => .sequence
  | .document, "record" => .map
  | .document, name => .plain name
  | .metadata, "Vec" => .sequence
  | .metadata, "HashMap" => .map
  | .metadata, "Option" => .option
  | .metadata, "bool" => .plain "boolean"
  | .metadata, "String" => .plain "string"
  | .metadata, name => .plain name

abbrev Parsed := Except Cause (TypeExpr × List Token)

/-- Takes the expected sign off the front of the tokens. -/
def expect (text : String) (expected : Token) : List Token → Except Cause (List Token)
  | [] => .error (.unexpectedEnd text)
  | token :: rest =>
      if token = expected then .ok rest
      else .error (.unexpectedToken expected.text token.text text)

/-- In a document, a question mark behind a type makes it nullable. -/
def markNullable (spelling : Spelling) (expr : TypeExpr) (tokens : List Token) :
    TypeExpr × List Token :=
  match spelling, tokens with
  | .document, .question :: rest => ({ expr with nullable := true }, rest)
  | _, _ => (expr, tokens)

def parseWithin (spelling : Spelling) (text : String) (location : Option Location) :
    Nat → List Token → Parsed
  | _, [] => .error (.unexpectedEnd text)
  | 0, _ => .error (.unexpectedEnd text)
  | bound + 1, .identifier name :: rest =>
      match spelling.head name with
      | .plain written =>
          .ok (markNullable spelling { named written with location } rest)
      | .sequence => do
          let inner ← expect text .opening rest
          let (element, afterElement) ← parseWithin spelling text location bound inner
          let after ← expect text .closing afterElement
          .ok (markNullable spelling { sequenceOf element with location } after)
      | .map => do
          let inner ← expect text .opening rest
          let (key, afterKey) ← parseWithin spelling text location bound inner
          let second ← expect text .comma afterKey
          let (value, afterValue) ← parseWithin spelling text location bound second
          let after ← expect text .closing afterValue
          .ok (markNullable spelling { mapOf key value with location } after)
      | .option => do
          let inner ← expect text .opening rest
          let (expr, afterExpr) ← parseWithin spelling text location bound inner
          let after ← expect text .closing afterExpr
          if expr.nullable then .error (.nestedOption text)
          else .ok ({ expr with nullable := true }, after)
  | _ + 1, token :: _ => .error (.notTypeName token.text text)

def parseTokens (spelling : Spelling) (text : String) (location : Option Location)
    (tokens : List Token) : Except Cause TypeExpr := do
  let (expr, rest) ← parseWithin spelling text location tokens.length tokens
  match rest with
  | [] => .ok expr
  | token :: _ => .error (.trailingToken token.text text)

def parse (spelling : Spelling) (text : String) (location : Option Location) :
    Except Problem TypeExpr :=
  match Token.scan text.toList with
  | .error bad => .error ⟨.unexpectedCharacter bad text, none, none⟩
  | .ok tokens =>
      match parseTokens spelling text location tokens with
      | .ok expr => .ok expr
      | .error cause => .error ⟨cause, none, none⟩

end NativeBoundary.TypeExpr

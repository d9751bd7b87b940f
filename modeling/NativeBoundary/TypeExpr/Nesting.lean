import NativeBoundary.TypeExpr.Parser

/-!
# Nesting of type texts

Type texts are read only down to a certain depth. `reach` follows the reader through the tokens and
tells how many sequences, maps and options stand around the innermost type that it comes to before
it ends or stops at an error; only a text that stays within the limit is read. Writing an expression
goes less deep than reading one.
-/

namespace NativeBoundary.TypeExpr

def opensOption (spelling : Spelling) : List Token → Bool
  | .identifier name :: _ => spelling.head name = .option
  | _ => false

/-- The greatest number of types around a type that is come to, and the tokens behind the first type
if it can be read. -/
def reachWithin (spelling : Spelling) (depth : Nat) : Nat → List Token → Nat × Option (List Token)
  | _, [] | 0, _ => (depth, none)
  | bound + 1, .identifier name :: rest =>
      let inner := reachWithin spelling (depth + 1) bound
      let past (expected : Token) (tokens : Option (List Token)) : Option (List Token) :=
        match tokens with
        | some (token :: after) => if token = expected then some after else none
        | _ => none
      let ended (tokens : Option (List Token)) : Option (List Token) :=
        (past .closing tokens).map fun after =>
          match spelling, after with
          | .document, .question :: behind => behind
          | _, _ => after
      match spelling.head name, past .opening (some rest) with
      | .plain _, _ => (depth, ended (some (.closing :: rest)))
      | _, none => (depth, none)
      | .map, some tokens =>
          let (reached, afterKey) := inner tokens
          match past .comma afterKey with
          | none => (reached, none)
          | some second =>
              let (further, afterValue) := inner second
              (max reached further, ended afterValue)
      | head, some tokens =>
          let (reached, after) := inner tokens
          let refused := head = .option && opensOption spelling tokens
          (reached, if refused then none else ended after)
  | _ + 1, _ :: _ => (depth, none)

def reach (spelling : Spelling) (tokens : List Token) : Nat :=
  (reachWithin spelling 0 tokens.length tokens).1

/-- How many types may stand around a type. -/
def deepestText : Nat := 490

/-- Reads a text that is not nested too deeply. -/
def readText (spelling : Spelling) (text : String) (location : Option Location) :
    Except Problem TypeExpr :=
  match Token.scan text.toList with
  | .error _ => parse spelling text location
  | .ok tokens =>
      if reach spelling tokens ≤ deepestText then parse spelling text location
      else .error ⟨.breakdown .deepText, none, none⟩

/-- The text of a part, where an absent one is written as a word. -/
def partText? (write : TypeExpr → Option String) : Option TypeExpr → Option String
  | none => some absentText
  | some expr => write expr

/-- The text of an expression, unless it takes more than so many expressions inside each other. -/
def textWithin : Nat → TypeExpr → Option String
  | 0, _ => none
  | left + 1, ⟨shape, name, element, key, value, nullable, _⟩ =>
      let part := partText? (textWithin left)
      let plain :=
        match shape with
        | .identifier => some (name.getD absentText)
        | .sequence => (part element).map fun inner => "sequence<" ++ inner ++ ">"
        | .map => (part key).bind fun first =>
            (part value).map fun second => "record<" ++ first ++ ", " ++ second ++ ">"
      plain.map fun text => if nullable then text ++ "?" else text

/-- The text of an expression that is not nested too deeply to be written. -/
def text? : TypeExpr → Option String := textWithin deepestSpelling

end NativeBoundary.TypeExpr

import NativeBoundary.Problem
import NativeBoundary.Text.Blank

/-!
# Tokens of type texts

A type text is a sequence of identifiers and of the four signs for opening, closing, separating and
marking as nullable, with blanks allowed anywhere between them. An identifier reaches as far as it
can.
-/

namespace NativeBoundary.TypeExpr

inductive Token where
  | identifier (name : String)
  | opening
  | closing
  | comma
  | question
  deriving DecidableEq, Repr

namespace Token

def text : Token → String
  | .identifier name => name
  | .opening => "<"
  | .closing => ">"
  | .comma => ","
  | .question => "?"

def isLetter (c : Char) : Bool :=
  c.isAlpha || c = '_'

def isNameChar (c : Char) : Bool :=
  c.isAlphanum || c = '_'

def sign? : Char → Option Token
  | '<' => some .opening
  | '>' => some .closing
  | ',' => some .comma
  | '?' => some .question
  | _ => none

theorem length_dropWhile_le (inClass : Char → Bool) (text : List Char) :
    (text.dropWhile inClass).length ≤ text.length :=
  (List.dropWhile_sublist inClass).length_le

/-- The tokens of a text, or the first character that starts none. -/
def scan : List Char → Except Char (List Token)
  | [] => .ok []
  | c :: rest =>
      if Text.isBlank c then scan rest
      else if isLetter c then
        let name := String.ofList (c :: rest.takeWhile isNameChar)
        match scan (rest.dropWhile isNameChar) with
        | .ok tokens => .ok (.identifier name :: tokens)
        | .error bad => .error bad
      else
        match sign? c with
        | none => .error c
        | some token =>
            match scan rest with
            | .ok tokens => .ok (token :: tokens)
            | .error bad => .error bad
termination_by text => text.length
decreasing_by
  · simp
  · have shorter := length_dropWhile_le isNameChar rest
    simp only [List.length_cons]
    omega
  · simp

end Token

end NativeBoundary.TypeExpr

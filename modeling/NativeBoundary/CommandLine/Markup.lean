import NativeBoundary.CommandLine.Constant
import NativeBoundary.CommandLine.Styled
import NativeBoundary.Text.WordCharacter

/-!
# Marked text

A tag in brackets sets a style and is not shown itself. A closing tag ends the innermost style of
its name, or the innermost of all if it names none; a style that no tag closes lasts to the end. A
bracket behind an odd number of backslashes is an ordinary one. A tag may carry parameters behind
an equals sign; those of an action must be constants by the time it is closed.
-/

namespace NativeBoundary.CommandLine.Markup

inductive Fault where
  | unmatchedTag
  | malformedAction
  | malformedColour
  deriving DecidableEq, Repr

inductive Piece where
  | text (characters : List Char)
  | tag (body : List Char)
  deriving DecidableEq, Repr

def opensTag (c : Char) : Bool := c.isLower || c = '#' || c = '/' || c = '@'

/-- The body of a tag behind its bracket, and the text behind the tag. -/
def tag? : List Char → Option (List Char × List Char)
  | [] => none
  | first :: rest =>
      let inside (c : Char) : Bool := c ≠ '[' && c ≠ ']'
      match opensTag first, rest.dropWhile inside with
      | true, ']' :: after => some (first :: rest.takeWhile inside, after)
      | _, _ => none

def isBackslash (c : Char) : Bool := c = '\\'

/-- Takes marked text apart. The first argument bounds the number of steps, the second holds the
characters since the last tag, the latest first. -/
def pieces : Nat → List Char → List Char → List Piece
  | 0, seen, text => [.text (seen.reverse ++ text)]
  | _ + 1, seen, [] => [.text seen.reverse]
  | bound + 1, seen, c :: rest =>
      let slashes := ((c :: rest).takeWhile isBackslash).length
      match (c :: rest).dropWhile isBackslash with
      | '[' :: inner =>
          match tag? inner with
          | some (body, after) =>
              let before := [.text seen.reverse, .text (List.replicate (slashes / 2) '\\')]
              let here := if slashes % 2 = 1 then .text ('[' :: body ++ [']']) else .tag body
              before ++ here :: pieces bound [] after
          | none => pieces bound ('[' :: List.replicate (slashes - 1) '\\' ++ seen) inner
      | _ => pieces bound (c :: seen) rest

/-- A tag that is still open, under the canonical name of its style, and the position behind it. -/
structure Opened where
  name : List Char
  parameters : Option (List Char)
  start : Nat
  deriving DecidableEq, Repr

namespace Opened

def isAction (opened : Opened) : Bool := opened.name.head? = some '@'

def definition (opened : Opened) : List Char :=
  match opened.parameters with
  | none => opened.name
  | some parameters => opened.name ++ ' ' :: parameters

def spanTo (stop : Nat) (opened : Opened) : Span := ⟨opened.start, stop, opened.definition⟩

end Opened

/-- What an action is given: the constants behind its name, or the whole text if it names none. -/
def givenTo (parameters : List Char) : List Char :=
  let given := Text.trim Text.isBlank parameters
  let inName (c : Char) : Bool := Text.isWordCharacter c || c = '.'
  match given.dropWhile inName with
  | [] => "()".toList
  | '(' :: rest => if rest.getLast? = some ')' && !rest.contains '\n' then '(' :: rest else given
  | _ => given

def normalName (name : List Char) : Except Fault (List Char) :=
  (Style.normal name).mapError fun _ => .malformedColour

/-- The innermost open tag of a name and the tags that stay open; any name if none is given. -/
def innermost? (name : List Char) (opened : List Opened) : Option (Opened × List Opened) :=
  let fits (tag : Opened) : Bool := name.isEmpty || tag.name = name
  (opened.find? fits).map (·, opened.eraseP fits)

/-- Closes a tag at a position. An action leaves an empty style behind. -/
def closing (stop : Nat) (name : List Char) (opened : List Opened) :
    Except Fault (List Span × List Opened) := do
  let name ← if name.isEmpty then .ok [] else normalName name
  match innermost? name opened with
  | none => .error .unmatchedTag
  | some (tag, others) =>
      let parameters := tag.parameters.getD []
      if !tag.isAction then .ok ([tag.spanTo stop], others)
      else if parameters.isEmpty || Constant.isConstant (givenTo parameters) then
        .ok ([⟨tag.start, stop, []⟩], others)
      else .error .malformedAction

/-- What the pieces show from a position on under the open tags, the innermost first. -/
def render : (position : Nat) → List Opened → List Piece → Except Fault Styled
  | position, opened, [] => .ok ⟨[], opened.map (Opened.spanTo position)⟩
  | position, opened, .text characters :: rest => do
      let legible := Display.legible characters
      let shown ← render (position + legible.length) opened rest
      return { shown with characters := legible ++ shown.characters }
  | position, opened, .tag body :: rest => do
      let name := body.takeWhile (· ≠ '=')
      let parameters := match body.dropWhile (· ≠ '=') with
        | [] => none
        | _ :: parameters => some parameters
      match name with
      | '/' :: closed =>
          let (spans, others) ← closing position (Text.trim Text.isBlank closed) opened
          let shown ← render position others rest
          return { shown with spans := spans ++ shown.spans }
      | _ =>
          let name ← normalName name
          render position (⟨name, parameters, position⟩ :: opened) rest

def read (text : String) : Except Fault Styled :=
  render 0 [] (pieces text.length [] text.toList)

/-- The text of lines that lie beneath each other, if all their styles can be worked out. -/
def shown (lines : List Styled) : Except Fault String :=
  if lines.all Styled.isReadable then
    .ok (String.ofList (['\n'].intercalate (lines.map Styled.characters)))
  else .error .malformedColour

/-- A marked text on lines as wide as it needs. -/
def text (marked : String) : Except Fault String := do
  let styled ← read marked
  shown (styled.lines.map Styled.fillTabs)

end NativeBoundary.CommandLine.Markup

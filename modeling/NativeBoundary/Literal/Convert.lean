import NativeBoundary.Problem
import NativeBoundary.Text.Numeral

/-!
# Literals from default values

A default value becomes a literal of its declared type, or is refused. A whole number may be signed
and is written in decimal, in octal behind a zero or in hexadecimal behind `0x`; it must lie in the
range of its type. A number for a floating point type keeps the text in which it was written.
-/

namespace NativeBoundary.DefaultNode

/-- The radix in which unsigned digits are written, and the digits themselves. -/
def splitRadix : List Char → Radix × List Char
  | '0' :: 'x' :: digits => (.hexadecimal, digits)
  | '0' :: 'X' :: digits => (.hexadecimal, digits)
  | '0' :: next :: digits => (.octal, next :: digits)
  | digits => (.decimal, digits)

def wholeNumber? (text : List Char) : Option (Int × Radix) := do
  let (negative, unsigned) := Text.Numeral.splitSign (Text.trim Text.isBlank text)
  let (radix, digits) := splitRadix unsigned
  let value ← Text.Numeral.whole? radix.base digits
  some (if negative then -value else value, radix)

/-- The least and the greatest number of an integer type. -/
def bounds (signed : Bool) (width : Nat) : Int × Int :=
  if signed then (-Int.pow 2 (width - 1), Int.pow 2 (width - 1) - 1) else (0, Int.pow 2 width - 1)

def refuse (node : DefaultNode) (cause : Cause) : Except Problem Literal :=
  .error ⟨cause, none, node.location⟩

def convertInteger (node : DefaultNode) (type : Ty) (signed : Bool) (width : Nat) :
    Except Problem Literal :=
  match wholeNumber? node.text.toList with
  | none => node.refuse (.malformedInteger node.text)
  | some (value, radix) =>
      let (low, high) := bounds signed width
      if low ≤ value ∧ value ≤ high then
        .ok { kind := if signed then .int else .uint, value := .integer value,
              radix := some radix, type := some type }
      else node.refuse (.outOfRange node.text type)

def convertBoolean (node : DefaultNode) (type : Ty) : Except Problem Literal :=
  if node.text = "true" then
    .ok { kind := .boolean, value := .flag true, type := some type }
  else if node.text = "false" then
    .ok { kind := .boolean, value := .flag false, type := some type }
  else node.refuse (.malformedBoolean node.text)

def convertFloat (node : DefaultNode) (type : Ty) : Except Problem Literal :=
  if Text.Numeral.isFractional node.text.toList then
    .ok { kind := .float, value := .text node.text, type := some type }
  else node.refuse (.malformedFloat node.text)

/-- The literal that a default value is at a type. Each lexical kind fits some kinds of type and is
incompatible with all others. -/
def convert (node : DefaultNode) (type : Ty) : Except Problem Literal :=
  let incompatible := node.refuse (.incompatibleDefault node.kind node.text type)
  let float := if type.kind.isFloat then node.convertFloat type else incompatible
  match node.kind with
  | .boolean => if type.kind = .boolean then node.convertBoolean type else incompatible
  | .string =>
      if type.kind = .string then
        .ok { kind := .string, value := .text node.text, type := some type }
      else incompatible
  | .integer =>
      match type.kind.integerWidth? with
      | some (signed, width) => node.convertInteger type signed width
      | none => float
  | .float => float
  | .null =>
      if type.kind = .optional then .ok { kind := .null, type := some type } else incompatible
  | .emptySequence =>
      if type.kind = .sequence then .ok { kind := .emptySequence, type := some type }
      else incompatible
  | .emptyMap =>
      if type.kind = .map then .ok { kind := .emptyMap, type := some type } else incompatible
  | .identifier =>
      if type.kind = .enum then
        .ok { kind := .enum, value := .text node.text, type := some type }
      else incompatible

end NativeBoundary.DefaultNode

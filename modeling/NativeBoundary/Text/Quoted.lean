import NativeBoundary.Text.Printable
import NativeBoundary.Text.Surrogate

/-!
# Quoted display

A text shown between quotes: single quotes, unless it holds a single quote and no double one. The
quote in use, the backslash and the usual controls are written with a backslash, and every other
unprintable character by its code point in two, four or eight hexadecimal digits.
-/

namespace NativeBoundary.Text

def hexDigit (value : Nat) : Char :=
  if value < 10 then Char.ofNat (48 + value) else Char.ofNat (87 + value)

/-- The last `width` hexadecimal digits of a number, the most significant first. -/
def hexDigits : Nat → Nat → List Char
  | 0, _ => []
  | width + 1, n => hexDigits width (n / 16) ++ [hexDigit (n % 16)]

theorem hexDigits_length (width n : Nat) : (hexDigits width n).length = width := by
  induction width generalizing n with
  | zero => rfl
  | succ width ih => simp [hexDigits, ih]

theorem exists_of_mem_hexDigits {width n : Nat} {c : Char} (member : c ∈ hexDigits width n) :
    ∃ value < 16, c = hexDigit value := by
  induction width generalizing n with
  | zero => cases member
  | succ width ih =>
      rw [hexDigits, List.mem_append, List.mem_singleton] at member
      obtain before | rfl := member
      · exact ih before
      · exact ⟨n % 16, Nat.mod_lt n (by decide), rfl⟩

namespace Quoted

def delimiter (text : List Char) : Char :=
  if text.contains '\'' && !text.contains '"' then '"' else '\''

def escaped (quote c : Char) : List Char :=
  if c = quote || c = '\\' then ['\\', c]
  else if c = '\n' then ['\\', 'n']
  else if c = '\r' then ['\\', 'r']
  else if c = '\t' then ['\\', 't']
  else if isPrintable c then [c]
  else if c.toNat < 0x100 then '\\' :: 'x' :: hexDigits 2 c.toNat
  else if c.toNat < 0x10000 then '\\' :: 'u' :: hexDigits 4 c.toNat
  else '\\' :: 'U' :: hexDigits 8 c.toNat

def escapedPoint (quote : Char) (point : Nat) : List Char :=
  if Surrogate.isHalf point then '\\' :: 'u' :: hexDigits 4 point
  else escaped quote (Char.ofNat point)

/-- A text with its lone halves of surrogate pairs written as their codes. -/
def withoutHalves (text : List Char) : List Char :=
  (Surrogate.points text).flatMap fun point =>
    if Surrogate.isHalf point then '\\' :: 'u' :: hexDigits 4 point
    else Surrogate.kept (Char.ofNat point)

end Quoted

def quoted (text : String) : String :=
  let quote := Quoted.delimiter text.toList
  String.ofList (quote :: (Surrogate.points text.toList).flatMap (Quoted.escapedPoint quote)
    ++ [quote])

end NativeBoundary.Text

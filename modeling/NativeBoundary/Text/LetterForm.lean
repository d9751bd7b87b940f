/-!
# Letter forms

Small Latin letters in other forms: wide, in one of the thirteen mathematical alphabets, raised,
lowered, as Roman numerals, and others that stand alone. Each form counts as its plain letter.
-/

namespace NativeBoundary.Text

/-- The forms outside of the alphabets, by their plain letters. -/
def singleForms : List (Char × List Nat) := [
  ('a', [0xAA, 0x1D43, 0x2090]), ('b', [0x1D47]), ('c', [0x1D9C, 0x217D]),
  ('d', [0x1D48, 0x2146, 0x217E]), ('e', [0x1D49, 0x2091, 0x212F, 0x2147]), ('f', [0x1DA0]),
  ('g', [0x1D4D, 0x210A]), ('h', [0x2B0, 0x2095, 0x210E]),
  ('i', [0x1D62, 0x2071, 0x2139, 0x2148, 0x2170]), ('j', [0x2B2, 0x2149, 0x2C7C]),
  ('k', [0x1D4F, 0x2096]), ('l', [0x2E1, 0x2097, 0x2113, 0x217C]), ('m', [0x1D50, 0x2098, 0x217F]),
  ('n', [0x207F, 0x2099]), ('o', [0xBA, 0x1D52, 0x2092, 0x2134]), ('p', [0x1D56, 0x209A]),
  ('q', [0x107A5]), ('r', [0x2B3, 0x1D63]), ('s', [0x17F, 0x2E2, 0x209B]), ('t', [0x1D57, 0x209C]),
  ('u', [0x1D58, 0x1D64]), ('v', [0x1D5B, 0x1D65, 0x2174]), ('w', [0x2B7]),
  ('x', [0x2E3, 0x2093, 0x2179]), ('y', [0x2B8]), ('z', [0x1DBB])]

/-- The first letters of the wide and of the mathematical alphabets. -/
def formAlphabets : List Nat :=
  0xFF41 :: (List.range 13).map fun alphabet => 0x1D41A + 52 * alphabet

/-- The places in the alphabets that are not assigned to letters. -/
def unassignedForms : List Nat := [0x1D455, 0x1D4BA, 0x1D4BC, 0x1D4C4]

def isForm (letter form : Nat) : Bool :=
  let place := letter - 'a'.toNat
  (formAlphabets.any fun first => form = first + place) && !unassignedForms.contains form

def letters : List Char := "abcdefghijklmnopqrstuvwxyz".toList

/-- The plain letter of a character that is a form of one. -/
def plainLetter (c : Char) : Char :=
  match singleForms.find? fun entry => entry.2.contains c.toNat with
  | some (letter, _) => letter
  | none => (letters.find? fun letter => isForm letter.toNat c.toNat).getD c

end NativeBoundary.Text

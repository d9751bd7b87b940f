import NativeBoundary.Text.CharacterName.Table

/-!
# Character names

The names by which an escape may call a character. Most are looked up in the table, in either case;
the names of ideographs and of Hangul syllables follow from their codes and sounds and are written
in capitals.
-/

namespace NativeBoundary.Text.CharacterName

/-- A name on its way through a table. The characters of the latest name of the table that have been
read are counted, and so are those of them in front of the first difference from the wanted name.
`shared` is the number in front of a name while it is read. -/
structure Search where
  count : Nat := 0
  agreed : Nat := 0
  shared : Option Nat := none
  found : Bool := false

namespace Search

def isHit (wanted : Array Char) (search : Search) : Bool :=
  search.count = wanted.size && search.agreed = wanted.size

def step (wanted : Array Char) (search : Search) (c : Char) : Search :=
  let value := c.toNat - 'a'.toNat
  if c.isWhitespace && c ≠ ' ' then search
  else if c.isLower then
    match search.shared with
    | some shared => { search with shared := some (shared + value) }
    | none => { search with shared := some value, found := search.found || search.isHit wanted }
  else
    let count := search.shared.getD search.count
    let agreed := min search.agreed count
    let agrees := agreed = count && wanted[count]? = some c
    { search with
      count := count + 1
      agreed := if agrees then count + 1 else agreed
      shared := none }

end Search

/-- Whether a table of names holds a name. No name is empty. -/
def holds (table name : List Char) : Bool :=
  let wanted := name.toArray
  let search := table.foldl (Search.step wanted) {}
  !name.isEmpty && (search.found || search.isHit wanted)

/-- The first and the last ideograph of each block. -/
def ideographs : List (Nat × Nat) :=
  [(0x3400, 0x4DBF), (0x4E00, 0x9FFF), (0x20000, 0x2A6DF), (0x2A700, 0x2B738), (0x2B740, 0x2B81D),
    (0x2B820, 0x2CEA1), (0x2CEB0, 0x2EBE0), (0x30000, 0x3134A)]

/-- What stands behind a beginning in a text that has it. -/
def behind? (beginning : String) (name : List Char) : Option (List Char) :=
  if beginning.toList.isPrefixOf name then some (name.drop beginning.length) else none

def codeDigit? (c : Char) : Option Nat :=
  if c.isDigit then some (c.toNat - '0'.toNat)
  else if 'A' ≤ c ∧ c ≤ 'F' then some (c.toNat - 'A'.toNat + 10)
  else none

def isIdeographCode (digits : List Char) : Bool :=
  match digits.mapM codeDigit? with
  | none => false
  | some values =>
      let code := values.foldl (fun code value => code * 16 + value) 0
      (digits.length = 4 || digits.length = 5) &&
        ideographs.any fun block => block.1 ≤ code && code ≤ block.2

def leadingSounds : List String :=
  ["G", "GG", "N", "D", "DD", "R", "M", "B", "BB", "S", "SS", "", "J", "JJ", "C", "K", "T", "P",
    "H"]

def vowelSounds : List String :=
  ["A", "AE", "YA", "YAE", "EO", "E", "YEO", "YE", "O", "WA", "WAE", "OE", "YO", "U", "WEO", "WE",
    "WI", "YU", "EU", "YI", "I"]

def trailingSounds : List String :=
  ["", "G", "GG", "GS", "N", "NJ", "NH", "D", "L", "LG", "LM", "LB", "LS", "LT", "LP", "LH", "M",
    "B", "BS", "S", "SS", "NG", "J", "C", "K", "T", "P", "H"]

def isSyllable (sounds : List Char) : Bool :=
  leadingSounds.any fun leading =>
    match behind? leading sounds with
    | none => false
    | some rest => vowelSounds.any fun vowel => (behind? vowel rest).any fun trailing =>
        trailingSounds.contains (String.ofList trailing)

def isName (name : List Char) : Bool :=
  ((behind? "CJK UNIFIED IDEOGRAPH-" name).any isIdeographCode) ||
    ((behind? "HANGUL SYLLABLE " name).any isSyllable) ||
    holds table.toList (name.map Char.toUpper)

end NativeBoundary.Text.CharacterName

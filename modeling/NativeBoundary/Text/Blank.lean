/-!
# Blank characters

A blank is a character of the Unicode white space property or one of the four information
separators U+001C to U+001F; spacing is a blank that is not such a separator. Trimming drops
characters of a class from the ends of a text and leaves everything between them alone.
-/

namespace NativeBoundary.Text

def isSeparator (c : Char) : Bool :=
  28 ≤ c.toNat && c.toNat ≤ 31

def isSpacing (c : Char) : Bool :=
  let n := c.toNat
  (9 ≤ n && n ≤ 13) || n == 32 || n == 0x85 || n == 0xA0 || n == 0x1680 ||
    (0x2000 ≤ n && n ≤ 0x200A) || n == 0x2028 || n == 0x2029 || n == 0x202F ||
    n == 0x205F || n == 0x3000

def isBlank (c : Char) : Bool :=
  isSeparator c || isSpacing c

/-- The characters after which a text breaks into a further line. -/
def isLineBreak (c : Char) : Bool :=
  let n := c.toNat
  (10 ≤ n && n ≤ 13) || (28 ≤ n && n ≤ 30) || n == 0x85 || n == 0x2028 || n == 0x2029

def trimEnd (inClass : Char → Bool) (text : List Char) : List Char :=
  (text.reverse.dropWhile inClass).reverse

def trim (inClass : Char → Bool) (text : List Char) : List Char :=
  trimEnd inClass (text.dropWhile inClass)

/-- The stretches of a text between the characters of a class; one more than there are such
characters. -/
def stretches (isBreak : Char → Bool) : List Char → List (List Char)
  | [] => [[]]
  | c :: rest =>
      if isBreak c then [] :: stretches isBreak rest
      else
        match stretches isBreak rest with
        | [] => [[c]]
        | first :: others => (c :: first) :: others

/-- A text with a line feed for each carriage return, with or without a line feed behind it. -/
def unifyLines : List Char → List Char
  | '\r' :: '\n' :: rest => '\n' :: unifyLines rest
  | '\r' :: rest => '\n' :: unifyLines rest
  | c :: rest => c :: unifyLines rest
  | [] => []

/-- The lines of a text, without the breaks at their ends. -/
def lines (text : List Char) : List (List Char) :=
  let parts := stretches isLineBreak (unifyLines text)
  if parts.getLast? = some [] then parts.dropLast else parts

def words (text : List Char) : List (List Char) :=
  (stretches isBlank text).filter fun word => !word.isEmpty

theorem isBlank_of_isSpacing {c : Char} (spacing : isSpacing c = true) : isBlank c = true := by
  simp [isBlank, spacing]

theorem stretches_eq_singleton {isBreak : Char → Bool} {text : List Char}
    (unbroken : ∀ c ∈ text, isBreak c = false) : stretches isBreak text = [text] := by
  induction text with
  | nil => rfl
  | cons c rest ih =>
      have others := ih fun d member => unbroken d (List.mem_cons_of_mem c member)
      simp [stretches, unbroken c List.mem_cons_self, others]

end NativeBoundary.Text

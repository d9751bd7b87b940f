import NativeBoundary.Text.LowerCase
import NativeBoundary.Text.Numeral

/-!
# Styles

A style is defined by words: effects that are set or unset, a colour, a background behind `on`,
and the target of a link. It has one canonical definition, in which the effects stand in a fixed
order under their full names; definitions of the same style so become the same text. A text that
defines no style is kept in lower case.
-/

namespace NativeBoundary.CommandLine

inductive Effect where
  | bold | dim | italic | underline | blink | blink2 | reverse | conceal | strike | underline2
  | frame | encircle | overline
  deriving DecidableEq, Repr

namespace Effect

def all : List Effect :=
  [.bold, .dim, .italic, .underline, .blink, .blink2, .reverse, .conceal, .strike, .underline2,
    .frame, .encircle, .overline]

def name : Effect → String
  | .bold => "bold"
  | .dim => "dim"
  | .italic => "italic"
  | .underline => "underline"
  | .blink => "blink"
  | .blink2 => "blink2"
  | .reverse => "reverse"
  | .conceal => "conceal"
  | .strike => "strike"
  | .underline2 => "underline2"
  | .frame => "frame"
  | .encircle => "encircle"
  | .overline => "overline"

def shortNames : List (String × Effect) :=
  [("b", .bold), ("c", .conceal), ("d", .dim), ("i", .italic), ("o", .overline), ("r", .reverse),
    ("s", .strike), ("u", .underline), ("uu", .underline2)]

def ofName? (name : String) : Option Effect :=
  (all.find? fun effect => effect.name == name).or (shortNames.lookup name)

end Effect

def colourTable : String := "
black red green yellow blue magenta cyan white bright_black bright_red bright_green
bright_yellow bright_blue bright_magenta bright_cyan bright_white grey0 gray0 navy_blue
dark_blue blue3 blue1 dark_green deep_sky_blue4 dodger_blue3 dodger_blue2 green4 spring_green4
turquoise4 deep_sky_blue3 dodger_blue1 green3 spring_green3 dark_cyan light_sea_green
deep_sky_blue2 deep_sky_blue1 spring_green2 cyan3 dark_turquoise turquoise2 green1 spring_green1
medium_spring_green cyan2 cyan1 dark_red deep_pink4 purple4 purple3 blue_violet orange4 grey37
gray37 medium_purple4 slate_blue3 royal_blue1 chartreuse4 dark_sea_green4 pale_turquoise4
steel_blue steel_blue3 cornflower_blue chartreuse3 cadet_blue sky_blue3 steel_blue1 pale_green3
sea_green3 aquamarine3 medium_turquoise chartreuse2 sea_green2 sea_green1 aquamarine1
dark_slate_gray2 dark_magenta dark_violet purple light_pink4 plum4 medium_purple3 slate_blue1
yellow4 wheat4 grey53 gray53 light_slate_grey light_slate_gray medium_purple light_slate_blue
dark_olive_green3 dark_sea_green light_sky_blue3 sky_blue2 dark_sea_green3 dark_slate_gray3
sky_blue1 chartreuse1 light_green pale_green1 dark_slate_gray1 red3 medium_violet_red magenta3
dark_orange3 indian_red hot_pink3 medium_orchid3 medium_orchid medium_purple2 dark_goldenrod
light_salmon3 rosy_brown grey63 gray63 medium_purple1 gold3 dark_khaki navajo_white3 grey69
gray69 light_steel_blue3 light_steel_blue yellow3 dark_sea_green2 light_cyan3 light_sky_blue1
green_yellow dark_olive_green2 dark_sea_green1 pale_turquoise1 deep_pink3 magenta2 hot_pink2
orchid medium_orchid1 orange3 light_pink3 pink3 plum3 violet light_goldenrod3 tan misty_rose3
thistle3 plum2 khaki3 light_goldenrod2 light_yellow3 grey84 gray84 light_steel_blue1 yellow2
dark_olive_green1 honeydew2 light_cyan1 red1 deep_pink2 deep_pink1 magenta1 orange_red1
indian_red1 hot_pink dark_orange salmon1 light_coral pale_violet_red1 orchid2 orchid1 orange1
sandy_brown light_salmon1 light_pink1 pink1 plum1 gold1 navajo_white1 misty_rose1 thistle1
yellow1 light_goldenrod1 khaki1 wheat1 cornsilk1 grey100 gray100 grey3 gray3 grey7 gray7 grey11
gray11 grey15 gray15 grey19 gray19 grey23 gray23 grey27 gray27 grey30 gray30 grey35 gray35
grey39 gray39 grey42 gray42 grey46 gray46 grey50 gray50 grey54 gray54 grey58 gray58 grey62
gray62 grey66 gray66 grey70 gray70 grey74 gray74 grey78 gray78 grey82 gray82 grey85 gray85
grey89 gray89 grey93 gray93
"

def colourNames : List (List Char) := Text.words colourTable.toList

/-- Why a text defines no style: it has a word that is out of place, or a colour made of numbers one
of which cannot be read. -/
inductive StyleFault where
  | unknownWord
  | unreadableNumber
  deriving DecidableEq, Repr

def brightest : Nat := 255

/-- The text between an opening and a closing part that enclose it. -/
def enclosed? (opening closing text : List Char) : Option (List Char) :=
  if opening.isPrefixOf text && closing.isSuffixOf text &&
      opening.length + closing.length ≤ text.length then
    some ((text.drop opening.length).take (text.length - opening.length - closing.length))
  else none

/-- A colour made of its three parts of light. -/
def mixture (parts : List (List Char)) : Except StyleFault Unit :=
  if parts.length ≠ 3 then .error .unknownWord
  else
    match parts.mapM (Text.Numeral.whole? 10) with
    | none => .error .unreadableNumber
    | some values =>
        if values.all (· ≤ brightest) then .ok () else .error .unknownWord

def isLowerHex (c : Char) : Bool := c.isDigit || ('a' ≤ c && c ≤ 'f')

/-- Accepts the words for a colour: a name, six hexadecimal digits, a number in the palette, or
three parts of light. -/
def checkColour (word : List Char) : Except StyleFault Unit :=
  if word = "default".toList || colourNames.contains word then .ok ()
  else
    match enclosed? ['#'] [] word, enclosed? "color(".toList [')'] word,
        enclosed? "rgb(".toList [')'] word with
    | some digits, _, _ =>
        if digits.length = 6 && digits.all isLowerHex then .ok () else .error .unknownWord
    | _, some digits, _ =>
        if 0 < digits.length && digits.length ≤ 3 && digits.all Char.isDigit &&
            (Text.Numeral.whole? 10 digits).any (fun value : Int => value ≤ brightest) then .ok ()
        else .error .unknownWord
    | _, _, some body =>
        if !body.isEmpty && body.all fun c => c = ',' || Text.isDecimalDigit c then
          mixture (Text.stretches (· = ',') body)
        else .error .unknownWord
    | none, none, none => .error .unknownWord

structure Style where
  effects : List (Effect × Bool) := []
  colour : Option (List Char) := none
  background : Option (List Char) := none
  link : Option (List Char) := none
  deriving DecidableEq, Repr

namespace Style

def set (effect : Effect) (present : Bool) (style : Style) : Style :=
  { style with effects := (effect, present) :: style.effects }

def readWords (style : Style) : List (List Char) → Except StyleFault Style
  | [] => .ok style
  | word :: rest =>
      match String.ofList (Text.lowered word), rest with
      | "on", colour :: others => do
          let background := Text.lowered colour
          checkColour background
          readWords { style with background := some background } others
      | "not", name :: others =>
          match Effect.ofName? (String.ofList name) with
          | none => .error .unknownWord
          | some effect => readWords (style.set effect false) others
      | "link", target :: others => readWords { style with link := some target } others
      | "on", [] | "not", [] | "link", [] => .error .unknownWord
      | name, others =>
          match Effect.ofName? name with
          | some effect => readWords (style.set effect true) others
          | none => do
              checkColour name.toList
              readWords { style with colour := some name.toList } others

def read (definition : List Char) : Except StyleFault Style :=
  if Text.trim Text.isBlank definition = "none".toList then .ok {}
  else readWords {} (Text.words definition)

def effectWords (style : Style) : List (List Char) :=
  Effect.all.flatMap fun effect =>
    match style.effects.lookup effect with
    | none => []
    | some true => [effect.name.toList]
    | some false => ["not".toList, effect.name.toList]

/-- The canonical definition of a style. -/
def definition (style : Style) : List Char :=
  let background := (style.background.map fun colour => ["on".toList, colour]).getD []
  let link := (style.link.map fun target => ["link".toList, target]).getD []
  match style.effectWords ++ style.colour.toList ++ background ++ link with
  | [] => "none".toList
  | words => (words.intersperse [' ']).flatten

/-- A definition in its canonical form; only a number that cannot be read prevents that. -/
def normal (definition : List Char) : Except StyleFault (List Char) :=
  match read definition with
  | .ok style => .ok style.definition
  | .error .unknownWord => .ok (Text.lowered (Text.trim Text.isBlank definition))
  | .error .unreadableNumber => .error .unreadableNumber

end Style

end NativeBoundary.CommandLine

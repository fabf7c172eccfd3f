import TierSplit.Text.LowerCase
import TierSplit.Text.WholeNumber

/-! Styles of console text. A style is written as words in any order: attributes, a colour, a colour
behind it and a link. Styles of one effect have one normal form. -/

namespace TierSplit.CommandLine

inductive Attribute where
  | bold
  | dim
  | italic
  | underline
  | blink
  | blink2
  | reverse
  | conceal
  | strike
  | underline2
  | frame
  | encircle
  | overline
deriving Repr, DecidableEq

namespace Attribute

def all : List Attribute :=
  [.bold, .dim, .italic, .underline, .blink, .blink2, .reverse, .conceal, .strike, .underline2,
    .frame, .encircle, .overline]

def name : Attribute → String
  | .bold => "bold"
  | .dim => "dim"
  | .italic => "italic"
  | .underline => "underline"
  | .blink => "blink"
  | .blink2 => "blink2"
  | .reverse => "reverse"
  | .conceal => "conceal"
  | .strike => "strike"
  | .underline2 => "underline2"
  | .frame => "frame"
  | .encircle => "encircle"
  | .overline => "overline"

/-- Most attributes have a short name. -/
def shortName? : Attribute → Option String
  | .bold => some "b"
  | .dim => some "d"
  | .italic => some "i"
  | .underline => some "u"
  | .reverse => some "r"
  | .conceal => some "c"
  | .strike => some "s"
  | .underline2 => some "uu"
  | .overline => some "o"
  | _ => none

def ofName? (word : String) : Option Attribute :=
  all.find? fun a => a.name == word || a.shortName? == some word

end Attribute

def colourNames : List String := Text.words "default
black red green yellow blue magenta cyan white bright_black bright_red bright_green
bright_yellow bright_blue bright_magenta bright_cyan bright_white grey0 gray0 navy_blue
dark_blue blue3 blue1 dark_green deep_sky_blue4 dodger_blue3 dodger_blue2 green4 spring_green4
turquoise4 deep_sky_blue3 dodger_blue1 green3 spring_green3 dark_cyan light_sea_green
deep_sky_blue2 deep_sky_blue1 spring_green2 cyan3 dark_turquoise turquoise2 green1 spring_green1
medium_spring_green cyan2 cyan1 dark_red deep_pink4 purple4 purple3 blue_violet orange4 grey37
gray37 medium_purple4 slate_blue3 royal_blue1 chartreuse4 dark_sea_green4 pale_turquoise4
steel_blue steel_blue3 cornflower_blue chartreuse3 cadet_blue sky_blue3 steel_blue1 pale_green3
sea_green3 aquamarine3 medium_turquoise chartreuse2 sea_green2 sea_green1 aquamarine1
dark_slate_gray2 dark_magenta dark_violet purple light_pink4 plum4 medium_purple3 slate_blue1
yellow4 wheat4 grey53 gray53 light_slate_grey light_slate_gray medium_purple light_slate_blue
dark_olive_green3 dark_sea_green light_sky_blue3 sky_blue2 dark_sea_green3 dark_slate_gray3
sky_blue1 chartreuse1 light_green pale_green1 dark_slate_gray1 red3 medium_violet_red magenta3
dark_orange3 indian_red hot_pink3 medium_orchid3 medium_orchid medium_purple2 dark_goldenrod
light_salmon3 rosy_brown grey63 gray63 medium_purple1 gold3 dark_khaki navajo_white3 grey69
gray69 light_steel_blue3 light_steel_blue yellow3 dark_sea_green2 light_cyan3 light_sky_blue1
green_yellow dark_olive_green2 dark_sea_green1 pale_turquoise1 deep_pink3 magenta2 hot_pink2
orchid medium_orchid1 orange3 light_pink3 pink3 plum3 violet light_goldenrod3 tan misty_rose3
thistle3 plum2 khaki3 light_goldenrod2 light_yellow3 grey84 gray84 light_steel_blue1 yellow2
dark_olive_green1 honeydew2 light_cyan1 red1 deep_pink2 deep_pink1 magenta1 orange_red1
indian_red1 hot_pink dark_orange salmon1 light_coral pale_violet_red1 orchid2 orchid1 orange1
sandy_brown light_salmon1 light_pink1 pink1 plum1 gold1 navajo_white1 misty_rose1 thistle1
yellow1 light_goldenrod1 khaki1 wheat1 cornsilk1 grey100 gray100 grey3 gray3 grey7 gray7 grey11
gray11 grey15 gray15 grey19 gray19 grey23 gray23 grey27 gray27 grey30 gray30 grey35 gray35
grey39 gray39 grey42 gray42 grey46 gray46 grey50 gray50 grey54 gray54 grey58 gray58 grey62
gray62 grey66 gray66 grey70 gray70 grey74 gray74 grey78 gray78 grey82 gray82 grey85 gray85
grey89 gray89 grey93 gray93"

def isHex (c : Char) : Bool := c.isDigit || ('a' ≤ c && c ≤ 'f')

/-- What stands between a beginning and a closing bracket at the very end. -/
def inBrackets? (opening : String) (cs : List Char) : Option (List Char) :=
  if opening.toList.isPrefixOf cs && cs.getLast? == some ')' then
    some (cs.drop opening.length).dropLast
  else none

def isLevel (ds : List Char) : Bool :=
  !ds.isEmpty && ds.all Char.isDigit && Text.digitsValue ds ≤ 255

/-- A name, six hexadecimal digits, a number or three levels of light. -/
def isColour (word : String) : Bool :=
  let cs := word.toList
  colourNames.contains word ||
    (cs.head? == some '#' && cs.length == 7 && cs.tail.all isHex) ||
    (match inBrackets? "color(" cs with
      | some ds => ds.length ≤ 3 && isLevel ds
      | none => false) ||
    (match inBrackets? "rgb(" cs with
      | some ds => (ds.splitOn ',').length == 3 && (ds.splitOn ',').all isLevel
      | none => false)

inductive Word where
  | on
  | not
  | link
  | attribute (a : Attribute)
  | colour (name : String)
  | unknown
deriving Repr, DecidableEq

def Word.of (word : String) : Word :=
  if word = "on" then .on
  else if word = "not" then .not
  else if word = "link" then .link
  else
    match Attribute.ofName? word with
    | some a => .attribute a
    | none => if isColour word then .colour word else .unknown

structure Style where
  attributes : List (Attribute × Bool)
  colour : Option String
  behind : Option String
  link : Option String
deriving Repr, DecidableEq

namespace Style

def plain : Style := ⟨[], none, none, none⟩

/-- The later word wins. -/
def set (s : Style) (a : Attribute) (value : Bool) : Style :=
  { s with attributes := (a, value) :: s.attributes }

/-- Reads the words of a style; `before` is a word that wants another one after it. -/
def read? (s : Style) (before : Option Word) : List String → Option Style
  | [] =>
    match before with
    | none => some s
    | some _ => none
  | word :: rest =>
    match before with
    | none =>
      match Word.of (Text.lowerCase word) with
      | .attribute a => read? (s.set a true) none rest
      | .colour c => read? { s with colour := some c } none rest
      | .unknown => none
      | w => read? s (some w) rest
    | some .on =>
      let name := Text.lowerCase word
      if isColour name then read? { s with behind := some name } none rest else none
    | some .not =>
      match Attribute.ofName? word with
      | some a => read? (s.set a false) none rest
      | none => none
    | some _ => read? { s with link := some word } none rest

def toWords (s : Style) : List String :=
  (Attribute.all.flatMap fun a =>
    match (s.attributes.find? (·.1 == a)).map (·.2) with
    | some true => [a.name]
    | some false => ["not", a.name]
    | none => []) ++
  s.colour.toList ++
  (match s.behind with
    | some c => ["on", c]
    | none => []) ++
  (match s.link with
    | some l => ["link", l]
    | none => [])

/-- The normal form of what a tag says; what is no style stays as it is, in small letters. -/
def normalForm (words : List String) (text : String) : String :=
  if words = ["none"] then "none"
  else
    match read? plain none words with
    | some s => if s = plain then "none" else " ".intercalate s.toWords
    | none => Text.lowerCase text

end Style

end TierSplit.CommandLine

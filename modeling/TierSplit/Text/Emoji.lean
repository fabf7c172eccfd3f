import TierSplit.Text.Blank
import TierSplit.Text.Emoji.Table
import TierSplit.Text.LowerCase

/-! Emoji by name. A name between two colons stands for its emoji; a name may end in a skin tone, and
in the way the emoji is to be presented. -/

namespace TierSplit.Text.Emoji

def pairs : List String → List (String × String)
  | name :: emoji :: rest => (name, emoji) :: pairs rest
  | _ => []

def plain : List (String × String) := pairs (words plainNames)

def toned : List (String × String) := pairs (words tonedNames)

/-- The ends of names that ask for a skin tone, and the mark of the tone. -/
def tones : List (String × Char) :=
  [("_light_skin_tone", Char.ofNat 0x1F3FB), ("_medium-light_skin_tone", Char.ofNat 0x1F3FC),
    ("_medium_skin_tone", Char.ofNat 0x1F3FD), ("_medium-dark_skin_tone", Char.ofNat 0x1F3FE),
    ("_dark_skin_tone", Char.ofNat 0x1F3FF)]

/-- Flags of regions, which are spelled with tags after a black flag. -/
def regions : List (String × String) := [("england", "gbeng"), ("scotland", "gbsct"), ("wales", "gbwls")]

def regionFlag (code : String) : String :=
  String.ofList (Char.ofNat 0x1F3F4 :: code.toList.map (fun c => Char.ofNat (0xE0000 + c.toNat)) ++
    [Char.ofNat 0xE007F])

/-- The mark of a coloured presentation, and that of a plain one. -/
def colouredMark : Char := Char.ofNat 0xFE0F

def plainMark : Char := Char.ofNat 0xFE0E

/-- A tone stands after the first character and takes the place of a presentation mark there. -/
def withTone (tone : Char) (emoji : String) : String :=
  match emoji.toList with
  | c :: rest => String.ofList (c :: tone :: if rest.head? = some colouredMark then rest.tail else rest)
  | [] => ""

def find? (table : List (String × String)) (name : String) : Option String :=
  (table.find? (·.1 == name)).map (·.2)

def stem? (name ending : List Char) : Option (List Char) :=
  if ending.isSuffixOf name then some (name.take (name.length - ending.length)) else none

def tonedEmoji? (name : String) : Option String :=
  tones.findSome? fun t =>
    (stem? name.toList t.1.toList).bind fun stem => (find? toned (String.ofList stem)).map (withTone t.2)

def ofName? (name : String) : Option String :=
  let name := lowerCase name
  ((find? plain name).or (find? toned name)).or
    ((tonedEmoji? name).or ((find? regions name).map regionFlag))

/-- The emoji of what stands between two colons. -/
def ofCode? (code : List Char) : Option (List Char) :=
  let marked := fun (stem : List Char) (mark : List Char) =>
    (ofName? (String.ofList stem)).map fun e => e.toList ++ mark
  match stem? code "-emoji".toList, stem? code "-text".toList with
  | some stem, _ => marked stem [colouredMark]
  | none, some stem => marked stem [plainMark]
  | none, none => marked code []

/-- Replaces every name between colons that has an emoji; `code` holds what has been read since the
last colon, in reverse. A name has no blanks. -/
def replaceFrom (code : Option (List Char)) : List Char → List Char
  | [] =>
    match code with
    | none => []
    | some code => ':' :: code.reverse
  | c :: rest =>
    match code with
    | none => if c = ':' then replaceFrom (some []) rest else c :: replaceFrom none rest
    | some code =>
      if c = ':' then
        (ofCode? code.reverse).getD (':' :: code.reverse ++ [':']) ++ replaceFrom none rest
      else if isBlank c then ':' :: code.reverse ++ c :: replaceFrom none rest
      else replaceFrom (some (c :: code)) rest

def replace (cs : List Char) : List Char := replaceFrom none cs

end TierSplit.Text.Emoji

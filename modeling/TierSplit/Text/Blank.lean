/-! Classes of characters, blank characters of every script, line ends, and what is cut or split at
them. -/

namespace TierSplit.Text

/-- Closed ranges of code points. -/
abbrev CharClass := List (Nat × Nat)

def CharClass.contains (ranges : CharClass) (c : Char) : Bool :=
  ranges.any fun r => r.1 ≤ c.toNat && c.toNat ≤ r.2

def blanks : CharClass :=
  [(0x9, 0xD), (0x1C, 0x20), (0x85, 0x85), (0xA0, 0xA0), (0x1680, 0x1680), (0x2000, 0x200A),
    (0x2028, 0x2029), (0x202F, 0x202F), (0x205F, 0x205F), (0x3000, 0x3000)]

def isBlank (c : Char) : Bool := blanks.contains c

def isLineEnd (c : Char) : Bool := c == '\n' || c == '\r'

/-- Blank, but not the end of a line. -/
def isInnerBlank (c : Char) : Bool := isBlank c && !isLineEnd c

/-- Every line end as one newline. -/
def unifyLines : List Char → List Char
  | '\r' :: '\n' :: rest => '\n' :: unifyLines rest
  | '\r' :: rest => '\n' :: unifyLines rest
  | c :: rest => c :: unifyLines rest
  | [] => []

def unifyLineEnds (s : String) : String := String.ofList (unifyLines s.toList)

def trimBy (p : Char → Bool) (cs : List Char) : List Char :=
  ((cs.dropWhile p).reverse.dropWhile p).reverse

def trim (cs : List Char) : List Char := trimBy isBlank cs

def trimEnd (cs : List Char) : List Char := (cs.reverse.dropWhile isBlank).reverse

def byteOrderMark : Char := Char.ofNat 0xFEFF

def dropMark : List Char → List Char
  | c :: rest => if c = byteOrderMark then rest else c :: rest
  | [] => []

/-- The code points that end a line of shown text. -/
def lineBreaks : CharClass := [(0xA, 0xD), (0x1C, 0x1E), (0x85, 0x85), (0x2028, 0x2029)]

/-- The lines of a text; `line` holds the characters of the current one in reverse. What follows the
last break is a line if there is anything. -/
def splitLinesFrom (line : List Char) : List Char → List String
  | [] => if line.isEmpty then [] else [String.ofList line.reverse]
  | '\r' :: '\n' :: rest => String.ofList line.reverse :: splitLinesFrom [] rest
  | c :: rest =>
    if lineBreaks.contains c then String.ofList line.reverse :: splitLinesFrom [] rest
    else splitLinesFrom (c :: line) rest

def splitLines (s : String) : List String := splitLinesFrom [] s.toList

def words (s : String) : List String :=
  (s.toList.splitBy fun a b => isBlank a == isBlank b).filterMap fun run =>
    if run.all isBlank then none else some (String.ofList run)

end TierSplit.Text

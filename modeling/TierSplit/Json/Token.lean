import TierSplit.Text.WholeNumber
import TierSplit.Value

/-! Tokens of JSON text. The text is read one character at a time; a word is a run of characters
of numbers and names, and is judged when it ends. -/

namespace TierSplit.Json

open Text (digitLimit digitsValue)

inductive Token where
  | openList
  | closeList
  | openDict
  | closeDict
  | comma
  | colon
  | scalar (value : Value)

/-- Where the reader stands: between tokens, in a word, or in a string. Collected characters are
in reverse. A first half of a surrogate pair waits for its second half. -/
inductive Mode where
  | between
  | word (text : List Char)
  | string (text : List Char)
  | escape (text : List Char)
  | unicode (text : List Char) (digits : Nat) (code : Nat)
  | pair (text : List Char) (high : Nat)
  | pairEscape (text : List Char) (high : Nat)
  | pairUnicode (text : List Char) (high : Nat) (digits : Nat) (code : Nat)

def takeDigits (cs : List Char) : Option (List Char × List Char) :=
  match cs.takeWhile Char.isDigit with
  | [] => none
  | ds => some (ds, cs.dropWhile Char.isDigit)

/-- The whole part of a number has no needless leading zero. -/
def wholePart (cs : List Char) : Option (List Char × List Char) :=
  match cs with
  | '0' :: rest => some (['0'], rest)
  | _ => takeDigits cs

def exponentPart (cs : List Char) : Option Int :=
  match cs with
  | '-' :: ds => exponentDigits ds |>.map fun n => -(n : Int)
  | '+' :: ds => exponentDigits ds |>.map fun n => (n : Int)
  | ds => exponentDigits ds |>.map fun n => (n : Int)
where
  exponentDigits (ds : List Char) : Option Nat :=
    match takeDigits ds with
    | some (digits, []) => some (digitsValue digits)
    | _ => none

def infinity : Float := 1.0 / 0.0

/-- `m * 10 ^ e` as the nearest binary64 number; far out of range it is infinite or zero. -/
def magnitude (m : Nat) (e : Int) : Float :=
  let lead := e + (Nat.toDigits 10 m).length
  if m = 0 ∨ lead < -400 then 0.0
  else if 400 < lead then infinity
  else if 0 ≤ e then Float.ofScientific m false e.toNat
  else Float.ofScientific m true (-e).toNat

def floatOf (negative : Bool) (m : Nat) (e : Int) : Float :=
  if negative then -magnitude m e else magnitude m e

def integer? (negative : Bool) (digits : List Char) : Option Value :=
  if digitLimit < digits.length then none
  else some (.int (if negative then -(digitsValue digits : Int) else digitsValue digits))

def number? (negative : Bool) (cs : List Char) : Option Value :=
  match wholePart cs with
  | none => none
  | some (whole, []) => integer? negative whole
  | some (whole, '.' :: rest) =>
    match takeDigits rest with
    | none => none
    | some (frac, []) => some (.float (floatOf negative (digitsValue (whole ++ frac)) (-(frac.length : Int))))
    | some (frac, c :: rest) =>
      if c = 'e' ∨ c = 'E' then
        (exponentPart rest).map fun e =>
          .float (floatOf negative (digitsValue (whole ++ frac)) (e - frac.length))
      else none
  | some (whole, c :: rest) =>
    if c = 'e' ∨ c = 'E' then
      (exponentPart rest).map fun e => .float (floatOf negative (digitsValue whole) e)
    else none

def word? (cs : List Char) : Option Value :=
  match String.ofList cs with
  | "null" => some .null
  | "true" => some (.bool true)
  | "false" => some (.bool false)
  | "NaN" => some (.float (0.0 / 0.0))
  | "Infinity" => some (.float infinity)
  | "-Infinity" => some (.float (-infinity))
  | _ =>
    match cs with
    | '-' :: rest => number? true rest
    | _ => number? false cs

def isWordChar (c : Char) : Bool := c.isAlphanum || c == '-' || c == '+' || c == '.'

def isBlank (c : Char) : Bool := c == ' ' || c == '\t' || c == '\n' || c == '\r'

def punctuation? (c : Char) : Option Token :=
  match c with
  | '[' => some .openList
  | ']' => some .closeList
  | '\x7b' => some .openDict
  | '\x7d' => some .closeDict
  | ',' => some .comma
  | ':' => some .colon
  | _ => none

def simpleEscape? (c : Char) : Option Char :=
  match c with
  | '"' => some '"'
  | '\\' => some '\\'
  | '/' => some '/'
  | 'b' => some (Char.ofNat 8)
  | 'f' => some (Char.ofNat 12)
  | 'n' => some '\n'
  | 'r' => some '\r'
  | 't' => some '\t'
  | _ => none

/-- One character outside strings and words. -/
def startToken (done : List Token) (c : Char) : Option (List Token × Mode) :=
  if isBlank c then some (done, .between)
  else if c = '"' then some (done, .string [])
  else if isWordChar c then some (done, .word [c])
  else (punctuation? c).map fun t => (t :: done, .between)

def isHigh (code : Nat) : Bool := 0xD800 ≤ code && code < 0xDC00

def isLow (code : Nat) : Bool := 0xDC00 ≤ code && code < 0xE000

/-- One character of input: the tokens completed so far, in reverse, and the new mode. -/
def step (done : List Token) (mode : Mode) (c : Char) : Option (List Token × Mode) :=
  match mode with
  | .between => startToken done c
  | .word text =>
    if isWordChar c then some (done, .word (c :: text))
    else
      match word? text.reverse with
      | some v => startToken (.scalar v :: done) c
      | none => none
  | .string text =>
    if c = '"' then some (.scalar (.str (String.ofList text.reverse)) :: done, .between)
    else if c = '\\' then some (done, .escape text)
    else if c.toNat < 0x20 then none
    else some (done, .string (c :: text))
  | .escape text =>
    if c = 'u' then some (done, .unicode text 0 0)
    else (simpleEscape? c).map fun e => (done, .string (e :: text))
  | .unicode text digits code =>
    (Text.hexValue? c).map fun h =>
      let code := 16 * code + h
      if digits < 3 then (done, .unicode text (digits + 1) code)
      else if isHigh code then (done, .pair text code)
      else (done, .string (Char.ofNat code :: text))
  | .pair text high => if c = '\\' then some (done, .pairEscape text high) else none
  | .pairEscape text high => if c = 'u' then some (done, .pairUnicode text high 0 0) else none
  | .pairUnicode text high digits code =>
    match Text.hexValue? c with
    | none => none
    | some h =>
      let code := 16 * code + h
      if digits < 3 then some (done, .pairUnicode text high (digits + 1) code)
      else if isLow code then
        some (done, .string (Char.ofNat (0x10000 + 1024 * (high - 0xD800) + (code - 0xDC00)) :: text))
      else none

def finish (done : List Token) : Mode → Option (List Token)
  | .between => some done.reverse
  | .word text => (word? text.reverse).map fun v => (Token.scalar v :: done).reverse
  | _ => none

def scan (done : List Token) (mode : Mode) : List Char → Option (List Token)
  | [] => finish done mode
  | c :: rest =>
    match step done mode c with
    | some (done, mode) => scan done mode rest
    | none => none

def tokens? (s : String) : Option (List Token) := scan [] .between s.toList

end TierSplit.Json

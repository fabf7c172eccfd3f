import TierSplit.Text.Blank
import TierSplit.Text.Letter

/-! Handlers of console text: a name with arguments in brackets. The arguments are literals: numbers,
quoted text, the constants, and groups of literals in brackets or braces. -/

namespace TierSplit.CommandLine.Handler

open Text

def skip (cs : List Char) : List Char := cs.dropWhile isBlank

/-- What follows a quoted text; a line end does not belong to it. -/
def quoted? (quote : Char) : List Char → Option (List Char)
  | [] => none
  | '\\' :: _ :: rest => quoted? quote rest
  | c :: rest => if c = quote then some rest else if c = '\n' then none else quoted? quote rest

/-- What follows a number: digits with single underscores, a fraction, an exponent. -/
def number? (cs : List Char) : Option (List Char) :=
  let digits := fun (cs : List Char) => cs.dropWhile fun c => c.isDigit || c == '_'
  let whole := cs.takeWhile fun c => c.isDigit || c == '_'
  let fraction :=
    match digits cs with
    | '.' :: rest => digits rest
    | rest => rest
  let rest :=
    match fraction with
    | c :: '-' :: d :: rest => if (c = 'e' ∨ c = 'E') ∧ d.isDigit then digits rest else fraction
    | c :: '+' :: d :: rest => if (c = 'e' ∨ c = 'E') ∧ d.isDigit then digits rest else fraction
    | c :: d :: rest => if (c = 'e' ∨ c = 'E') ∧ d.isDigit then digits rest else fraction
    | rest => rest
  let padded := whole.head? == some '0' && 1 < whole.length && !whole.all (· == '0') && rest == digits cs
  if padded then none else some rest

def constants : List String := ["True", "False", "None", "..."]

def constant? (cs : List Char) : Option (List Char) :=
  constants.findSome? fun name =>
    if name.toList.isPrefixOf cs then some (cs.drop name.length) else none

def isQuote (c : Char) : Bool := c == '\'' || c == '"'

mutual

def literal? : Nat → List Char → Option (List Char)
  | 0, _ => none
  | fuel + 1, cs =>
    match skip cs with
    | [] => none
    | c :: rest =>
      if c = '(' then items? fuel false ')' (skip rest)
      else if c = '\x7b' then items? fuel true '\x7d' (skip rest)
      else if isQuote c then quoted? c rest
      else if c.isDigit then number? (c :: rest)
      else if c = '-' ∨ c = '+' then
        match skip rest with
        | d :: more => if d.isDigit then number? (d :: more) else none
        | [] => none
      else constant? (c :: rest)

/-- What follows the closing bracket of a group; between braces an item may be a pair. -/
def items? : Nat → Bool → Char → List Char → Option (List Char)
  | 0, _, _, _ => none
  | fuel + 1, paired, close, cs =>
    match cs with
    | [] => none
    | c :: rest =>
      if c = close then some rest
      else
        match literal? fuel cs with
        | none => none
        | some after =>
          let value :=
            match paired, skip after with
            | true, ':' :: more => (literal? fuel more).map skip
            | _, more => some more
          match value with
          | some (',' :: more) => items? fuel paired close (skip more)
          | some (d :: more) => if d = close then some more else none
          | _ => none

end

def isLiteral (cs : List Char) : Bool :=
  match literal? (cs.length + 1) cs with
  | some rest => (skip rest).isEmpty
  | none => false

def isNameChar (c : Char) : Bool := letters.contains c || c.isDigit || c == '_' || c == '.'

/-- A name alone, a name with arguments, or a literal. -/
def isValid (text : List Char) : Bool :=
  match text.dropWhile isNameChar with
  | [] => true
  | '(' :: rest =>
    if rest.getLast? == some ')' && !rest.contains '\n' then isLiteral ('(' :: rest) else isLiteral text
  | _ => isLiteral text

end TierSplit.CommandLine.Handler

import TierSplit.Value

/-! Writing JSON in printable ASCII, on one line or indented by two. -/

namespace TierSplit.Json

def unitEscape (n : Nat) : List Char := '\\' :: 'u' :: Text.hexDigits 4 n

def escapeChar (c : Char) : List Char :=
  if c = '"' then ['\\', '"']
  else if c = '\\' then ['\\', '\\']
  else if c = '\n' then ['\\', 'n']
  else if c = '\r' then ['\\', 'r']
  else if c = '\t' then ['\\', 't']
  else if c.toNat = 8 then ['\\', 'b']
  else if c.toNat = 12 then ['\\', 'f']
  else if 0x20 ≤ c.toNat ∧ c.toNat < 0x7F then [c]
  else if c.toNat < 0x10000 then unitEscape c.toNat
  else
    let n := c.toNat - 0x10000
    unitEscape (0xD800 + n / 1024) ++ unitEscape (0xDC00 + n % 1024)

def string (s : String) : String := String.ofList ('"' :: s.toList.flatMap escapeChar ++ ['"'])

def float (x : Float) : String :=
  match Decimal.Number.ofFloat x with
  | .notANumber => "NaN"
  | .infinite negative => if negative then "-Infinity" else "Infinity"
  | .finite b => b.text

mutual

def line : Value → String
  | .null => "null"
  | .bool b => if b then "true" else "false"
  | .int n => intLiteral n
  | .float x => float x
  | .str s => string s
  | .list items => "[" ++ ", ".intercalate (lineItems items) ++ "]"
  | .dict entries => "\x7b" ++ ", ".intercalate (lineEntries entries) ++ "\x7d"

def lineItems : List Value → List String
  | [] => []
  | v :: rest => line v :: lineItems rest

def lineEntries : List (String × Value) → List String
  | [] => []
  | (k, v) :: rest => (string k ++ ": " ++ line v) :: lineEntries rest

end

def margin (depth : Nat) : String := String.ofList ('\n' :: List.replicate (2 * depth) ' ')

def enclose (depth : Nat) (left right : String) (items : List String) : String :=
  match items with
  | [] => left ++ right
  | _ =>
    left ++ margin (depth + 1) ++ ("," ++ margin (depth + 1)).intercalate items ++ margin depth ++ right

mutual

def indented (depth : Nat) : Value → String
  | .list items => enclose depth "[" "]" (indentedItems (depth + 1) items)
  | .dict entries => enclose depth "\x7b" "\x7d" (indentedEntries (depth + 1) entries)
  | v => line v

def indentedItems (depth : Nat) : List Value → List String
  | [] => []
  | v :: rest => indented depth v :: indentedItems depth rest

def indentedEntries (depth : Nat) : List (String × Value) → List String
  | [] => []
  | (k, v) :: rest => (string k ++ ": " ++ indented depth v) :: indentedEntries depth rest

end

end TierSplit.Json

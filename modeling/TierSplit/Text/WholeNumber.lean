import TierSplit.Text.Blank

/-! Digits, and whole numbers as people write them: blanks around, one sign, leading zeros, single
underscores between digits, and a fraction of nothing but zeros. -/

namespace TierSplit.Text

def hexDigit (n : Nat) : Char := Char.ofNat (if n < 10 then 48 + n else 87 + n)

/-- The last `width` hexadecimal digits of `n`. -/
def hexDigits : Nat → Nat → List Char
  | 0, _ => []
  | width + 1, n => hexDigits width (n / 16) ++ [hexDigit (n % 16)]

def hexValue? (c : Char) : Option Nat :=
  if c.isDigit then some (c.toNat - 48)
  else if 'a' ≤ c ∧ c ≤ 'f' then some (c.toNat - 87)
  else if 'A' ≤ c ∧ c ≤ 'F' then some (c.toNat - 55)
  else none

/-- The most digits that are read as one number. -/
def digitLimit : Nat := 4300

def digitsValue (ds : List Char) : Nat := ds.foldl (fun n d => 10 * n + (d.toNat - 48)) 0

inductive WholeNumber where
  | value (n : Int)
  | malformed
  /-- It has more digits than are read. -/
  | oversized
deriving Repr, DecidableEq

namespace WholeNumber

def isPadding (c : Char) : Bool := isBlank c && !(0x1C ≤ c.toNat && c.toNat ≤ 0x1F)

def splitSign : List Char → Bool × List Char
  | '-' :: rest => (true, rest)
  | '+' :: rest => (false, rest)
  | cs => (false, cs)

/-- Drops a fraction if it holds zeros only. -/
def dropFraction (cs : List Char) : List Char :=
  match cs.dropWhile (· != '.') with
  | _ :: fraction => if fraction.all (· == '0') then cs.takeWhile (· != '.') else cs
  | [] => cs

/-- After a leading zero, zeros and underscores do not count; of zeros alone the last one stays. -/
def dropZeros (cs : List Char) : List Char :=
  match cs with
  | '0' :: rest =>
    match rest.dropWhile fun c => c == '0' || c == '_' with
    | [] => (cs.getLast?).toList
    | more => more
  | _ => cs

/-- Drops the underscores; none of them stands beside another or at an end. -/
def joinGroups? (cs : List Char) : Option (List Char) :=
  let groups := cs.splitOn '_'
  if groups.all fun g => !g.isEmpty && g.all Char.isDigit then some groups.flatten else none

def read (s : String) : WholeNumber :=
  let parts := splitSign (trimBy isPadding s.toList)
  match joinGroups? (dropZeros (dropFraction parts.2)) with
  | none => .malformed
  | some digits =>
    if digitLimit < digits.length then .oversized
    else .value (if parts.1 then -(digitsValue digits : Int) else digitsValue digits)

end WholeNumber

end TierSplit.Text

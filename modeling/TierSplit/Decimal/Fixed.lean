import TierSplit.Decimal.Binary

/-! Numbers with two places, rounded from the exact binary value; a half goes to the even
neighbour. -/

namespace TierSplit.Decimal

/-- `num / den` to the nearest integer, halves to even. -/
def roundDiv (num den : Nat) : Nat :=
  let low := num / den
  let twice := 2 * (num % den)
  if twice < den then low
  else if den < twice then low + 1
  else if low % 2 = 0 then low else low + 1

def twoDigits (n : Nat) : String := if n < 10 then "0" ++ Nat.repr n else Nat.repr n

def Binary.toFixed (b : Binary) : String :=
  let q := scaled (b.mantissa * 100) 2 b.exponent
  let cents := roundDiv q.1 q.2
  (if b.negative then "-" else "") ++ Nat.repr (cents / 100) ++ "." ++ twoDigits (cents % 100)

def toFixed (x : Float) : String :=
  match Number.ofFloat x with
  | .notANumber => "nan"
  | .infinite negative => if negative then "-inf" else "inf"
  | .finite b => b.toFixed

def cents (x : Float) : Float :=
  match Number.ofFloat x with
  | .finite b =>
    let q := scaled (b.mantissa * 100) 2 b.exponent
    let r := Float.ofScientific (roundDiv q.1 q.2) true 2
    if b.negative then -r else r
  | _ => x

end TierSplit.Decimal

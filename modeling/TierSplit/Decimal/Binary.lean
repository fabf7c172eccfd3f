/-! A finite binary64 number as an exact fraction: the sign and the positive integers of
`mantissa * 2 ^ exponent`. -/

namespace TierSplit.Decimal

structure Binary where
  negative : Bool
  mantissa : Nat
  exponent : Int
deriving Repr, DecidableEq

inductive Number where
  | notANumber
  | infinite (negative : Bool)
  | finite (b : Binary)
deriving Repr, DecidableEq

/-- Reads the sign, the eleven exponent bits and the fifty-two fraction bits. -/
def Number.ofBits (bits : Nat) : Number :=
  let negative := bits / Nat.pow 2 63 % 2 == 1
  let biased : Nat := bits / Nat.pow 2 52 % Nat.pow 2 11
  let fraction : Nat := bits % Nat.pow 2 52
  if biased = 2047 then if fraction = 0 then .infinite negative else .notANumber
  else if biased = 0 then .finite ⟨negative, fraction, -1074⟩
  else .finite ⟨negative, Nat.pow 2 52 + fraction, (biased : Int) - 1075⟩

def Number.ofFloat (x : Float) : Number := .ofBits x.toBits.toNat

/-- Numerator and denominator of `n * base ^ e`. -/
def scaled (n base : Nat) (e : Int) : Nat × Nat :=
  if 0 ≤ e then (n * base.pow e.toNat, 1) else (n, base.pow (-e).toNat)

/-- The number as an integer, if it is one. -/
def Binary.toInt? (b : Binary) : Option Int :=
  let parts := scaled b.mantissa 2 b.exponent
  if parts.1 % parts.2 = 0 then
    let n : Int := (parts.1 / parts.2 : Nat)
    some (if b.negative then -n else n)
  else none

end TierSplit.Decimal

import TierSplit.Decimal.Binary

/-! The fewest decimal digits that read back as the same binary64 number. Every grid of `n`
digits has two neighbours of the value; the first grid with a neighbour inside the interval of
reals that round to the value wins. -/

namespace TierSplit.Decimal

/-- `a < b` for fractions of positive denominators. -/
def fracLt (a b : Nat × Nat) : Bool := a.1 * b.2 < b.1 * a.2

def fracLe (a b : Nat × Nat) : Bool := a.1 * b.2 ≤ b.1 * a.2

def Binary.value (b : Binary) : Nat × Nat := scaled b.mantissa 2 b.exponent

/-- The lower end of the reals that round to the number; a power of two has its lower neighbour at
half the distance. -/
def Binary.lower (b : Binary) : Nat × Nat :=
  if b.mantissa = Nat.pow 2 52 ∧ -1074 < b.exponent then scaled (4 * b.mantissa - 1) 2 (b.exponent - 2)
  else scaled (2 * b.mantissa - 1) 2 (b.exponent - 1)

def Binary.upper (b : Binary) : Nat × Nat := scaled (2 * b.mantissa + 1) 2 (b.exponent - 1)

def Binary.covers (b : Binary) (x : Nat × Nat) : Bool :=
  if b.mantissa % 2 = 0 then fracLe b.lower x && fracLe x b.upper
  else fracLt b.lower x && fracLt x b.upper

/-- The exponent of the leading decimal digit of a positive fraction. -/
def leadingExponent (x : Nat × Nat) : Int :=
  let guess := ((Nat.toDigits 10 x.1).length : Int) - (Nat.toDigits 10 x.2).length
  if fracLe (scaled 1 10 guess) x then guess else guess - 1

/-- Which of `k` and `k + 1` times `10 ^ step` reads back; of two the nearer, of equals the even. -/
def Binary.pick (b : Binary) (k : Nat) (step : Int) : Option Nat :=
  let low := b.covers (scaled k 10 step)
  let high := b.covers (scaled (k + 1) 10 step)
  if low && high then
    let middle := scaled (5 * (2 * k + 1)) 10 (step - 1)
    if fracLt b.value middle then some k
    else if fracLt middle b.value then some (k + 1)
    else some (if k % 2 = 0 then k else k + 1)
  else if low then some k
  else if high then some (k + 1)
  else none

/-- Tries grids of `digits`, `digits + 1`, … digits. -/
def Binary.search (b : Binary) (lead : Int) : Nat → Nat → Nat × Int
  | 0, _ => (0, 0)
  | fuel + 1, digits =>
    let step := lead - digits + 1
    let unit := scaled 1 10 step
    match b.pick (b.value.1 * unit.2 / (b.value.2 * unit.1)) step with
    | some k => (k, step)
    | none => b.search lead fuel (digits + 1)

/-- Digits without trailing zeros, and the exponent of the leading one. -/
structure Scientific where
  digits : List Char
  exponent : Int
deriving Repr

def Binary.shortest (b : Binary) : Scientific :=
  let found := b.search (leadingExponent b.value) 18 1
  let ds := Nat.toDigits 10 found.1
  ⟨(ds.reverse.dropWhile (· = '0')).reverse, found.2 + ds.length - 1⟩

def zeros (n : Nat) : List Char := List.replicate n '0'

/-- Positional from `1e-4` up to below `1e16`, with at least one decimal. -/
def Scientific.positional (s : Scientific) : List Char :=
  if s.exponent < 0 then '0' :: '.' :: (zeros (-s.exponent - 1).toNat ++ s.digits)
  else
    let whole := s.exponent.toNat + 1
    let padded := s.digits ++ zeros (whole - s.digits.length)
    padded.take whole ++ '.' :: (if padded.length ≤ whole then ['0'] else padded.drop whole)

def exponentText (e : Int) : List Char :=
  let ds := Nat.toDigits 10 e.natAbs
  (if e < 0 then '-' else '+') :: (zeros (2 - ds.length) ++ ds)

def Scientific.withExponent (s : Scientific) : List Char :=
  match s.digits with
  | [] => []
  | d :: rest => d :: ((if rest.isEmpty then [] else '.' :: rest) ++ 'e' :: exponentText s.exponent)

def Scientific.text (s : Scientific) : List Char :=
  if -4 ≤ s.exponent ∧ s.exponent < 16 then s.positional else s.withExponent

def Binary.text (b : Binary) : String :=
  String.ofList ((if b.negative then ['-'] else []) ++
    if b.mantissa = 0 then ['0', '.', '0'] else b.shortest.text)

end TierSplit.Decimal

/-! Lists in order: stable sorting, and sets of names. The program runs on the core library alone, whose
merge sort cannot be evaluated in proofs, so the insertion sort is written out here; it is shown to be
that of Mathlib where its order is proved. -/

namespace TierSplit

section

variable {α : Type}

/-- Puts an element before the first one that it does not exceed. -/
def insertBy (le : α → α → Bool) (a : α) : List α → List α
  | [] => [a]
  | b :: rest => if le a b then a :: b :: rest else b :: insertBy le a rest

/-- Elements that compare equal both ways keep their order. -/
def sortBy (le : α → α → Bool) : List α → List α
  | [] => []
  | a :: rest => insertBy le a (sortBy le rest)

end

/-- A set of names: the list of them in increasing order of code points, without repetition. -/
abbrev Names := List String

namespace Names

def insert (name : String) : Names → Names
  | [] => [name]
  | n :: rest =>
    if name < n then name :: n :: rest
    else if name = n then n :: rest
    else n :: insert name rest

def ofList (names : List String) : Names := names.foldl (fun acc n => acc.insert n) []

end Names

end TierSplit

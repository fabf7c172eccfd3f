import TierSplit.Problem
import TierSplit.Result
import TierSplit.Text.WholeNumber

/-! Records read from plain data. A member is found under its name on the wire or its name in the
program; unknown members are ignored. Integers and truth values may be spelled as text. Records do
not change. -/

namespace TierSplit.Record

open Checked

/-- The first of several names that is given, with its value. -/
def member? (given : Fields) (names : List String) : Option (String × Value) :=
  names.findSome? fun name => (given.get? name).map fun v => (name, v)

/-- A member that must be there; if it is not, its first name is reported. -/
def required {α : Type} (given : Fields) (names : List String) (check : Value → Checked α) : Checked α :=
  match member? given names with
  | some (name, v) => within (.field name) (check v)
  | none => within (.field (names.head?.getD "")) (fail .missing)

def optional {α : Type} (given : Fields) (names : List String) (default : α)
    (check : Value → Checked α) : Checked α :=
  match member? given names with
  | some (name, v) => within (.field name) (check v)
  | none => .ok default

/-- The name on the wire, then the name in the program. -/
def both (f : Naming → String) : List String := [f .wire, f .program]

/-- The integers that fit in a 64-bit word. -/
def isWord (n : Int) : Bool := -Int.pow 2 63 ≤ n && n < Int.pow 2 63

/-- A number without a fraction is an integer, as long as it is smaller than a word. -/
def ofFloat (x : Float) : Checked Int :=
  match Decimal.Number.ofFloat x with
  | .finite b =>
    match b.toInt? with
    | some n => if n.natAbs < Nat.pow 2 63 then .ok n else fail .oversizedInteger
    | none => fail .fractional
  | _ => fail .notFinite

def ofText (s : String) : Checked Int :=
  match Text.WholeNumber.read s with
  | .value n => .ok n
  | .malformed => fail .unreadableInteger
  | .oversized => fail .oversizedInteger

def integer : Value → Checked Int
  | .int n => .ok n
  | .bool b => .ok (if b then 1 else 0)
  | .float x => ofFloat x
  | .str s => ofText s
  | _ => fail .notInteger

def trueWords : List String := ["1", "t", "y", "on", "yes", "true"]

def falseWords : List String := ["0", "f", "n", "no", "off", "false"]

def boolOfText (s : String) : Checked Bool :=
  let word := s.map Char.toLower
  if trueWords.contains word then .ok true
  else if falseWords.contains word then .ok false
  else fail .unreadableBoolean

def boolOfInt (n : Int) : Checked Bool :=
  if n = 0 then .ok false
  else if n = 1 then .ok true
  else if isWord n then fail .unreadableBoolean
  else fail .notBoolean

def boolean : Value → Checked Bool
  | .bool b => .ok b
  | .int n => boolOfInt n
  | .float x =>
    match ofFloat x with
    | .ok n => boolOfInt n
    | .error _ => fail .notBoolean
  | .str s => boolOfText s
  | _ => fail .notBoolean

def tier : Value → Checked Tier
  | .str s =>
    match Tier.ofName? s with
    | some t => .ok t
    | none => fail (.notMember "server" "client")
  | _ => fail (.notMember "server" "client")

def fragment : Value → Checked Fragment
  | .dict given =>
    let id := required given ["id"] integer
    let session := required given (both Naming.session) boolean
    let code := required given ["code"] text
    let inputs := optional given (both Naming.inputs) [] (list text)
    let outputs := optional given (both Naming.outputs) [] (list text)
    match id, session, code, inputs, outputs with
    | .ok id, .ok session, .ok code, .ok inputs, .ok outputs => .ok ⟨id, session, code, inputs, outputs⟩
    | _, _, _, _, _ =>
      .error (id.problems ++ session.problems ++ code.problems ++ inputs.problems ++ outputs.problems)
  | _ => fail (.notRecord "Fragment")

def summary : Value → Checked Summary
  | .dict given =>
    let id := required given ["id"] integer
    let tiers := required given ["tiers"] (list tier)
    let start := required given ["start"] integer
    let stop := required given ["end"] integer
    let session := required given (both Naming.session) boolean
    let inputs := optional given (both Naming.inputs) [] (list text)
    let outputs := optional given (both Naming.outputs) [] (list text)
    match id, tiers, start, stop, session, inputs, outputs with
    | .ok id, .ok tiers, .ok start, .ok stop, .ok session, .ok inputs, .ok outputs =>
      .ok ⟨id, tiers, start, stop, session, inputs, outputs⟩
    | _, _, _, _, _, _, _ =>
      .error (id.problems ++ tiers.problems ++ start.problems ++ stop.problems ++ session.problems ++
        inputs.problems ++ outputs.problems)
  | _ => fail (.notRecord "BlockSummary")

def result : Value → Checked Result
  | .dict given =>
    let server := optional given ["server"] [] (list fragment)
    let blocks := optional given ["blocks"] [] (list summary)
    match server, blocks with
    | .ok server, .ok blocks => .ok ⟨server, blocks⟩
    | _, _ => .error (server.problems ++ blocks.problems)
  | _ => fail (.notRecord "CompilationResult")

/-- Setting a member of a record is always refused. -/
def refusal (member : String) : Problem := ⟨[.field member], .frozen⟩

end TierSplit.Record

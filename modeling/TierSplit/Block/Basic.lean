import TierSplit.Diagnostic
import TierSplit.Ordered
import TierSplit.Tier

/-! Tier blocks: the region a marker governs, and what is known of it. A frozen block changes no
more. -/

namespace TierSplit

structure Block where
  id : Nat
  tiers : TierSet
  start : Int
  stop : Int
  session : Bool
  inputs : Names
  outputs : Names
  frozen : Bool
deriving Repr, DecidableEq

namespace Block

def new (id : Nat) (tiers : TierSet) (start stop : Int) : Block :=
  ⟨id, tiers, start, stop, false, [], [], false⟩

def isServer (b : Block) : Bool := b.tiers.has .server

def isClient (b : Block) : Bool := b.tiers.has .client

/-- A change, refused by a frozen block. -/
def change (f : Block → Block) (b : Block) : Except Failure Block :=
  if b.frozen then .error (.frozenBlock b.id) else .ok (f b)

def addInput (name : String) : Block → Except Failure Block :=
  change fun b => { b with inputs := b.inputs.insert name }

def addOutput (name : String) : Block → Except Failure Block :=
  change fun b => { b with outputs := b.outputs.insert name }

def requireSession : Block → Except Failure Block :=
  change fun b => { b with session := true }

def freeze (b : Block) : Block := { b with frozen := true }

end Block

/-- The blocks after an operation, and the failure that stopped it. -/
structure Outcome where
  blocks : List Block
  failure : Option Failure
deriving Repr, DecidableEq

namespace Outcome

def andThen (o : Outcome) (f : List Block → Outcome) : Outcome :=
  match o.failure with
  | none => f o.blocks
  | some _ => o

def onBlock (i : Nat) (f : Block → Except Failure Block) (blocks : List Block) : Outcome :=
  match blocks[i]? with
  | none => ⟨blocks, none⟩
  | some b =>
    match f b with
    | .ok b' => ⟨blocks.set i b', none⟩
    | .error e => ⟨blocks, some e⟩

end Outcome

end TierSplit

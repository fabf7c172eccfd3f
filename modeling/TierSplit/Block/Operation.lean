import TierSplit.Block.Crossing
import TierSplit.Fragment

/-! The operations on a list of blocks. Each names the blocks it works on by their indices; one that
fails keeps what it had done before. -/

namespace TierSplit.Block

inductive Operation where
  | addInput (block : Nat) (name : String)
  | addOutput (block : Nat) (name : String)
  | requireSession (block : Nat)
  | freeze (block : Nat)
  | reference (user declarer : Nat) (name : String)
  | generate (bytes : ByteArray) (channels : Channels)

def failureOf {α : Type} : Except Failure α → Option Failure
  | .ok _ => none
  | .error e => some e

def Operation.run : Operation → List Block → Outcome
  | .addInput i name, blocks => .onBlock i (Block.addInput name) blocks
  | .addOutput i name, blocks => .onBlock i (Block.addOutput name) blocks
  | .requireSession i, blocks => .onBlock i Block.requireSession blocks
  | .freeze i, blocks => .onBlock i (fun b => .ok b.freeze) blocks
  | .reference user declarer name, blocks => applyReference user declarer name blocks
  | .generate bytes channels, blocks => ⟨blocks, failureOf (Fragment.generate bytes channels blocks)⟩

def runAll (operations : List Operation) (blocks : List Block) : List Block :=
  operations.foldl (fun bs op => (op.run bs).blocks) blocks

end TierSplit.Block

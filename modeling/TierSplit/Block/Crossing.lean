import TierSplit.Block.Segment
import TierSplit.Scope.Graph

/-! What a reference means for the blocks of its use and its declaration. Within one block nothing
happens. Between two server blocks the using block needs session state. Two client blocks share one
live scope. Otherwise the name leaves the declaring block as output and enters the using block as
input. -/

namespace TierSplit.Block

open Scope

inductive Crossing where
  | none
  | session
  | channel
deriving Repr, DecidableEq

/-- The crossing between two different blocks. -/
def crossing (user declarer : Block) : Crossing :=
  if user.isServer && declarer.isServer then .session
  else if user.isClient && declarer.isClient then .none
  else .channel

/-- Applies a reference to `name` from block `user` to block `declarer`. -/
def applyReference (user declarer : Nat) (name : String) (blocks : List Block) : Outcome :=
  if user = declarer then ⟨blocks, .none⟩
  else
    match blocks[user]?, blocks[declarer]? with
    | some u, some d =>
      match crossing u d with
      | .none => ⟨blocks, .none⟩
      | .session => Outcome.onBlock user requireSession blocks
      | .channel => (Outcome.onBlock declarer (addOutput name) blocks).andThen (.onBlock user (addInput name))
    | _, _ => ⟨blocks, .none⟩

/-- The using block, the declaring block and the name, when the reference counts. -/
def link? (blocks : List Block) (excluded : Reference → Bool) (r : Reference) :
    Option (Nat × Nat × String) :=
  match r.declaration with
  | none => none
  | some d =>
    if excluded r then none
    else
      let user := ownerIndex blocks r.use.stop
      let declarer := ownerIndex blocks d.stop
      if user < blocks.length ∧ declarer < blocks.length then some (user, declarer, r.use.name)
      else none

structure Classified where
  blocks : List Block
  count : Nat
  failure : Option Failure
deriving Repr, DecidableEq

def classifyFrom (count : Nat) (blocks : List Block) (excluded : Reference → Bool) :
    List Reference → Classified
  | [] => ⟨blocks, count, none⟩
  | r :: rest =>
    match link? blocks excluded r with
    | none => classifyFrom count blocks excluded rest
    | some (user, declarer, name) =>
      let o := applyReference user declarer name blocks
      match o.failure with
      | none => classifyFrom (count + 1) o.blocks excluded rest
      | some e => ⟨o.blocks, count, some e⟩

def classify (references : List Reference) (excluded : Reference → Bool) (blocks : List Block) :
    Classified :=
  classifyFrom 0 blocks excluded references

end TierSplit.Block

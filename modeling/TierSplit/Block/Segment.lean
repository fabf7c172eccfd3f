import TierSplit.Block.Basic
import TierSplit.Marker.Scan

/-! Cutting a module into blocks, and finding the block that owns an offset. -/

namespace TierSplit.Block

/-- Block `i` runs from the end of marker `i` to the start of the next one, the last to the end of
the source. -/
def segmentFrom (id : Nat) (length : Int) : List Marker → List Block
  | [] => []
  | [m] => [.new id (.ofList m.tiers) m.stop length]
  | m :: next :: rest =>
    .new id (.ofList m.tiers) m.stop next.start :: segmentFrom (id + 1) length (next :: rest)

def segment (markers : List Marker) (length : Int) : List Block := segmentFrom 0 length markers

/-- Leftmost index in `[lo, hi)` whose end is not before `offset`, by halving. -/
def bisect (ends : Array Int) (offset : Int) (lo hi : Nat) : Nat :=
  if lo < hi then
    let mid := (lo + hi) / 2
    if ends.getD mid 0 < offset then bisect ends offset (mid + 1) hi
    else bisect ends offset lo mid
  else lo
termination_by hi - lo

/-- The index of the block that owns an offset: the first whose end is at or after it. -/
def ownerIndex (blocks : List Block) (offset : Int) : Nat :=
  let ends := (blocks.map Block.stop).toArray
  bisect ends offset 0 ends.size

def owner? (blocks : List Block) (offset : Int) : Option Block := blocks[ownerIndex blocks offset]?

end TierSplit.Block

import TierSplit.Concrete.Node
import TierSplit.Value

/-! Concrete trees as plain data: a node is the list of its kind, start, end, flags, field and children.
The last three may be left out. The flags add 1 for a named node, 2 for a missing one and 4 for one
with errors in it. -/

namespace TierSplit.Concrete

def hasFlag (flags : Int) (bit : Int) : Bool := flags / bit % 2 == 1

def fieldOf : Value → Option String
  | .str s => some s
  | _ => none

mutual

def Node.ofValue : Value → Node
  | .list [.str kind, .int start, .int stop] => ⟨kind, start, stop, false, false, false, none, []⟩
  | .list [.str kind, .int start, .int stop, .int flags, field, .list children] =>
    ⟨kind, start, stop, hasFlag flags 1, hasFlag flags 2, hasFlag flags 4, fieldOf field,
      Node.ofValues children⟩
  | _ => default

def Node.ofValues : List Value → List Node
  | [] => []
  | v :: rest => Node.ofValue v :: Node.ofValues rest

end

/-- The tree in a value; no tree is written as null. -/
def tree? : Value → Option Node
  | .null => none
  | v => some (Node.ofValue v)

end TierSplit.Concrete

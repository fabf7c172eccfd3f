import TierSplit.Fragment

/-! What a compilation yields: the server fragments and a summary of every block. -/

namespace TierSplit

structure Summary where
  id : Int
  tiers : List Tier
  start : Int
  stop : Int
  session : Bool
  inputs : List String
  outputs : List String
deriving Repr, DecidableEq

def Summary.ofBlock (b : Block) : Summary :=
  ⟨b.id, b.tiers.toList, b.start, b.stop, b.session, b.inputs, b.outputs⟩

structure Result where
  server : List Fragment
  blocks : List Summary
deriving Repr, DecidableEq

/-- How the members of a record are called: as on the wire, or as in the program. -/
inductive Naming where
  | wire
  | program
deriving Repr, DecidableEq

def Naming.session : Naming → String
  | .wire => "sessionRequired"
  | .program => "session_required"

def Naming.inputs : Naming → String
  | .wire => "inputNames"
  | .program => "input_names"

def Naming.outputs : Naming → String
  | .wire => "outputNames"
  | .program => "output_names"

/-- What the fragment's consumer needs. The id is opaque, so it is text. -/
def Fragment.core (naming : Naming) (f : Fragment) : Fields :=
  [("id", .str (intLiteral f.id)), (naming.session, .bool f.session), ("code", .str f.code)]

def Fragment.toValue (naming : Naming) (f : Fragment) : Value :=
  .dict (f.core naming ++ [(naming.inputs, .strs f.inputs), (naming.outputs, .strs f.outputs)])

def Summary.toValue (naming : Naming) (s : Summary) : Value :=
  .dict [("id", .int s.id), ("tiers", .strs (s.tiers.map Tier.name)), ("start", .int s.start),
    ("end", .int s.stop), (naming.session, .bool s.session), (naming.inputs, .strs s.inputs),
    (naming.outputs, .strs s.outputs)]

def Result.toValue (naming : Naming) (r : Result) : Value :=
  .dict [("server", .list (r.server.map (Fragment.toValue naming))),
    ("blocks", .list (r.blocks.map (Summary.toValue naming)))]

/-- The fragments alone, as they go on the wire. -/
def outputValue (server : List Fragment) : Value :=
  .dict [("server", .list (server.map fun f => .dict (f.core .wire)))]

end TierSplit

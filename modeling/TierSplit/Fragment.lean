import TierSplit.Block.Basic
import TierSplit.Source

/-! Fragments: the code of each server block, between a line that takes its inputs from the input
channel and a line that puts its outputs on the output channel. -/

namespace TierSplit

structure Channels where
  input : String
  output : String
deriving Repr, DecidableEq

structure Fragment where
  id : Int
  session : Bool
  code : String
  inputs : List String
  outputs : List String
deriving Repr, DecidableEq

namespace Fragment

def bag (names : List String) : String := "\x7b " ++ ", ".intercalate names ++ " \x7d"

def inputLine (channels : Channels) (names : Names) : List String :=
  if names.isEmpty then [] else [";const " ++ bag names ++ " = " ++ channels.input ++ ";"]

def outputLine (channels : Channels) (names : Names) : String :=
  ";" ++ channels.output ++ " = " ++ (if names.isEmpty then "\x7b\x7d" else bag names) ++ ";"

/-- The code of a block: the lines around its piece of the source. -/
def render (bytes : ByteArray) (channels : Channels) (b : Block) : Except Failure String :=
  (Source.slice bytes b.start b.stop).map fun piece =>
    "\n".intercalate (inputLine channels b.inputs ++ [piece, outputLine channels b.outputs])

def ofBlock (bytes : ByteArray) (channels : Channels) (b : Block) : Except Failure Fragment :=
  if b.frozen then
    (render bytes channels b).map fun code => ⟨b.id, b.session, code, b.inputs, b.outputs⟩
  else .error (.unfrozenBlock b.id)

def generate (bytes : ByteArray) (channels : Channels) : List Block → Except Failure (List Fragment)
  | [] => .ok []
  | b :: rest =>
    if b.isServer then
      match ofBlock bytes channels b with
      | .ok fragment => (generate bytes channels rest).map (fragment :: ·)
      | .error e => .error e
    else generate bytes channels rest

end Fragment

end TierSplit

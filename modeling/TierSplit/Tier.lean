/-! Tiers and sets of tiers. -/

namespace TierSplit

inductive Tier where
  | server
  | client
deriving Repr, DecidableEq

namespace Tier

def name : Tier → String
  | .server => "server"
  | .client => "client"

def ofName? (s : String) : Option Tier :=
  if s = "server" then some .server else if s = "client" then some .client else none

end Tier

structure TierSet where
  server : Bool
  client : Bool
deriving Repr, DecidableEq

namespace TierSet

def has (s : TierSet) : Tier → Bool
  | .server => s.server
  | .client => s.client

def ofList (tiers : List Tier) : TierSet := ⟨.server ∈ tiers, .client ∈ tiers⟩

/-- The members in order of their names. -/
def toList (s : TierSet) : List Tier :=
  (if s.client then [.client] else []) ++ (if s.server then [.server] else [])

def names (s : TierSet) : List String := s.toList.map Tier.name

end TierSet

end TierSplit

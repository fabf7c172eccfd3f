import TierSplit.Log.Event
import TierSplit.Text.LowerCase

/-! The grammars that sources can be written in. A grammar answers to its name and its aliases, in
any case, once it has been loaded. -/

namespace TierSplit

structure Grammar where
  name : String
  aliases : List String
deriving Repr, DecidableEq

namespace Grammar

def known : List Grammar := [⟨"javascript", ["js"]⟩, ⟨"html", ["vue"]⟩]

/-- Loads the known grammars that are available, and logs each attempt. -/
def loadAll (available : String → Bool) : List Grammar × List Log.Event :=
  (known.filter fun g => available g.name, known.map fun g =>
    if available g.name then
      ⟨.debug, "grammar_loaded", [("language", .str g.name), ("aliases", .strs g.aliases)]⟩
    else
      ⟨.warning, "grammar_load_failed",
        [("language", .str g.name), ("error", .str ("no grammar " ++ g.name))]⟩)

def answersTo (language : String) (g : Grammar) : Bool :=
  (g.name :: g.aliases).contains (Text.lowerCase language)

def supports (loaded : List Grammar) (language : String) : Bool :=
  loaded.any (answersTo language)

end Grammar

end TierSplit

import TierSplit.Compiler
import TierSplit.Component.Resource
import TierSplit.Component.Script

/-! Loading a component document: the script of a flagged resource is compiled, any other document
passes through. -/

namespace TierSplit.Component

structure Selection where
  extensions : List String
  flag : String
deriving Repr, DecidableEq

/-- The parser's trees: that of the document, and that of the script found in it. -/
structure Trees where
  document : Option Concrete.Node
  script : Option Concrete.Node

inductive Loaded where
  | passthrough
  | compiled (script : Script) (success : Success)

structure Load where
  outcome : Except Failure Loaded
  /-- The events of a load in which compiling took `elapsed` milliseconds. -/
  events : Float → List Log.Event

def passedEvent (resource : String) : Log.Event :=
  ⟨.debug, "component_passthrough", [("resource_path", .str resource)]⟩

def compiledEvent (resource : String) (s : Success) : Log.Event :=
  ⟨.info, "component_compiled",
    [("resource_path", .str resource), ("fragments", .nat s.result.server.length)]⟩

def load (options : Options) (selection : Selection) (document resource : String) (trees : Trees) :
    Load :=
  if Resource.isFlagged selection.extensions selection.flag resource then
    match extract document resource trees.document with
    | .error e => ⟨.error e, fun _ => []⟩
    | .ok script =>
      let run := Compiler.compile options resource script.text trees.script
      match run.outcome with
      | .error e => ⟨.error e, run.events⟩
      | .ok s =>
        ⟨.ok (.compiled script s), fun elapsed => run.events elapsed ++ [compiledEvent resource s]⟩
  else ⟨.ok .passthrough, fun _ => [passedEvent resource]⟩

end TierSplit.Component

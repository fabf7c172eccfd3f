import TierSplit.Concrete.Node
import TierSplit.Grammar
import TierSplit.Source

/-! Taking over what the parser returned. Without leave, a tree with errors is rejected, and the
first few errors are reported. -/

namespace TierSplit.Concrete

def reportedErrors : Nat := 5

def errorOffsets (root : Node) : List Int := (root.errors.take reportedErrors).map Node.start

/-- The accepted tree or the failure, with the events logged on the way. -/
structure Parsed where
  events : List Log.Event
  tree : Except Failure Node

def syntaxEvent (path : String) (offsets : List Int) : Log.Event :=
  ⟨.warning, "syntax_errors_found", [("file_path", .str path), ("offsets", .ints offsets)]⟩

def syntaxFailure (path : String) : List Int → Failure
  | first :: others => .diagnostic (.syntaxErrors path first others)
  | [] => .noErrorNode

def accept (source : Source) (allowErrors : Bool) (tree : Option Node) : Parsed :=
  if Grammar.supports Grammar.known source.language then
    match tree with
    | none => ⟨[], .error (.diagnostic (.noTree source.path))⟩
    | some root =>
      if !allowErrors && root.hasError then
        let offsets := errorOffsets root
        ⟨[syntaxEvent source.path offsets], .error (syntaxFailure source.path offsets)⟩
      else ⟨[], .ok root⟩
  else ⟨[], .error (.diagnostic (.unsupportedLanguage source.language))⟩

end TierSplit.Concrete

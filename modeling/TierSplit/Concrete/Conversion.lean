import TierSplit.Concrete.Node
import TierSplit.Ordered
import TierSplit.Source
import TierSplit.Syntax.Node
import TierSplit.Text.Letter

/-! From the concrete tree to syntax nodes. Named nodes are kept, comments apart; of the anonymous
ones only words are, as keywords of their parent. The kind decides the role. Trees can be deep, so the
nodes under conversion stand on a stack of their own. -/

namespace TierSplit.Concrete

def functionKinds : List String :=
  ["function_declaration", "function_expression", "function", "generator_function_declaration",
    "generator_function", "arrow_function", "method_definition"]

def blockKinds : List String := ["program", "statement_block", "class_body", "switch_body"]

def identifierKinds : List String :=
  ["identifier", "shorthand_property_identifier", "shorthand_property_identifier_pattern"]

def commentKinds : List String := ["comment", "html_comment"]

def isKept (n : Node) : Bool := n.named && !commentKinds.contains n.kind

def isKeyword (n : Node) : Bool := !n.named && Text.isWord n.kind

/-- The word tokens among the direct parts. -/
def keywords (n : Node) : Names := Names.ofList ((n.children.filter isKeyword).map Node.kind)

/-- The text of the first part in field `label`. -/
def labelText (bytes : ByteArray) (n : Node) : Except Failure String :=
  match n.child? "label" with
  | some label => Source.slice bytes label.start label.stop
  | none => .ok ""

def role (bytes : ByteArray) (n : Node) : Except Failure Syntax.Role :=
  if n.kind == "labeled_statement" then (labelText bytes n).map .labeled
  else if functionKinds.contains n.kind then .ok (.function ((keywords n).contains "async"))
  else if blockKinds.contains n.kind then .ok .block
  else if identifierKinds.contains n.kind then (Source.slice bytes n.start n.stop).map .identifier
  else .ok .other

/-- A node under conversion: its kept parts that wait, the next one first, and those converted. -/
structure Frame where
  node : Node
  field : Option String
  pending : List Node
  converted : Array Syntax.Node

namespace Frame

def enter (field : Option String) (n : Node) : Frame := ⟨n, field, n.children.filter isKept, #[]⟩

def receive (f : Frame) (m : Syntax.Node) : Frame := { f with converted := f.converted.push m }

def leave (bytes : ByteArray) (f : Frame) : Except Failure Syntax.Node := do
  let r ← role bytes f.node
  return ⟨r, f.node.kind, f.node.start, f.node.stop, f.field, keywords f.node, f.converted.toList⟩

/-- A bound on the steps that a frame still takes: one to leave it, and two for every waiting node. -/
def work (f : Frame) : Nat := 2 * (Node.preorderAll f.pending).length + 1

def workAll : List Frame → Nat
  | [] => 0
  | f :: rest => f.work + workAll rest

theorem work_enter (field : Option String) (n : Node) :
    (enter field n).work < 2 * n.preorder.length := by
  have h := Node.length_preorderAll_filter isKept n.children
  simp only [work, enter, Node.length_preorder]
  omega

end Frame

/-- Converts the innermost node, then the nodes around it. -/
def run (bytes : ByteArray) : Frame → List Frame → Except Failure Syntax.Node
  | ⟨n, field, c :: waiting, converted⟩, around =>
    run bytes (.enter c.field c) (⟨n, field, waiting, converted⟩ :: around)
  | ⟨n, field, [], converted⟩, around => do
    let m ← Frame.leave bytes ⟨n, field, [], converted⟩
    match around with
    | [] => return m
    | parent :: outer => run bytes (parent.receive m) outer
termination_by top around => top.work + Frame.workAll around
decreasing_by
  · have h := Frame.work_enter c.field c
    simp only [Frame.workAll, Frame.work, Node.preorderAll, List.length_append] at h ⊢
    omega
  · simp only [Frame.workAll, Frame.work, Frame.receive]
    omega

/-- The syntax tree; its root fills no field. -/
def toSyntax (bytes : ByteArray) (root : Node) : Except Failure Syntax.Node :=
  run bytes (.enter none root) []

end TierSplit.Concrete

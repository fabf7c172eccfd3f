import TierSplit.Scope.Outline

/-! How deep the visit of a program nests. The visitor calls itself for what lies below a node, so each
node on the way down holds calls open. Which nodes are on a way down, and with which duty, the plans say. -/

namespace TierSplit.Scope

open Syntax

/-- The calls that evaluating a node holds open for its children: one for the node, and one that goes
through the children, except that the statements of an export are gone through at once. -/
def visitCalls (n : Node) : Nat :=
  if n.isIdentifier then 1
  else if n.isFunction then 2
  else if n.kind == "export_statement" then 1
  else 2

def isPattern (n : Node) : Bool :=
  n.isIdentifier || ["object_pattern", "array_pattern", "rest_pattern", "pair_pattern",
    "assignment_pattern", "object_assignment_pattern"].contains n.kind

/-- What is no pattern is evaluated in the place of one. -/
def calls (duty : Duty) (n : Node) : Nat :=
  match duty with
  | .visit => visitCalls n
  | .pattern _ => if isPattern n then 1 else 1 + visitCalls n
  | .body => if n.kind == "statement_block" then 1 else visitCalls n
  | .exportClause => 1
  | .parameters | .declarator _ | .exportSpecifier | .imported => 0

def deepest (children : List (Duty → Nat)) (steps : List Step) : Nat :=
  (steps.map fun s =>
    match children[s.1]? with
    | some depth => depth s.2
    | none => 0).foldr max 0

mutual

/-- The most calls that are open at once below and at a node with a duty. -/
def callDepth : Node → Duty → Nat
  | ⟨role, kind, start, stop, field, keywords, children⟩ => fun duty =>
    let n : Node := ⟨role, kind, start, stop, field, keywords, children⟩
    calls duty n + deepest (callDepths children) (Plan.of duty n).steps

def callDepths : List Node → List (Duty → Nat)
  | [] => []
  | c :: rest => callDepth c :: callDepths rest

end

/-- The most calls that are open at once in the visit of a program, whose root is not visited itself. -/
def depth (program : Node) : Nat := deepest (callDepths program.children) (Plan.all .visit program)

end TierSplit.Scope

/-! The concrete tree that a parser hands over: every token is a node, words and punctuation are
anonymous, and nodes may be missing or lie around errors. -/

namespace TierSplit.Concrete

structure Node where
  kind : String
  start : Int
  stop : Int
  named : Bool
  missing : Bool
  hasError : Bool
  field : Option String
  children : List Node
deriving Repr, BEq

instance : Inhabited Node := ⟨⟨"", 0, 0, false, false, false, none, []⟩⟩

namespace Node

def isError (n : Node) : Bool := n.kind == "ERROR" || n.missing

mutual

/-- All nodes of a subtree, parents before children, children left to right. -/
def preorder : Node → List Node
  | ⟨kind, start, stop, named, missing, hasError, field, children⟩ =>
    ⟨kind, start, stop, named, missing, hasError, field, children⟩ :: preorderAll children

def preorderAll : List Node → List Node
  | [] => []
  | c :: rest => c.preorder ++ preorderAll rest

end

theorem length_preorder (n : Node) : n.preorder.length = (preorderAll n.children).length + 1 := by
  cases n
  rw [preorder, List.length_cons]

theorem length_preorderAll_filter (p : Node → Bool) (ns : List Node) :
    (preorderAll (ns.filter p)).length ≤ (preorderAll ns).length := by
  induction ns with
  | nil => exact Nat.le_refl _
  | cons c rest ih =>
    rw [List.filter_cons, preorderAll, List.length_append]
    split
    · rw [preorderAll, List.length_append]
      omega
    · omega

@[simp] theorem preorderAll_append (a b : List Node) :
    preorderAll (a ++ b) = preorderAll a ++ preorderAll b := by
  induction a with
  | nil => rfl
  | cons c rest ih => rw [List.cons_append, preorderAll, preorderAll, ih, List.append_assoc]

/-- The nodes met from a stack of nodes to visit: the one on top is taken off, and its children are put
on top, the first one uppermost. -/
@[semireducible]
def visit : List Node → List Node
  | [] => []
  | n :: stack => n :: visit (n.children ++ stack)
termination_by stack => (preorderAll stack).length
decreasing_by
  rw [preorderAll_append, preorderAll, List.length_append, List.length_append, length_preorder]
  omega

theorem visit_eq (stack : List Node) : visit stack = preorderAll stack := by
  fun_induction visit stack with
  | case1 => rfl
  | case2 n stack ih =>
    cases n
    rw [ih, preorderAll_append, preorderAll, preorder, List.cons_append]

/-- The first node that a visit of the stack meets with the property; what is left on the stack then is
not looked at. -/
@[semireducible]
def search (p : Node → Bool) : List Node → Option Node
  | [] => none
  | n :: stack => if p n then some n else search p (n.children ++ stack)
termination_by stack => (preorderAll stack).length
decreasing_by
  rw [preorderAll_append, preorderAll, List.length_append, List.length_append, length_preorder]
  omega

theorem search_eq (p : Node → Bool) (stack : List Node) : search p stack = (visit stack).find? p := by
  fun_induction search p stack with
  | case1 => rw [visit, List.find?_nil]
  | case2 n stack hp => rw [visit, List.find?_cons_of_pos hp]
  | case3 n stack hp ih => rw [visit, List.find?_cons_of_neg hp, ih]

def errors (n : Node) : List Node := (visit [n]).filter isError

theorem errors_eq (n : Node) : n.errors = n.preorder.filter isError := by
  rw [errors, visit_eq, preorderAll, preorderAll, List.append_nil]

def child? (n : Node) (field : String) : Option Node := n.children.find? (·.field == some field)

end Node

end TierSplit.Concrete

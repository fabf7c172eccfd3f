import TierSplit.Text.Quoted
import TierSplit.Value

/-! Syntax nodes. A node has a role, the grammar's kind, the byte range `[start, stop)` it covers,
the field it fills in its parent, the word tokens among its direct parts, and its children. Role
and kind are independent: rules say which of the two they read. -/

namespace TierSplit.Syntax

inductive Role where
  | labeled (label : String)
  | function (isAsync : Bool)
  | block
  | identifier (name : String)
  | other
  | plain
deriving Repr, DecidableEq

structure Node where
  role : Role
  kind : String
  start : Int
  stop : Int
  field : Option String
  keywords : List String
  children : List Node
deriving Repr, BEq

instance : Inhabited Node := ⟨⟨.plain, "", 0, 0, none, [], []⟩⟩

/-- The position of a node: child indices up to the root, innermost first. -/
abbrev Path := List Nat

/-- A node together with its position in the tree. -/
structure Site where
  path : Path
  node : Node
deriving Repr, BEq

instance : Inhabited Site := ⟨⟨[], default⟩⟩

/-- An identifier at a position. -/
structure Occurrence where
  path : Path
  name : String
  start : Int
  stop : Int
deriving Repr, DecidableEq

namespace Node

def isFunction (n : Node) : Bool :=
  match n.role with
  | .function _ => true
  | _ => false

def isIdentifier (n : Node) : Bool :=
  match n.role with
  | .identifier _ => true
  | _ => false

def inField (field : String) (n : Node) : Bool := n.field == some field

def fieldIndex? (n : Node) (field : String) : Option Nat := n.children.findIdx? (inField field)

def child? (n : Node) (field : String) : Option Node := n.children.find? (inField field)

mutual

def size : Node → Nat
  | ⟨_, _, _, _, _, _, children⟩ => sizes children + 1

def sizes : List Node → Nat
  | [] => 0
  | c :: rest => c.size + sizes rest

end

theorem size_eq (n : Node) : n.size = sizes n.children + 1 := by
  cases n; rfl

@[simp] theorem sizes_append (a b : List Node) : sizes (a ++ b) = sizes a + sizes b := by
  induction a with
  | nil => rw [List.nil_append, sizes, Nat.zero_add]
  | cons c rest ih => rw [List.cons_append, sizes, sizes, ih, Nat.add_assoc]

@[simp] theorem sizes_reverse (ns : List Node) : sizes ns.reverse = sizes ns := by
  induction ns with
  | nil => rfl
  | cons c rest ih =>
    rw [List.reverse_cons, sizes_append, ih, sizes, sizes, sizes, Nat.add_zero, Nat.add_comm]

def roleName (n : Node) : String :=
  match n.role with
  | .labeled _ => "LabeledStatement"
  | .function _ => "FunctionLike"
  | .block => "Block"
  | .identifier _ => "Identifier"
  | .other => "Other"
  | .plain => "SyntaxNode"

def rangeText (n : Node) : String :=
  "start=" ++ intLiteral n.start ++ ", end=" ++ intLiteral n.stop

/-- One line about a node; an identifier shows its name, any other node its kind. -/
def describe (n : Node) : String :=
  match n.role with
  | .identifier name => "Identifier(name=" ++ Text.quoted name ++ ", " ++ n.rangeText ++ ")"
  | _ => n.roleName ++ "(kind=" ++ Text.quoted n.kind ++ ", " ++ n.rangeText ++ ")"

/-- The index, in a walk that meets parents before children, of the node reached by the given
indices from the root. -/
def numberFrom : Node → List Nat → Nat
  | _, [] => 0
  | n, i :: rest =>
    1 + sizes (n.children.take i) +
      match n.children[i]? with
      | some c => c.numberFrom rest
      | none => 0

def number (root : Node) (path : Path) : Nat := root.numberFrom path.reverse

end Node

namespace Site

def root (n : Node) : Site := ⟨[], n⟩

def child? (s : Site) (field : String) : Option Site :=
  match s.node.fieldIndex? field with
  | some i => s.node.children[i]?.map fun c => ⟨i :: s.path, c⟩
  | none => none

/-- Sites of the children from index `i` on. -/
def childrenFrom (path : Path) (i : Nat) : List Node → List Site
  | [] => []
  | c :: rest => ⟨i :: path, c⟩ :: childrenFrom path (i + 1) rest

def children (s : Site) : List Site := childrenFrom s.path 0 s.node.children

@[simp] theorem map_node_childrenFrom (path : Path) (i : Nat) (ns : List Node) :
    (childrenFrom path i ns).map Site.node = ns := by
  induction ns generalizing i with
  | nil => rfl
  | cons c rest ih => rw [childrenFrom, List.map_cons, ih]

@[simp] theorem map_node_children (s : Site) : s.children.map Site.node = s.node.children :=
  map_node_childrenFrom _ _ _

def occurrence? (s : Site) : Option Occurrence :=
  match s.node.role with
  | .identifier name => some ⟨s.path, name, s.node.start, s.node.stop⟩
  | _ => none

end Site

mutual

/-- All sites of a subtree, parents before children, children left to right. -/
def Node.sites (path : Path) : Node → List Site
  | ⟨role, kind, start, stop, field, keywords, children⟩ =>
    ⟨path, ⟨role, kind, start, stop, field, keywords, children⟩⟩ :: sitesFrom path 0 children

def sitesFrom (path : Path) (i : Nat) : List Node → List Site
  | [] => []
  | c :: rest => c.sites (i :: path) ++ sitesFrom path (i + 1) rest

end

end TierSplit.Syntax

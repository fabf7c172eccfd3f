import TierSplit.Syntax.Node

/-! A walk enters a node, then walks its children unless entering said to skip them, and then
leaves the node. The callbacks run in any monad, so they may hold state and may fail; each call is
given the proper ancestors, outermost first. The walk keeps the calls still to make in a list. A visit
lists the sites of a tree from a stack of sites. -/

namespace TierSplit.Syntax

/-- The sites met from a stack of sites to visit: the one on top is taken off, and its children are put
on top, the first one uppermost. -/
@[semireducible]
def Site.visit : List Site → List Site
  | [] => []
  | s :: stack => s :: visit (s.children ++ stack)
termination_by stack => Node.sizes (stack.map Site.node)
decreasing_by
  rw [List.map_append, Site.map_node_children, Node.sizes_append, List.map_cons, Node.sizes,
    Node.size_eq]
  omega

inductive Choice where
  | descend
  | skip
deriving Repr, DecidableEq

inductive Call where
  | enter (ancestors : List Site) (site : Site)
  | leave (ancestors : List Site) (site : Site)

/-- How many calls a pending call can lead to. -/
def Call.weight : Call → Nat
  | .enter _ s => 2 * s.node.size
  | .leave _ _ => 1

def pendingWeight : List Call → Nat
  | [] => 0
  | call :: rest => call.weight + pendingWeight rest

theorem pendingWeight_children (ancestors : List Site) (path : Path) (i : Nat) (ns : List Node) :
    pendingWeight ((Site.childrenFrom path i ns).map (.enter ancestors)) = 2 * Node.sizes ns := by
  induction ns generalizing i with
  | nil => rfl
  | cons c rest ih =>
    simp only [Site.childrenFrom, List.map_cons, pendingWeight, Call.weight, Node.sizes, ih]
    omega

@[simp] theorem pendingWeight_append (a b : List Call) :
    pendingWeight (a ++ b) = pendingWeight a + pendingWeight b := by
  induction a with
  | nil => simp [pendingWeight]
  | cons call rest ih =>
    rw [List.cons_append, pendingWeight, pendingWeight, ih]
    omega

variable {m : Type → Type} [Monad m]

def walkCalls (enter : List Site → Site → m Choice) (leave : List Site → Site → m Unit) :
    List Call → m Unit
  | [] => pure ()
  | .leave ancestors site :: rest => do
    leave ancestors site
    walkCalls enter leave rest
  | .enter ancestors site :: rest => do
    match ← enter ancestors site with
    | .skip => walkCalls enter leave (.leave ancestors site :: rest)
    | .descend =>
      walkCalls enter leave
        (site.children.map (.enter (ancestors ++ [site])) ++ .leave ancestors site :: rest)
termination_by calls => pendingWeight calls
decreasing_by
  · simp [pendingWeight, Call.weight]
  · simp only [pendingWeight, Call.weight, Node.size_eq]; omega
  · rw [pendingWeight_append, Site.children, pendingWeight_children]
    simp only [pendingWeight, Call.weight, Node.size_eq]; omega

def walk (enter : List Site → Site → m Choice) (leave : List Site → Site → m Unit) (root : Node) :
    m Unit :=
  walkCalls enter leave [.enter [] (.root root)]

inductive Event where
  | entered (site : Path) (ancestors : List Path)
  | left (site : Path) (ancestors : List Path)
deriving Repr, DecidableEq

/-- A walk that records its calls, latest first, and skips below the chosen sites. -/
def recordWalk (skips : Site → Bool) (root : Node) : StateM (List Event) Unit :=
  walk
    (fun ancestors site => do
      modify (.entered site.path (ancestors.map Site.path) :: ·)
      pure (if skips site then .skip else .descend))
    (fun ancestors site => modify (.left site.path (ancestors.map Site.path) :: ·))
    root

def walkEvents (skips : Site → Bool) (root : Node) : List Event := ((recordWalk skips root).run []).2.reverse

end TierSplit.Syntax

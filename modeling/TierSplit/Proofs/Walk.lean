import TierSplit.Syntax.Walk

/-! The walk is the recursion over the tree: enter a node, walk its children left to right unless
entering said to skip them, leave the node. The list of calls still to make never changes what is
called, with which ancestors, or in which order. -/

namespace TierSplit.Syntax

/-- A computation that may fail and holds a state: a failure ends it, with the state reached so far. -/
theorem run_bind {ε σ α β : Type} (x : ExceptT ε (StateM σ) α) (f : α → ExceptT ε (StateM σ) β)
    (s : σ) :
    (x >>= f).run.run s =
      match x.run.run s with
      | (.ok a, t) => (f a).run.run t
      | (.error e, t) => (.error e, t) := by
  simp only [ExceptT.run_bind, StateT.run_bind]
  rcases x.run.run s with ⟨r, t⟩
  cases r <;> rfl

theorem run_bind_of_ok {ε σ α β : Type} {x : ExceptT ε (StateM σ) α} {s t : σ} {a : α}
    (h : x.run.run s = (.ok a, t)) (f : α → ExceptT ε (StateM σ) β) :
    (x >>= f).run.run s = (f a).run.run t := by
  rw [run_bind, h]

theorem run_bind_of_error {ε σ α β : Type} {x : ExceptT ε (StateM σ) α} {s t : σ} {e : ε}
    (h : x.run.run s = (.error e, t)) (f : α → ExceptT ε (StateM σ) β) :
    (x >>= f).run.run s = (.error e, t) := by
  rw [run_bind, h]

variable {m : Type → Type} [Monad m]

mutual

/-- The walk of a subtree by recursion. -/
def Node.walkBelow (enter : List Site → Site → m Choice) (leave : List Site → Site → m Unit)
    (ancestors : List Site) (path : Path) : Node → m Unit
  | ⟨role, kind, start, stop, field, keywords, children⟩ => do
    let site : Site := ⟨path, ⟨role, kind, start, stop, field, keywords, children⟩⟩
    match ← enter ancestors site with
    | .skip => leave ancestors site
    | .descend =>
      walkAll enter leave (ancestors ++ [site]) path 0 children
      leave ancestors site

def walkAll (enter : List Site → Site → m Choice) (leave : List Site → Site → m Unit)
    (ancestors : List Site) (path : Path) (i : Nat) : List Node → m Unit
  | [] => pure ()
  | c :: rest => do
    c.walkBelow enter leave ancestors (i :: path)
    walkAll enter leave ancestors path (i + 1) rest

end

theorem Node.walkBelow_eq (enter : List Site → Site → m Choice) (leave : List Site → Site → m Unit)
    (ancestors : List Site) (path : Path) (n : Node) :
    n.walkBelow enter leave ancestors path = (do
      match ← enter ancestors ⟨path, n⟩ with
      | .skip => leave ancestors ⟨path, n⟩
      | .descend =>
        walkAll enter leave (ancestors ++ [⟨path, n⟩]) path 0 n.children
        leave ancestors ⟨path, n⟩) := by
  cases n; rw [Node.walkBelow]

variable [LawfulMonad m]

mutual

theorem walkCalls_enter (enter : List Site → Site → m Choice) (leave : List Site → Site → m Unit)
    (ancestors : List Site) (path : Path) (rest : List Call) :
    ∀ n : Node, walkCalls enter leave (.enter ancestors ⟨path, n⟩ :: rest) =
      (do n.walkBelow enter leave ancestors path; walkCalls enter leave rest)
  | ⟨role, kind, start, stop, field, keywords, children⟩ => by
    rw [walkCalls, Node.walkBelow, bind_assoc]
    congr 1
    funext choice
    cases choice with
    | skip => rw [walkCalls]
    | descend =>
      simp only [Site.children]
      rw [walkCalls_children, walkCalls, bind_assoc]

theorem walkCalls_children (enter : List Site → Site → m Choice)
    (leave : List Site → Site → m Unit) (ancestors : List Site) (path : Path) (i : Nat)
    (rest : List Call) :
    ∀ ns : List Node,
      walkCalls enter leave ((Site.childrenFrom path i ns).map (.enter ancestors) ++ rest) =
        (do walkAll enter leave ancestors path i ns; walkCalls enter leave rest)
  | [] => by simp [Site.childrenFrom, walkAll]
  | c :: ns => by
    simp only [Site.childrenFrom, List.map_cons, List.cons_append]
    rw [walkCalls_enter, walkCalls_children, walkAll, bind_assoc]

end

theorem walk_eq_walkBelow (enter : List Site → Site → m Choice) (leave : List Site → Site → m Unit)
    (root : Node) : walk enter leave root = root.walkBelow enter leave [] [] := by
  rw [walk, Site.root, walkCalls_enter, walkCalls]
  simp

end TierSplit.Syntax

import TierSplit.Diagnostic
import TierSplit.Ordered
import TierSplit.Syntax.Node

/-! The payload of a marker: one identifier, or a sequence of identifiers. Parentheses around the
payload or its items are ignored, and sequences may nest. A sequence among the items of another one
waits until these are taken, so identifiers are found out of order; they are sorted in the end. -/

namespace TierSplit.Payload

open Syntax

mutual

def unwrap (path : Path) : Node → Site
  | ⟨role, kind, start, stop, field, keywords, children⟩ =>
    if kind = "parenthesized_expression" ∧ children.length = 1 then
      unwrapOnly path ⟨role, kind, start, stop, field, keywords, children⟩ children
    else ⟨path, ⟨role, kind, start, stop, field, keywords, children⟩⟩

def unwrapOnly (path : Path) (whole : Node) : List Node → Site
  | [] => ⟨path, whole⟩
  | c :: _ => unwrap (0 :: path) c

end

def token? (item : Site) : Option Occurrence :=
  if item.node.kind = "identifier" then item.occurrence? else none

/-- An expansion under way: the sequences that wait, the next one first, and the identifiers found. -/
structure Expansion where
  waiting : List Site
  found : List Occurrence

namespace Expansion

/-- Takes one item of a sequence, out of its parentheses. -/
def take (e : Expansion) (t : Site) : Except Diagnostic Expansion :=
  let item := unwrap t.path t.node
  if item.node.kind = "sequence_expression" then .ok { e with waiting := item :: e.waiting }
  else
    match token? item with
    | some o => .ok { e with found := e.found ++ [o] }
    | none => .error (.notIdentifier item.node.kind item.node.start)

/-- A bound on the items still to take. -/
def work (e : Expansion) : Nat := Node.sizes (e.waiting.map Site.node)

end Expansion

mutual

theorem size_unwrap_le (path : Path) : ∀ n : Node, (unwrap path n).node.size ≤ n.size
  | ⟨role, kind, start, stop, field, keywords, children⟩ => by
    rw [unwrap]
    split
    · exact size_unwrapOnly_le path _ children rfl
    · exact Nat.le_refl _

theorem size_unwrapOnly_le (path : Path) (whole : Node) :
    ∀ ns : List Node, ns = whole.children → (unwrapOnly path whole ns).node.size ≤ whole.size
  | [], _ => Nat.le_refl _
  | c :: rest, h => by
    have hc := size_unwrap_le (0 :: path) c
    rw [unwrapOnly, Node.size_eq whole, ← h, Node.sizes]
    omega

end

theorem Expansion.work_take {e e' : Expansion} {t : Site} (h : e.take t = .ok e') :
    e'.work ≤ t.node.size + e.work := by
  have hsize := size_unwrap_le t.path t.node
  simp only [take] at h
  split at h
  · cases h
    rw [work, List.map_cons, Node.sizes]
    exact Nat.add_le_add_right hsize _
  · split at h
    · cases h
      exact Nat.le_add_left _ _
    · cases h

theorem Expansion.work_takeAll {e e' : Expansion} {ts : List Site} (h : ts.foldlM take e = .ok e') :
    e'.work ≤ Node.sizes (ts.map Site.node) + e.work := by
  induction ts generalizing e with
  | nil =>
    cases h
    exact Nat.le_add_left _ _
  | cons t rest ih =>
    rw [List.foldlM_cons] at h
    cases ht : e.take t with
    | error d =>
      rw [ht] at h
      cases h
    | ok next =>
      rw [ht] at h
      have hnext := work_take ht
      have hrest := ih h
      rw [List.map_cons, Node.sizes]
      omega

/-- Takes the items of the sequences that wait, those of one sequence from right to left. -/
def expand : Expansion → Except Diagnostic (List Occurrence)
  | ⟨[], found⟩ => .ok found
  | ⟨s :: rest, found⟩ =>
    match _ : s.children.reverse.foldlM Expansion.take ⟨rest, found⟩ with
    | .ok e => expand e
    | .error d => .error d
termination_by e => e.work
decreasing_by
  have hwork := Expansion.work_takeAll ‹_ = Except.ok e›
  rw [List.map_reverse, Node.sizes_reverse, Site.map_node_children] at hwork
  simp only [Expansion.work, List.map_cons, Node.sizes, Node.size_eq s.node] at hwork ⊢
  omega

def identifiers (marker : Site) : Except Diagnostic (List Occurrence) :=
  match marker.child? "body" with
  | some ⟨bodyPath, ⟨_, "expression_statement", _, _, _, _, [item]⟩⟩ =>
    let payload := unwrap (0 :: bodyPath) item
    match payload.occurrence? with
    | some o => .ok [o]
    | none =>
      if payload.node.kind = "sequence_expression" then
        (expand ⟨[payload], []⟩).map (sortBy fun a b => a.start ≤ b.start)
      else .error (.notIdentifier payload.node.kind payload.node.start)
  | _ => .error (.noTiers marker.node.start)

end TierSplit.Payload

import TierSplit.Diagnostic
import TierSplit.Ordered
import TierSplit.Scope.Nesting
import TierSplit.Scope.Store

/-! The scope graph: every use of an identifier, in source order, with the declaration it reads.
All bindings are made before any use is looked up, so a use may come before its declaration. A program
that nests deeper than there is room for calls has no graph. -/

namespace TierSplit.Scope

open Syntax

/-- What replaying an outline has produced; uses and declarations are latest first. -/
structure Record where
  store : Store Occurrence
  uses : List (Occurrence × Nat)
  declarations : List Occurrence

def Record.use (r : Record) (scope : Nat) (o : Occurrence) : Record :=
  { r with uses := (o, scope) :: r.uses }

def Record.bind (r : Record) (scope : Nat) (hoisted : Bool) (o : Occurrence) : Record :=
  let target := if hoisted then r.store.variableScope scope else scope
  { r with store := r.store.declare target o.name o, declarations := o :: r.declarations }

mutual

def Item.replay (scope : Nat) (r : Record) : Item → Record
  | .use o => r.use scope o
  | .bind hoisted o => r.bind scope hoisted o
  | .scope kind items =>
    let created := r.store.create kind (some scope)
    replayItems created.1 { r with store := created.2 } items

def replayItems (scope : Nat) (r : Record) : List Item → Record
  | [] => r
  | item :: rest => replayItems scope (item.replay scope r) rest

end

structure Reference where
  use : Occurrence
  declaration : Option Occurrence
deriving Repr, DecidableEq

structure Graph where
  references : List Reference
  declarations : List Occurrence
deriving Repr, DecidableEq

/-- Order of source ranges: by start, then by end. -/
def before (a b : Occurrence × Nat) : Bool :=
  a.1.start < b.1.start || (a.1.start == b.1.start && a.1.stop ≤ b.1.stop)

def record (items : List Item) : Record :=
  let created := (Store.empty : Store Occurrence).create .module none
  replayItems created.1 ⟨created.2, [], []⟩ items

def analyze (program : Node) : Graph :=
  let r := record (outline program)
  let uses := sortBy before r.uses.reverse
  ⟨uses.map fun u => ⟨u.1, r.store.lookup? u.2 u.1.name⟩, r.declarations.reverse.eraseDups⟩

/-- How many calls may be open at once, unless something is said. -/
def usualRoom : Nat := 980

/-- The graph of a program, where so many calls may be open at once. -/
def analyzeWithin (room : Nat) (program : Node) : Except Failure Graph :=
  if depth program ≤ room then .ok (analyze program) else .error .tooDeep

def Graph.resolved (g : Graph) : List Reference := g.references.filter (·.declaration.isSome)

end TierSplit.Scope

/-! A store of lexical scopes. Scopes are numbered in order of creation, and a scope's parent is
older than the scope. A scope keeps the first binding of each name. -/

namespace TierSplit.Scope

inductive Kind where
  | module
  | function
  | block
  | loop
  | handler
  | classBody
deriving Repr, DecidableEq

/-- Whether variables declared further in are bound here. -/
def Kind.holdsVariables : Kind → Bool
  | .module | .function => true
  | _ => false

structure Entry (α : Type) where
  kind : Kind
  parent : Option Nat
  bindings : List (String × α)
deriving Repr

structure Store (α : Type) where
  entries : Array (Entry α)
deriving Repr

namespace Store

variable {α : Type}

def empty : Store α := ⟨#[]⟩

/-- A new scope, and its number. -/
def create (store : Store α) (kind : Kind) (parent : Option Nat) : Nat × Store α :=
  (store.entries.size, ⟨store.entries.push ⟨kind, parent, []⟩⟩)

/-- The binding made in this very scope. -/
def binding? (store : Store α) (scope : Nat) (name : String) : Option α :=
  match store.entries[scope]? with
  | some entry => (entry.bindings.find? (·.1 == name)).map (·.2)
  | none => none

def bindIn (bindings : List (String × α)) (name : String) (a : α) : List (String × α) :=
  if bindings.any (·.1 == name) then bindings else bindings ++ [(name, a)]

/-- Binds a name unless this scope has it already. -/
def declare (store : Store α) (scope : Nat) (name : String) (a : α) : Store α :=
  ⟨store.entries.modify scope fun e => { e with bindings := bindIn e.bindings name a }⟩

/-- The scope, its parent, and so on to the root. -/
def chain (store : Store α) (scope : Nat) : List Nat :=
  match store.entries[scope]? with
  | none => []
  | some entry =>
    match entry.parent with
    | none => [scope]
    | some parent => if parent < scope then scope :: store.chain parent else [scope]
termination_by scope

def lookup? (store : Store α) (scope : Nat) (name : String) : Option α :=
  (store.chain scope).findSome? fun s => store.binding? s name

def holdsVariables (store : Store α) (scope : Nat) : Bool :=
  match store.entries[scope]? with
  | some entry => entry.kind.holdsVariables
  | none => false

def variableScope (store : Store α) (scope : Nat) : Nat :=
  match (store.chain scope).find? store.holdsVariables with
  | some s => s
  | none => ((store.chain scope).getLast?).getD scope

end Store

end TierSplit.Scope

import TierSplit.Proofs.Mirrors
import TierSplit.Proofs.Reach

/-! Plans of two nodes whose children correspond. A plan reads of the children only their heads: role,
kind and field. So if the second node has the same children, told by their heads, and maybe some stray
ones between them that fill no field, then the steps of its plan are those of the first one under the
new indices, and maybe some more for the strays. -/

namespace TierSplit.Syntax

/-- All that a plan reads of a node, but for its children. -/
structure Node.SameHead (n n' : Node) : Prop where
  role : n'.role = n.role
  kind : n'.kind = n.kind
  field : n'.field = n.field
  keywords : n'.keywords = n.keywords

namespace Node.SameHead

variable {n n' : Node}

theorem trans {n'' : Node} (h : n.SameHead n') (h' : n'.SameHead n'') : n.SameHead n'' :=
  ⟨h'.role.trans h.role, h'.kind.trans h.kind, h'.field.trans h.field, h'.keywords.trans h.keywords⟩

theorem isIdentifier (h : n.SameHead n') : n'.isIdentifier = n.isIdentifier := by
  rw [Node.isIdentifier, Node.isIdentifier, h.role]

theorem isFunction (h : n.SameHead n') : n'.isFunction = n.isFunction := by
  rw [Node.isFunction, Node.isFunction, h.role]

theorem inField (h : n.SameHead n') (field : String) : n'.inField field = n.inField field := by
  rw [Node.inField, Node.inField, h.field]

end Node.SameHead

end TierSplit.Syntax

namespace TierSplit.Scope

open Syntax

/-- A node that no plan looks for among the children. -/
structure Stray (n : Node) : Prop where
  field : n.field = none
  declarator : n.kind ≠ "variable_declarator"
  clause : n.kind ≠ "export_clause"

theorem Stray.inField {n : Node} (h : Stray n) (field : String) : n.inField field = false := by
  rw [Node.inField, h.field]
  rfl

/-- The duties that a plan gives to children whatever they are. -/
def Duty.Casual : Duty → Prop
  | .visit | .pattern _ | .exportSpecifier | .imported => True
  | .parameters | .body | .declarator _ | .exportClause => False

/-- The children from index `i` on correspond to the others from `i'` on, those at the indices in `X`
being strays. -/
inductive Aligned (ρ : Nat → Nat) (X : Nat → Prop) : Nat → Nat → List Node → List Node → Prop
  | nil {i i' : Nat} : Aligned ρ X i i' [] []
  | both {i i' : Nat} {c c' : Node} {cs cs' : List Node} (head : c.SameHead c') (index : ρ i = i')
      (rest : Aligned ρ X (i + 1) (i' + 1) cs cs') : Aligned ρ X i i' (c :: cs) (c' :: cs')
  | stray {i i' : Nat} {e : Node} {cs cs' : List Node} (stray : Stray e) (index : X i')
      (rest : Aligned ρ X i (i' + 1) cs cs') : Aligned ρ X i i' cs (e :: cs')

/-- The steps of the second list are those of the first one under their new indices, and some for
strays. -/
inductive Threads (ρ : Nat → Nat) (X : Nat → Prop) : List Step → List Step → Prop
  | nil : Threads ρ X [] []
  | keep {j : Nat} {duty : Duty} {a b : List Step} (rest : Threads ρ X a b) :
      Threads ρ X ((j, duty) :: a) ((ρ j, duty) :: b)
  | extra {k : Nat} {duty : Duty} {a b : List Step} (index : X k) (casual : duty.Casual)
      (rest : Threads ρ X a b) : Threads ρ X a ((k, duty) :: b)

variable {ρ : Nat → Nat} {X : Nat → Prop}

namespace Threads

theorem append {a b c d : List Step} (h : Threads ρ X a b) (h' : Threads ρ X c d) :
    Threads ρ X (a ++ c) (b ++ d) := by
  induction h with
  | nil => exact h'
  | keep _ ih => exact .keep ih
  | extra index casual _ ih => exact .extra index casual ih

theorem ite {p : Prop} [Decidable p] {a b : List Step} (h : Threads ρ X a b) :
    Threads ρ X (if p then a else []) (if p then b else []) := by
  split
  · exact h
  · exact .nil

theorem of_map (a : List Step) : Threads ρ X a (a.map fun st => (ρ st.1, st.2)) := by
  induction a with
  | nil => exact .nil
  | cons st rest ih => exact .keep ih

theorem filter_ne (hρ : Function.Injective ρ) {a b : List Step} (h : Threads ρ X a b) (i : Nat) :
    Threads ρ X (a.filter (·.1 != i)) (b.filter (·.1 != ρ i)) := by
  induction h with
  | nil => exact .nil
  | @keep j _ _ _ _ ih =>
    by_cases hj : j = i
    · simpa [List.filter_cons, hj] using ih
    · have hρj : ρ j ≠ ρ i := fun heq => hj (hρ heq)
      simpa [List.filter_cons, hj, hρj] using .keep ih
  | @extra k _ _ _ index casual _ ih =>
    rw [List.filter_cons]
    split
    · exact .extra index casual ih
    · exact ih

theorem filterMap {a b : List Step} (h : Threads ρ X a b) {g g' : Step → Option Step}
    (hkeep : ∀ st ∈ a, ∀ st', g st = some st' → st'.1 = st.1)
    (hsame : ∀ st ∈ a, g' (ρ st.1, st.2) = (g st).map fun st' => (ρ st.1, st'.2))
    (hextra : ∀ k duty, X k → duty.Casual → ∀ st, g' (k, duty) = some st → X st.1 ∧ st.2.Casual) :
    Threads ρ X (a.filterMap g) (b.filterMap g') := by
  induction h with
  | nil => exact .nil
  | @keep j duty a b _ ih =>
    have hrest := ih (fun st hst => hkeep st (List.mem_cons_of_mem _ hst))
      (fun st hst => hsame st (List.mem_cons_of_mem _ hst))
    have hj := hsame (j, duty) List.mem_cons_self
    rw [List.filterMap_cons, List.filterMap_cons, hj]
    cases hg : g (j, duty) with
    | none => exact hrest
    | some st' =>
      obtain ⟨j', duty'⟩ := st'
      obtain rfl : j' = j := hkeep (j, duty) List.mem_cons_self _ hg
      exact .keep hrest
  | @extra k duty _ _ index casual _ ih =>
    have hrest := ih hkeep hsame
    rw [List.filterMap_cons]
    split
    · exact hrest
    · next st hst =>
      obtain ⟨hx, hc⟩ := hextra k duty index casual st hst
      exact .extra hx hc hrest

end Threads

/-! ### Children -/

namespace Aligned

variable {i i' : Nat} {cs cs' : List Node}

theorem filterFrom (h : Aligned ρ X i i' cs cs') {test : Node → Bool} {duty : Duty}
    (htest : ∀ c c' : Node, c.SameHead c' → test c' = test c)
    (hstray : duty.Casual ∨ ∀ e, Stray e → test e = false) :
    Threads ρ X (Plan.filterFrom test duty i cs) (Plan.filterFrom test duty i' cs') := by
  induction h with
  | nil => exact .nil
  | both head index _ ih =>
    rw [Plan.filterFrom, Plan.filterFrom, htest _ _ head]
    split
    · subst index
      exact .keep ih
    · exact ih
  | @stray _ _ e _ _ stray index _ ih =>
    rw [Plan.filterFrom]
    split
    · next ht =>
      refine .extra index (hstray.resolve_right fun hnone => ?_) ih
      rw [hnone e stray] at ht
      cases ht
    · exact ih

theorem findIdx? (h : Aligned ρ X i i' cs cs') (field : String) :
    (cs'.findIdx? (Node.inField field)).map (i' + ·) =
      (cs.findIdx? (Node.inField field)).map fun j => ρ (i + j) := by
  induction h with
  | nil => rfl
  | both head index _ ih =>
    rw [List.findIdx?_cons, List.findIdx?_cons, head.inField]
    split
    · simp [index]
    · simpa [Option.map_map, Function.comp_def, Nat.add_assoc, Nat.add_comm 1] using ih
  | stray stray _ _ ih =>
    rw [List.findIdx?_cons, stray.inField, ← ih]
    simp [Function.comp_def, Nat.add_assoc, Nat.add_comm 1]

theorem find? (h : Aligned ρ X i i' cs cs') (field : String) :
    Option.Rel Node.SameHead (cs.find? (Node.inField field)) (cs'.find? (Node.inField field)) := by
  induction h with
  | nil => exact .none
  | both head _ _ ih =>
    rw [List.find?_cons, List.find?_cons, head.inField]
    split
    · exact .some head
    · exact ih
  | stray stray _ _ ih =>
    rw [List.find?_cons, stray.inField]
    exact ih

theorem getElem? (h : Aligned ρ X i i' cs cs') {j : Nat} {c : Node} (hc : cs[j]? = some c) :
    ∃ j' c', ρ (i + j) = i' + j' ∧ cs'[j']? = some c' ∧ c.SameHead c' := by
  induction h generalizing j with
  | nil => cases hc
  | both head index _ ih =>
    cases j with
    | zero =>
      cases hc
      exact ⟨0, _, index, rfl, head⟩
    | succ j =>
      obtain ⟨j', c', hj, hc', hhead⟩ := ih hc
      exact ⟨j' + 1, c', by rw [← Nat.add_assoc, Nat.add_right_comm, hj]; omega, hc', hhead⟩
  | stray _ _ _ ih =>
    obtain ⟨j', c', hj, hc', hhead⟩ := ih hc
    exact ⟨j' + 1, c', by omega, hc', hhead⟩

end Aligned

/-! ### Plans -/

inductive Plan.Threads (ρ : Nat → Nat) (X : Nat → Prop) : Plan → Plan → Prop
  | use : Plan.Threads ρ X .use .use
  | bind {hoisted : Bool} : Plan.Threads ρ X (.bind hoisted) (.bind hoisted)
  | follow {a b : List Step} (outer : Scope.Threads ρ X a b) :
      Plan.Threads ρ X (.follow a) (.follow b)
  | enclose {kind : Kind} {a b c d : List Step} (outer : Scope.Threads ρ X a b)
      (inner : Scope.Threads ρ X c d) : Plan.Threads ρ X (.enclose a kind c) (.enclose b kind d)

theorem Plan.Threads.ite {p : Prop} [Decidable p] {a b a' b' : Plan} (h : a.Threads ρ X a')
    (h' : b.Threads ρ X b') : (if p then a else b).Threads ρ X (if p then a' else b') := by
  split
  · exact h
  · exact h'

section

variable {n n' : Node} {field : String} (hindex : n'.fieldIndex? field = (n.fieldIndex? field).map ρ)
include hindex

theorem inField_moved (duty : Duty) :
    Plan.inField field duty n' = (Plan.inField field duty n).map fun st => (ρ st.1, st.2) := by
  rw [Plan.inField, Plan.inField, hindex]
  cases n.fieldIndex? field <;> rfl

theorem nameIn_moved (hchild : Option.Rel Node.SameHead (n.child? field) (n'.child? field))
    (hoisted : Bool) :
    Plan.nameIn field hoisted n' = (Plan.nameIn field hoisted n).map fun st => (ρ st.1, st.2) := by
  rw [Plan.nameIn, Plan.nameIn, inField_moved hindex]
  revert hchild
  generalize n.child? field = x
  generalize n'.child? field = y
  intro hchild
  cases hchild with
  | none => rfl
  | some head =>
    simp only [head.isIdentifier]
    split <;> rfl

end

/-- Two nodes with the same head whose children correspond. -/
structure Counterpart (ρ : Nat → Nat) (X : Nat → Prop) (n n' : Node) : Prop where
  head : n.SameHead n'
  children : Aligned ρ X 0 0 n.children n'.children
  injective : Function.Injective ρ
  strays : ∀ k, X k → ∀ e, n'.children[k]? = some e → Stray e

namespace Counterpart

variable {n n' : Node} (h : Counterpart ρ X n n')
include h

theorem fieldIndex? (field : String) : n'.fieldIndex? field = (n.fieldIndex? field).map ρ := by
  simpa [Node.fieldIndex?] using h.children.findIdx? field

theorem getElem? {j : Nat} {c : Node} (hc : n.children[j]? = some c) :
    ∃ c', n'.children[ρ j]? = some c' ∧ c.SameHead c' := by
  obtain ⟨j', c', hj, hc', hhead⟩ := h.children.getElem? hc
  rw [Nat.zero_add, Nat.zero_add] at hj
  exact ⟨c', hj ▸ hc', hhead⟩

theorem filter {test : Node → Bool} {duty : Duty}
    (htest : ∀ c c' : Node, c.SameHead c' → test c' = test c)
    (hstray : duty.Casual ∨ ∀ e, Stray e → test e = false) :
    Threads ρ X (Plan.filter test duty n) (Plan.filter test duty n') :=
  h.children.filterFrom htest hstray

theorem all (duty : Duty) (hd : duty.Casual) :
    Threads ρ X (Plan.all duty n) (Plan.all duty n') := by
  rw [Plan.all, Plan.all, allFrom_eq_filterFrom, allFrom_eq_filterFrom]
  exact h.filter (fun _ _ _ => rfl) (.inl hd)

theorem inField_eq (field : String) (duty : Duty) :
    Plan.inField field duty n' = (Plan.inField field duty n).map fun st => (ρ st.1, st.2) :=
  inField_moved (h.fieldIndex? field) duty

theorem inField (field : String) (duty : Duty) :
    Threads ρ X (Plan.inField field duty n) (Plan.inField field duty n') :=
  h.inField_eq field duty ▸ .of_map _

theorem child? (field : String) :
    Option.Rel Node.SameHead (n.child? field) (n'.child? field) := h.children.find? field

theorem nameIn_eq (field : String) (hoisted : Bool) :
    Plan.nameIn field hoisted n' = (Plan.nameIn field hoisted n).map fun st => (ρ st.1, st.2) :=
  nameIn_moved (h.fieldIndex? field) (h.child? field) hoisted

theorem nameIn (field : String) (hoisted : Bool) :
    Threads ρ X (Plan.nameIn field hoisted n) (Plan.nameIn field hoisted n') :=
  h.nameIn_eq field hoisted ▸ .of_map _

theorem others (field : String) (duty : Duty) (hd : duty.Casual) :
    Threads ρ X (Plan.others field duty n) (Plan.others field duty n') := by
  rw [Plan.others, Plan.others, h.fieldIndex?]
  cases n.fieldIndex? field with
  | none => exact h.all duty hd
  | some j => exact (h.all duty hd).filter_ne h.injective j

theorem exported : (Plan.exported n).Threads ρ X (Plan.exported n') := by
  have hsource : (n'.fieldIndex? "source").isSome = (n.fieldIndex? "source").isSome := by
    rw [h.fieldIndex?, Option.isSome_map]
  rw [Plan.exported, Plan.exported, hsource]
  refine .follow ((h.all .visit trivial).filterMap ?_ ?_ ?_)
  · exact fun st _ st' hst => exportStep_index hst
  · intro st hst
    obtain ⟨j, duty⟩ := st
    rw [Plan.all, allFrom_eq_filterFrom] at hst
    obtain ⟨-, i, c, hi, hc, -⟩ := of_mem_filterFrom hst
    obtain rfl : j = i := by simpa using hi
    obtain ⟨c', hc', head⟩ := h.getElem? hc
    simp only [Plan.exportStep, hc, hc', head.kind, head.inField]
    split_ifs <;> rfl
  · intro k duty hx hcasual st hst
    unfold Plan.exportStep at hst
    split at hst
    · next e he =>
      have hstray := h.strays k hx e he
      rw [if_neg (by simpa using hstray.clause), hstray.inField, if_neg Bool.false_ne_true] at hst
      cases hst
      exact ⟨hx, hcasual⟩
    · cases hst

theorem function : (Plan.function n).Threads ρ X (Plan.function n') := by
  simp only [Plan.function, h.head.kind]
  exact .enclose ((h.nameIn "name" false).ite.append (h.inField "name" .visit).ite)
    ((((h.nameIn "name" false).ite.append (h.inField "parameter" _)).append
      (h.inField "parameters" _)).append (h.inField "body" _))

theorem classLike : (Plan.classLike n).Threads ρ X (Plan.classLike n') := by
  have hothers : Threads ρ X (Plan.others "name" .visit n) (Plan.others "name" .visit n') :=
    h.others "name" .visit trivial
  rw [Plan.classLike, Plan.classLike, h.head.kind]
  refine .ite (.follow ((h.nameIn "name" false).append hothers)) ?_
  rw [h.nameIn_eq]
  cases Plan.nameIn "name" false n with
  | nil => exact .follow hothers
  | cons st rest => exact .enclose .nil ((Threads.of_map (st :: rest)).append hothers)

theorem forIn : (Plan.forIn n).Threads ρ X (Plan.forIn n') := by
  rw [Plan.forIn, Plan.forIn, h.head.keywords]
  exact .enclose .nil ((h.inField "left" _).append (h.others "left" .visit trivial))

theorem declarators (hoisted : Bool) :
    Threads ρ X (Plan.filter (·.kind == "variable_declarator") (.declarator hoisted) n)
      (Plan.filter (·.kind == "variable_declarator") (.declarator hoisted) n') :=
  h.filter (fun _ _ head => by rw [head.kind]) (.inr fun _ he => by simpa using he.declarator)

theorem visit : (Plan.visit n).Threads ρ X (Plan.visit n') := by
  rw [Plan.visit, Plan.visit, h.head.isIdentifier, h.head.isFunction, h.head.kind]
  refine .ite .use <| .ite h.function <| .ite h.classLike <| .ite (.follow (h.declarators true)) <|
    .ite (.follow (h.declarators false)) <| .ite (.enclose .nil (h.all .visit trivial)) <|
    .ite (.enclose .nil (h.all .visit trivial)) <| .ite h.forIn <| .ite ?_ <|
    .ite (.follow (h.all .imported trivial)) <| .ite h.exported (.follow (h.all .visit trivial))
  exact .enclose .nil ((h.inField "parameter" _).append (h.others "parameter" .visit trivial))

theorem pattern (hoisted : Bool) : (Plan.pattern hoisted n).Threads ρ X (Plan.pattern hoisted n') := by
  rw [Plan.pattern, Plan.pattern, h.head.isIdentifier, h.head.kind]
  exact .ite .bind <| .ite (.follow (h.all (.pattern hoisted) trivial)) <|
    .ite (.follow ((h.inField "key" _).append (h.inField "value" _))) <|
    .ite (.follow ((h.inField "left" _).append (h.inField "right" _))) h.visit

theorem imported : (Plan.imported n).Threads ρ X (Plan.imported n') := by
  rw [Plan.imported, Plan.imported, h.head.kind]
  refine .follow (Threads.append ?_ (h.all .imported trivial))
  split
  · have halias := h.child? "alias"
    revert halias
    generalize n.child? "alias" = x
    generalize n'.child? "alias" = y
    intro halias
    cases halias with
    | some _ => exact h.nameIn "alias" true
    | none => exact h.nameIn "name" true
  · split
    · exact h.filter (fun _ _ head => head.isIdentifier) (.inl trivial)
    · exact .nil

theorem exportSpecifier : (Plan.exportSpecifier n).Threads ρ X (Plan.exportSpecifier n') := by
  have hname := h.child? "name"
  rw [Plan.exportSpecifier, Plan.exportSpecifier]
  revert hname
  generalize n.child? "name" = x
  generalize n'.child? "name" = y
  intro hname
  cases hname with
  | none => exact .follow .nil
  | some head =>
    simp only [head.isIdentifier]
    exact .ite (.follow (h.inField "name" _)) (.follow .nil)

/-- The plan of the second node is that of the first one. -/
theorem plan (duty : Duty) : (Plan.of duty n).Threads ρ X (Plan.of duty n') := by
  cases duty with
  | visit => exact h.visit
  | pattern hoisted => exact h.pattern hoisted
  | parameters => exact .follow (h.all (.pattern false) trivial)
  | body =>
    rw [Plan.of, Plan.of, h.head.kind]
    exact .ite (.follow (h.all .visit trivial)) h.visit
  | declarator hoisted => exact .follow ((h.inField "name" _).append (h.inField "value" _))
  | exportClause => exact .follow (h.all .exportSpecifier trivial)
  | exportSpecifier => exact h.exportSpecifier
  | imported => exact h.imported

end Counterpart

end TierSplit.Scope

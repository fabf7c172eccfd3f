import TierSplit.Proofs.Reach

/-! The scope of a function holds three layers: the own name of an expression, the parameters, and what
lands there from the body. They are one table, in this order, and the first declaration of a name is the
one that is read. So the own name of an expression wins over a parameter or a variable of the same name,
and the default value of a parameter reads what the body declares. -/

namespace TierSplit.Scope

open Syntax

/-! ### Uses that leave their scopes -/

mutual

/-- The uses in an item whose names no scope in it declares. -/
def Item.free : Item → List Occurrence
  | .use o => [o]
  | .bind _ _ => []
  | .scope kind items => (freeOf items).filter fun o => (landing kind items).all (·.name ≠ o.name)

def freeOf : List Item → List Occurrence
  | [] => []
  | item :: rest => item.free ++ freeOf rest

end

@[simp] theorem freeOf_append (a b : List Item) : freeOf (a ++ b) = freeOf a ++ freeOf b := by
  induction a with
  | nil => rfl
  | cons item rest ih => rw [List.cons_append, freeOf, freeOf, ih, List.append_assoc]

theorem read_cons_of_all {t : Table} {name : String} (h : t.all (·.name ≠ name) = true)
    (tables : List Table) : read (t :: tables) name = read tables name := by
  have hnone : t.find? (fun o => o.name = name) = none := by
    rw [List.find?_eq_none]
    intro o ho
    simpa using List.all_eq_true.1 h o ho
  rw [read, List.findSome?_cons, hnone]
  rfl

mutual

theorem Item.mem_references_of_free {o : Occurrence} {tables : List Table} :
    (item : Item) → o ∈ item.free → ⟨o, read tables o.name⟩ ∈ item.references tables
  | .use u, h => by
    rw [List.mem_singleton.1 h]
    exact List.mem_singleton_self _
  | .bind _ _, h => by cases h
  | .scope kind items, h => by
    obtain ⟨h, hfree⟩ := List.mem_filter.1 h
    rw [Item.references, ← read_cons_of_all hfree tables]
    exact mem_referencesOf_of_free items h

theorem mem_referencesOf_of_free {o : Occurrence} {tables : List Table} :
    (items : List Item) → o ∈ freeOf items → ⟨o, read tables o.name⟩ ∈ referencesOf tables items
  | [], h => by cases h
  | item :: rest, h => by
    rw [referencesOf, List.mem_append]
    exact (List.mem_append.1 h).imp (item.mem_references_of_free ·) (mem_referencesOf_of_free rest ·)

end

/-! ### The three layers -/

def ownName (s : Site) : List Occurrence :=
  if s.node.kind ∈ expressionKinds then nameIn "name" s else []

/-- What the parameters of a function bind and evaluate. -/
def parameterItems (s : Site) : List Item :=
  (childIn "parameter" s).flatMap (bound false) ++
    (childIn "parameters" s).flatMap fun t => t.children.flatMap (bound false)

/-- What the body of a function binds and evaluates; the statements of a block are in no scope of their
own. -/
def bodyItems (s : Site) : List Item :=
  (childIn "body" s).flatMap fun t =>
    if t.node.kind = "statement_block" then t.children.flatMap evaluated else evaluated t

section

variable (s : Site)

theorem settled : Settled s := fun t _ d => contribution_eq_obliged t.node d t.path

theorem parameterItems_eq : parameterItems s =
    follow s (Plan.inField "parameter" (.pattern false) s.node ++
      Plan.inField "parameters" .parameters s.node) := by
  rw [follow_append, follow_inField (settled s), follow_inField (settled s)]
  rfl

theorem bodyItems_eq : bodyItems s = follow s (Plan.inField "body" .body s.node) := by
  rw [follow_inField (settled s)]
  rfl

theorem follow_innerSteps : follow s (innerSteps s.node) =
    (ownName s).map (.bind false) ++ (parameterItems s ++ bodyItems s) := by
  have hkind : Plan.isFunctionExpression s.node.kind = true ↔ s.node.kind ∈ expressionKinds := by
    simp [Plan.isFunctionExpression, expressionKinds, or_assoc]
  have hname : follow s
      (if Plan.isFunctionExpression s.node.kind then Plan.nameIn "name" false s.node else []) =
        (ownName s).map (.bind false) := by
    rw [follow_ite, follow_nameIn (settled s), ownName]
    by_cases hk : s.node.kind ∈ expressionKinds
    · rw [if_pos (hkind.2 hk), if_pos hk]
    · rw [if_neg (hk ∘ hkind.1), if_neg hk]
      rfl
  rw [parameterItems_eq, bodyItems_eq, ← hname, ← follow_append, ← follow_append, innerSteps]
  simp only [List.append_assoc]

end

def scopeTable (s : Site) : Table :=
  ownName s ++ landing .function (parameterItems s) ++ landing .function (bodyItems s)

theorem landing_binds (os : List Occurrence) : landing .function (os.map (.bind false)) = os := by
  induction os with
  | nil => rfl
  | cons o rest ih =>
    rw [List.map_cons, landing_cons, ih]
    rfl

theorem landing_innerSteps (s : Site) :
    landing .function (follow s (innerSteps s.node)) = scopeTable s := by
  simp [follow_innerSteps, landing_binds, scopeTable]

/-- A use in the parameters or the body of a function that leaves all scopes in there reads the first
declaration of its name in the function's scope: its own name, else a parameter, else what lands there
from the body. -/
theorem function_layers_in_order {program : Node} {s : Site} (hf : s.node.isFunction = true)
    (he : Evaluates program s) {o : Occurrence} (ho : o ∈ freeOf (parameterItems s ++ bodyItems s))
    {d : Occurrence} (hd : (scopeTable s).find? (fun e => e.name = o.name) = some d) :
    (∃ r ∈ (analyze program).references, r.use = o) ∧
      ∀ r ∈ (analyze program).references, r.use = o → r.declaration = some d := by
  obtain ⟨duty, hreach, -⟩ := id he
  obtain ⟨tables, htables⟩ := hreach.exists_tables
  rw [contribution_eq_planned, he.plan_eq hf hreach, function_eq, planned_enclose, referencesOf_append]
    at htables
  -- in the scope of the function the table is the three layers
  have hread : read (scopeTable s :: tables) o.name = some d := by
    rw [read, List.findSome?_cons, hd]
  have hmem : ⟨o, some d⟩ ∈ (analyze program).references := by
    rw [(references_perm program).mem_iff]
    refine htables (List.mem_append_right _ ?_)
    rw [referencesOf, referencesOf, List.append_nil, Item.references, landing_innerSteps, ← hread]
    refine mem_referencesOf_of_free _ ?_
    rw [follow_innerSteps, freeOf_append]
    exact List.mem_append_right _ ho
  refine ⟨⟨_, hmem, rfl⟩, fun r hr huse => ?_⟩
  rw [eq_of_use_eq hr hmem huse]

/-- The expression `function f(f,a=x){var x;f}`, a byte into the text. -/
def layeredFunction : Node :=
  ⟨.function false, "function_expression", 1, 27, none, ["function"],
    [letterAt "f" 10 (some "name"),
      ⟨.other, "formal_parameters", 11, 18, some "parameters", [],
        [letterAt "f" 12 none,
          ⟨.other, "assignment_pattern", 14, 17, none, [],
            [letterAt "a" 14 (some "left"), letterAt "x" 16 (some "right")]⟩]⟩,
      ⟨.block, "statement_block", 18, 27, some "body", [],
        [⟨.other, "variable_declaration", 19, 25, none, ["var"],
          [⟨.other, "variable_declarator", 23, 24, none, [], [letterAt "x" 23 (some "name")]⟩]⟩,
          ⟨.other, "expression_statement", 25, 26, none, [], [letterAt "f" 25 none]⟩]⟩]⟩

/-- The module `(function f(f,a=x){var x;f})`. -/
def layeredProgram : Node :=
  ⟨.block, "program", 0, 28, none, [],
    [⟨.other, "expression_statement", 0, 28, none, [],
      [⟨.other, "parenthesized_expression", 0, 28, none, [], [layeredFunction]⟩]⟩]⟩

theorem layeredFunction_evaluated : Evaluates layeredProgram ⟨[0, 0, 0], layeredFunction⟩ := by
  have hstatement : Reaches layeredProgram ⟨[0], _⟩ .visit := .top (.head _)
  have hparentheses : Reaches layeredProgram ⟨[0, 0], _⟩ .visit :=
    .step hstatement (.head _) rfl (by decide)
  exact ⟨.visit, .step hparentheses (.head _) rfl (by decide), rfl⟩

/-- The default value of the parameter reads the variable of the body. -/
theorem layeredFunction_reads_in_order :
    layeredFunction.isFunction = true ∧ Evaluates layeredProgram ⟨[0, 0, 0], layeredFunction⟩ ∧
      ⟨[1, 1, 1, 0, 0, 0], "x", 16, 17⟩ ∈ freeOf (parameterItems ⟨[0, 0, 0], layeredFunction⟩ ++
        bodyItems ⟨[0, 0, 0], layeredFunction⟩) ∧
      (scopeTable ⟨[0, 0, 0], layeredFunction⟩).find? (fun e => e.name = "x") =
        some ⟨[0, 0, 0, 2, 0, 0, 0], "x", 23, 24⟩ ∧
      (∃ r ∈ (analyze layeredProgram).references, r.use = ⟨[1, 1, 1, 0, 0, 0], "x", 16, 17⟩) ∧
      ∀ r ∈ (analyze layeredProgram).references, r.use = ⟨[1, 1, 1, 0, 0, 0], "x", 16, 17⟩ →
        r.declaration = some ⟨[0, 0, 0, 2, 0, 0, 0], "x", 23, 24⟩ := by
  have hfree : ⟨[1, 1, 1, 0, 0, 0], "x", 16, 17⟩ ∈ freeOf (parameterItems ⟨[0, 0, 0], layeredFunction⟩ ++
      bodyItems ⟨[0, 0, 0], layeredFunction⟩) := by
    rw [parameterItems_eq, bodyItems_eq]
    decide +kernel
  have hfirst : (scopeTable ⟨[0, 0, 0], layeredFunction⟩).find? (fun e => e.name = "x") =
      some ⟨[0, 0, 0, 2, 0, 0, 0], "x", 23, 24⟩ := by
    rw [scopeTable, parameterItems_eq, bodyItems_eq]
    decide +kernel
  exact ⟨rfl, layeredFunction_evaluated, hfree, hfirst,
    function_layers_in_order rfl layeredFunction_evaluated hfree hfirst⟩

/-- The own name of an expression hides a parameter of the same name from the body, and a default value
reads a declaration of the body. -/
theorem own_name_and_body_come_first :
    Evaluates layeredProgram ⟨[0, 0, 0], layeredFunction⟩ ∧
      ⟨[0, 1, 0, 0, 0], "f", 12, 13⟩ ∈ landing .function (parameterItems ⟨[0, 0, 0], layeredFunction⟩) ∧
      ⟨[0, 1, 2, 0, 0, 0], "f", 25, 26⟩ ∈ freeOf (bodyItems ⟨[0, 0, 0], layeredFunction⟩) ∧
      ⟨⟨[0, 1, 2, 0, 0, 0], "f", 25, 26⟩, some ⟨[0, 0, 0, 0], "f", 10, 11⟩⟩ ∈
        (analyze layeredProgram).references ∧
      ⟨[0, 0, 0, 2, 0, 0, 0], "x", 23, 24⟩ ∈ landing .function (bodyItems ⟨[0, 0, 0], layeredFunction⟩) ∧
      ⟨[1, 1, 1, 0, 0, 0], "x", 16, 17⟩ ∈ freeOf (parameterItems ⟨[0, 0, 0], layeredFunction⟩) ∧
      ⟨⟨[1, 1, 1, 0, 0, 0], "x", 16, 17⟩, some ⟨[0, 0, 0, 2, 0, 0, 0], "x", 23, 24⟩⟩ ∈
        (analyze layeredProgram).references := by
  refine ⟨layeredFunction_evaluated, ?_⟩
  rw [parameterItems_eq, bodyItems_eq]
  decide +kernel

end TierSplit.Scope

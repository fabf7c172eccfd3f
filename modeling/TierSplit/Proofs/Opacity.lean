import TierSplit.Proofs.Edits

/-! A function is closed to the rest of its module. Its name is bound or evaluated around it; what its
parameters and its body bind stays in its scope. So whatever stands there, the references of the rest of
the module are the same, and none of them reads a declaration in there. -/

namespace TierSplit.Scope

open Syntax

/-- The parts of a function that lie in its scope. -/
def innerFields : List String := ["parameter", "parameters", "body"]

def isInner (c : Node) : Bool := innerFields.any c.inField

/-- Two functions that may differ in their parameters and their bodies, and in where they lie in the
text. -/
structure SameSignature (n n' : Node) : Prop where
  head : n.SameHead n'
  children : ((n.children.filter fun c => !isInner c).map Node.bare) =
    (n'.children.filter fun c => !isInner c).map Node.bare

/-- The position lies in the parameters or the body of the function. -/
def Inside (s : Site) (x : Path) : Prop := ∃ t ∈ s.children, isInner t.node = true ∧ t.path <:+ x

/-- Where the children of the first function are in the second one. Only the name is asked for. -/
def nameMove (n n' : Node) (i : Nat) : Nat :=
  if n.fieldIndex? "name" = some i then (n'.fieldIndex? "name").getD i else i

instance (s : Site) (x : Path) : Decidable (Inside s x) :=
  inferInstanceAs (Decidable (∃ t ∈ s.children, isInner t.node = true ∧ t.path <:+ x))

theorem isInner_iff {c : Node} : isInner c = true ↔ ∃ f ∈ innerFields, c.field = some f := by
  simp [isInner, Node.inField]

theorem isInner_of_inField_name {c : Node} (h : c.inField "name" = true) : isInner c = false := by
  have hfield : c.field = some "name" := beq_iff_eq.1 h
  rw [Bool.eq_false_iff, ne_eq, isInner_iff, hfield]
  decide

theorem suffix_of_inside {s : Site} {x : Path} (h : Inside s x) : s.path <:+ x := by
  obtain ⟨t, ht, -, hx⟩ := h
  obtain ⟨i, -, hpath⟩ := Site.mem_children.1 ht
  rw [hpath] at hx
  exact (List.suffix_cons i s.path).trans hx

/-! ### Names -/

theorem bare_inField (field : String) (c : Node) : c.bare.inField field = c.inField field := by
  cases c
  rfl

theorem bare_isInner (c : Node) : isInner c.bare = isInner c := by
  simp only [isInner, bare_inField]

theorem map_bare_outer (cs : List Node) :
    (cs.filter fun c => !isInner c).map Node.bare = (cs.map Node.bare).filter fun c => !isInner c := by
  rw [List.filter_map]
  simp only [Function.comp_def, bare_isInner]

theorem fieldIndex?_of_bare {n n' : Node} (h : n.bare = n'.bare) (field : String) :
    n.fieldIndex? field = n'.fieldIndex? field := by
  have hindex : ∀ cs : List Node,
      cs.findIdx? (Node.inField field) = (cs.map Node.bare).findIdx? (Node.inField field) := by
    intro cs
    rw [List.findIdx?_map]
    simp only [Function.comp_def, bare_inField]
  rw [Node.fieldIndex?, Node.fieldIndex?, hindex n.children, hindex n'.children,
    (Node.bare_eq_bare.1 h).2]

theorem inside_of_bare {n n' : Node} (h : n.bare = n'.bare) {path x : Path}
    (hx : Inside ⟨path, n⟩ x) : Inside ⟨path, n'⟩ x := by
  obtain ⟨t, ht, hinner, hsuffix⟩ := hx
  obtain ⟨i, hi, hpath⟩ := Site.mem_children.1 ht
  have hchild := getElem?_bare (Node.bare_eq_bare.1 h).2 i
  rw [hi, Option.map_some, eq_comm, Option.map_eq_some_iff] at hchild
  obtain ⟨c', hc', hbare⟩ := hchild
  refine ⟨⟨i :: path, c'⟩, Site.mem_children.2 ⟨i, hc', rfl⟩, ?_, hpath ▸ hsuffix⟩
  rw [← hinner, ← bare_isInner, ← bare_isInner t.node, hbare]

section

variable {n n' : Node}

theorem SameSignature.of_bare {n'' : Node} (h : SameSignature n n') (hbare : n''.bare = n'.bare) :
    SameSignature n n'' where
  head := h.head.trans (Node.bare_eq_bare.1 hbare.symm).1
  children := by
    rw [h.children, map_bare_outer, map_bare_outer, (Node.bare_eq_bare.1 hbare).2]

theorem SameSignature.name (h : SameSignature n n') :
    (n.child? "name").map Node.bare = (n'.child? "name").map Node.bare := by
  -- the name is the first of the outer parts that fills the field
  have hname : ∀ m : Node, (m.child? "name").map Node.bare =
      ((m.children.filter fun c => !isInner c).map Node.bare).find? (Node.inField "name") := by
    intro m
    rw [List.find?_map, List.find?_filter, Node.child?]
    congr 2
    funext c
    rw [Function.comp_apply, bare_inField]
    cases hc : c.inField "name" with
    | false => simp
    | true => simp [isInner_of_inField_name hc]
  rw [hname, hname, h.children]

theorem child?_eq_bind (n : Node) (field : String) :
    n.child? field = (n.fieldIndex? field).bind (n.children[·]?) :=
  List.find?_eq_bind_findIdx?_getElem?

theorem getElem?_of_fieldIndex? {field : String} {i : Nat} (h : n.fieldIndex? field = some i) :
    ∃ c, n.children[i]? = some c ∧ c.inField field = true ∧ n.child? field = some c := by
  obtain ⟨hlt, hfield, -⟩ := List.findIdx?_eq_some_iff_getElem.1 h
  have hc := List.getElem?_eq_getElem hlt
  exact ⟨_, hc, hfield, by rw [child?_eq_bind, h, Option.bind_some, hc]⟩

theorem fieldIndex?_eq_none {field : String} (h : n.child? field = none) : n.fieldIndex? field = none := by
  cases hi : n.fieldIndex? field with
  | none => rfl
  | some i =>
    obtain ⟨c, -, -, hc⟩ := getElem?_of_fieldIndex? hi
    rw [hc] at h
    cases h

theorem SameSignature.nameMove_eq (h : SameSignature n n') :
    n'.fieldIndex? "name" = (n.fieldIndex? "name").map (nameMove n n') := by
  have hname := h.name
  cases hi : n.fieldIndex? "name" with
  | none =>
    rw [child?_eq_bind, hi, Option.bind_none, Option.map_none, eq_comm, Option.map_eq_none_iff] at hname
    rw [fieldIndex?_eq_none hname, Option.map_none]
  | some i =>
    obtain ⟨c, -, -, hc⟩ := getElem?_of_fieldIndex? hi
    rw [hc, Option.map_some] at hname
    cases hi' : n'.fieldIndex? "name" with
    | none => rw [child?_eq_bind n', hi', Option.bind_none] at hname; cases hname
    | some i' => rw [Option.map_some, nameMove, if_pos hi, hi', Option.getD_some]

end

/-! ### The steps of a function -/

section

variable {n n' : Node}

theorem SameSignature.name_related (h : SameSignature n n') :
    Option.Rel Node.SameHead (n.child? "name") (n'.child? "name") := by
  have hname := h.name
  revert hname
  generalize n.child? "name" = x
  generalize n'.child? "name" = y
  intro hname
  cases x with
  | none =>
    rw [Option.map_none, eq_comm, Option.map_eq_none_iff] at hname
    rw [hname]
    exact .none
  | some c =>
    rw [Option.map_some, eq_comm, Option.map_eq_some_iff] at hname
    obtain ⟨c', rfl, hbare⟩ := hname
    exact .some (Node.bare_eq_bare.1 hbare.symm).1

theorem SameSignature.outer_threads (h : SameSignature n n') {ρ : Nat → Nat} {X : Nat → Prop}
    (hρ : n'.fieldIndex? "name" = (n.fieldIndex? "name").map ρ) :
    Threads ρ X (outerSteps n) (outerSteps n') := by
  rw [outerSteps, outerSteps, h.head.kind, nameIn_moved hρ h.name_related, inField_moved hρ]
  exact (Threads.of_map _).ite.append (Threads.of_map _).ite

theorem fieldIndex?_of_mem_inField {field : String} {duty d : Duty} {i : Nat}
    (h : (i, d) ∈ Plan.inField field duty n) : n.fieldIndex? field = some i ∧ d = duty := by
  rw [Plan.inField] at h
  split at h
  · next j hj =>
    obtain ⟨rfl, rfl⟩ := Prod.mk.inj (List.mem_singleton.1 h)
    exact ⟨hj, rfl⟩
  · cases h

/-- Around its scope a function follows its name only. -/
theorem fieldIndex?_of_mem_outerSteps {st : Step} (h : st ∈ outerSteps n) :
    n.fieldIndex? "name" = some st.1 := by
  rcases List.mem_append.1 h with h | h
  · split at h
    · exact (fieldIndex?_of_mem_inField ((nameIn_sublist "name" false n).subset h)).1
    · cases h
  · split at h
    · exact (fieldIndex?_of_mem_inField h).1
    · cases h

theorem mem_innerSteps {i : Nat} {d : Duty} (h : (i, d) ∈ innerSteps n) :
    (i, d) ∈ Plan.nameIn "name" false n ∨ ∃ f ∈ innerFields, n.fieldIndex? f = some i := by
  rw [innerSteps, List.mem_append, List.mem_append, List.mem_append] at h
  rcases h with ((h | h) | h) | h
  · split at h
    · exact .inl h
    · cases h
  · exact .inr ⟨"parameter", by decide, (fieldIndex?_of_mem_inField h).1⟩
  · exact .inr ⟨"parameters", by decide, (fieldIndex?_of_mem_inField h).1⟩
  · exact .inr ⟨"body", by decide, (fieldIndex?_of_mem_inField h).1⟩

end

theorem inside_of_use {s : Site} {o : Occurrence}
    (h : .use o ∈ leavesOf (follow s (innerSteps s.node))) : Inside s o.path := by
  obtain ⟨i, d, c, hstep, hc, hi⟩ := of_mem_leavesOf_follow h
  rcases mem_innerSteps hstep with hname | ⟨f, hf, hindex⟩
  · -- the name of an expression is bound, not used
    obtain ⟨rfl, c', hc', hid⟩ := of_mem_nameIn hname
    obtain rfl := Option.some.inj (hc.symm.trans hc')
    obtain ⟨_, hbind⟩ := eq_bind_of_pattern hid hi
    cases hbind
  · obtain ⟨c', hc', hfield, -⟩ := getElem?_of_fieldIndex? hindex
    obtain rfl := Option.some.inj (hc.symm.trans hc')
    refine ⟨⟨i :: s.path, c⟩, Site.mem_children.2 ⟨i, hc, rfl⟩, ?_, suffix_of_mentions hi (.inl rfl)⟩
    exact isInner_iff.2 ⟨f, hf, beq_iff_eq.1 hfield⟩

/-! ### Two functions -/

/-- The move from a program to one with another function at the site, the insides being hidden. -/
def around (s : Site) (n' : Node) : Relocation where
  moved := redirect (nameMove s.node n') s.path
  hidden := fun x => decide (Inside s x)
  hidden' := fun x => decide (Inside ⟨s.path, n'⟩ x)

theorem around_takes_self {s : Site} (n' : Node) {x : Path} (h : ¬s.path <:+ x) :
    (around s n').Takes x x where
  moves := (redirect_of_not_suffix _ fun i hi => h ((List.suffix_cons i s.path).trans hi)).symm
  plain := decide_eq_false fun hx => h (suffix_of_inside hx)
  plain' := decide_eq_false fun hx => h (suffix_of_inside (s := ⟨s.path, n'⟩) hx)

theorem not_inside_name {s : Site} {i : Nat} (h : s.node.fieldIndex? "name" = some i) (y : Path) :
    ¬Inside s (y ++ i :: s.path) := by
  rintro ⟨t, ht, hinner, hsuffix⟩
  obtain ⟨j, hj, hpath⟩ := Site.mem_children.1 ht
  rw [hpath] at hsuffix
  obtain rfl : j = i := eq_of_suffix hsuffix (List.suffix_append y (i :: s.path))
  obtain ⟨c, hc, hfield, -⟩ := getElem?_of_fieldIndex? h
  obtain rfl := Option.some.inj (hj.symm.trans hc)
  rw [isInner_of_inField_name hfield] at hinner
  cases hinner

theorem around_takes_name {s : Site} {n' : Node} (h : SameSignature s.node n') {i : Nat}
    (hi : s.node.fieldIndex? "name" = some i) (y : Path) :
    (around s n').Takes (y ++ i :: s.path) (y ++ nameMove s.node n' i :: s.path) where
  moves := (redirect_append _ s.path y i).symm
  plain := decide_eq_false (not_inside_name hi y)
  plain' := decide_eq_false (not_inside_name (s := ⟨s.path, n'⟩) (by rw [h.nameMove_eq, hi]; rfl) y)

/-- Two functions with the same signature add the same around their scopes. -/
theorem function_mirrors {s : Site} {n' n'' : Node} (h : SameSignature s.node n')
    (hbare : n''.bare = n'.bare) :
    (around s n').Mirrors (planned s (Plan.function s.node))
      (planned ⟨s.path, n''⟩ (Plan.function n'')) := by
  have hsame := h.of_bare hbare
  have hindex : n''.fieldIndex? "name" = (s.node.fieldIndex? "name").map (nameMove s.node n') := by
    rw [fieldIndex?_of_bare hbare, h.nameMove_eq]
  rw [function_eq, function_eq, planned_enclose, planned_enclose]
  refine Mirrors.append ?_ (.function ?_ ?_ .nil)
  · refine (hsame.outer_threads hindex).mirrors (fun st hst => ?_) fun _ _ hx => False.elim hx
    have hi := fieldIndex?_of_mem_outerSteps hst
    have hname := hsame.name
    rw [child?_eq_bind, child?_eq_bind, hindex, hi, Option.map_some, Option.bind_some,
      Option.bind_some] at hname
    exact follow_mirrors_of_bare s ⟨s.path, n''⟩ hname st.2 fun c c' _ hc =>
      mirrors_of_bare hc (around_takes_name h hi) st.2
  · intro o ho
    exact decide_eq_true (inside_of_use ho)
  · intro o ho
    exact decide_eq_true (inside_of_bare hbare (inside_of_use (s := ⟨s.path, n''⟩) ho))

/-- Whether a function is evaluated under a duty, its head tells. -/
theorem plan_of_sameHead {n n' : Node} (head : n.SameHead n') (hf : n.isFunction = true) {d : Duty}
    (h : Plan.of d n = Plan.function n) : Plan.of d n' = Plan.function n' := by
  have hvisit : Plan.visit n' = Plan.function n' := visit_of_isFunction (head.isFunction.trans hf)
  cases d with
  | visit => exact hvisit
  | pattern hoisted =>
    rw [Plan.of, Plan.pattern] at h ⊢
    rw [head.isIdentifier, head.kind, hvisit]
    split_ifs at h ⊢ <;> first | cases h | rfl
  | body =>
    rw [Plan.of] at h ⊢
    rw [head.kind, hvisit]
    split_ifs at h ⊢
    · cases h
    · rfl
  | parameters | declarator | exportClause | imported => cases h
  | exportSpecifier =>
    rw [Plan.of, Plan.exportSpecifier] at h
    split at h
    · split at h <;> cases h
    · cases h

/-- Of two programs that differ inside one function only, the references of the rest are the same, and
none of them reads a declaration in there. -/
theorem functions_are_closed {program program' f : Node} {s : Site} (hf : s.node.isFunction = true)
    (he : Evaluates program s) (hsame : SameSignature s.node f)
    (h : program'.bare = (program.edit (fun _ => f) s.path).bare) :
    (((analyze program').references.filter fun r => ¬s.path <:+ r.use.path).map
        fun r => (r.use.path, r.declaration.map Occurrence.path)).Perm
      (((analyze program).references.filter fun r => ¬s.path <:+ r.use.path).map fun r =>
        (r.use.path, r.declaration.map fun d => redirect (nameMove s.node f) s.path d.path)) ∧
    ∀ r ∈ (analyze program).references, ¬s.path <:+ r.use.path →
      ∀ d, r.declaration = some d → ¬Inside s d.path := by
  have hmirrors : (around s f).Mirrors (outline program) (outline program') := by
    obtain ⟨hs, hne⟩ : s ∈ program.sites [] ∧ s.path ≠ [] := by
      obtain ⟨duty, hreach, -⟩ := he
      exact ⟨hreach.mem_sites, hreach.path_ne_nil⟩
    refine outline_mirrors_of_edit hs hne hsame.head (fun x hx => around_takes_self f hx) ?_ h
    intro duty hreach n' hn'
    have hplan := he.plan_eq hf hreach
    have hhead := hsame.head.trans (Node.bare_eq_bare.1 hn'.symm).1
    rw [contribution_eq_planned, contribution_eq_planned ⟨s.path, n'⟩, hplan,
      plan_of_sameHead hhead hf hplan]
    exact function_mirrors hsame hn'
  constructor
  · exact hmirrors.outside_perm (fun x => suffix_redirect _)
      (fun x hx => (around_takes_self f hx).moves.symm)
      (fun x hx => (around_takes_self f hx).plain) fun x hx => (around_takes_self f hx).plain'
  · intro r hr huse d hd hinside
    have hplain := hmirrors.declaration_plain hr (decide_eq_false fun hx => huse (suffix_of_inside hx)) hd
    exact of_decide_eq_false hplain hinside

/-- The declaration `function f(…){…}` with some parameters and some statements. -/
def declarationOf (parameters statements : List Node) : Node :=
  ⟨.function false, "function_declaration", 0, 20, none, ["function"],
    [letterAt "f" 9 (some "name"),
      ⟨.other, "formal_parameters", 10, 13, some "parameters", [], parameters⟩,
      ⟨.block, "statement_block", 13, 20, some "body", [], statements⟩]⟩

/-- A module with a declaration, and uses of `f` and of `x` behind it. -/
def moduleOf (declaration : Node) : Node :=
  ⟨.block, "program", 0, 24, none, [],
    [declaration,
      ⟨.other, "expression_statement", 21, 22, none, [], [letterAt "f" 21 none]⟩,
      ⟨.other, "expression_statement", 23, 24, none, [], [letterAt "x" 23 none]⟩]⟩

/-- A function with a parameter `x`, and one that has a variable `f` in it. -/
theorem declarationOf_closed :
    let f := declarationOf [letterAt "x" 11 none]
      [⟨.other, "expression_statement", 14, 15, none, [], [letterAt "x" 14 none]⟩]
    let f' := declarationOf []
      [⟨.other, "variable_declaration", 14, 19, none, ["var"],
        [⟨.other, "variable_declarator", 18, 19, none, [], [letterAt "f" 18 (some "name")]⟩]⟩]
    f.isFunction = true ∧ Evaluates (moduleOf f) ⟨[0], f⟩ ∧ SameSignature f f' ∧
      (moduleOf f').bare = ((moduleOf f).edit (fun _ => f') [0]).bare ∧
      (((analyze (moduleOf f')).references.filter fun r => ¬[0] <:+ r.use.path).map
          fun r => (r.use.path, r.declaration.map Occurrence.path)).Perm
        (((analyze (moduleOf f)).references.filter fun r => ¬[0] <:+ r.use.path).map fun r =>
          (r.use.path, r.declaration.map fun d => redirect (nameMove f f') [0] d.path)) ∧
      ∀ r ∈ (analyze (moduleOf f)).references, ¬[0] <:+ r.use.path →
        ∀ d, r.declaration = some d → ¬Inside ⟨[0], f⟩ d.path := by
  intro f f'
  have he : Evaluates (moduleOf f) ⟨[0], f⟩ := ⟨.visit, .top (.head _), rfl⟩
  have hsame : SameSignature f f' := ⟨⟨rfl, rfl, rfl, rfl⟩, rfl⟩
  exact ⟨rfl, he, hsame, rfl, functions_are_closed (s := ⟨[0], f⟩) rfl he hsame rfl⟩

end TierSplit.Scope

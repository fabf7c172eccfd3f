import TierSplit.Proofs.ScopeRules

/-! The outline of a program follows the scope rules. Every duty has its rule; the plan of a node
under a duty spells out that rule, step by step, over the children. -/

namespace TierSplit.Scope

open Syntax

/-- The first child in a field, as a list of at most one. -/
def childIn (field : String) (s : Site) : List Site :=
  (s.children.find? (·.node.inField field)).toList

def childrenBut (field : String) (s : Site) : List Site :=
  s.children.eraseP (·.node.inField field)

/-- What a site under a duty adds. -/
def obliged : Duty → Site → List Item
  | .visit, s => evaluated s
  | .pattern hoisted, s => bound hoisted s
  | .parameters, s => s.children.flatMap (bound false)
  | .body, s =>
    if s.node.kind = "statement_block" then s.children.flatMap evaluated else evaluated s
  | .declarator hoisted, s =>
    (childIn "name" s).flatMap (bound hoisted) ++ (childIn "value" s).flatMap evaluated
  | .exportClause, s => s.children.flatMap fun t => (nameIn "name" t).map .use
  | .exportSpecifier, s => (nameIn "name" s).map .use
  | .imported, s => (s.node.sites s.path).flatMap importBindings

/-! ### Parts and children -/

section

variable {s : Site} {β : Type} (f : Site → List β) (ts : List (Below s))

theorem flatMap_val : (ts.flatMap fun t => f t.1) = (ts.map Subtype.val).flatMap f := by
  rw [List.flatMap_map]

theorem map_val_parts : (Below.parts s).map Subtype.val = s.children := by
  simp [Below.parts]

theorem map_val_nested (t : Below s) : t.nested.map Subtype.val = t.1.children := by
  rw [← map_val_parts, Below.nested, List.map_map]
  rfl

theorem map_val_first (field : String) :
    (Below.first field ts).map Subtype.val =
      ((ts.map Subtype.val).find? (·.node.inField field)).toList := by
  rw [Below.first, List.find?_map, Option.toList_map]
  rfl

theorem map_val_others (field : String) :
    (Below.others field ts).map Subtype.val =
      (ts.map Subtype.val).eraseP (·.node.inField field) := by
  rw [Below.others, List.eraseP_map]
  rfl

theorem flatMap_parts : ((Below.parts s).flatMap fun t => f t.1) = s.children.flatMap f := by
  rw [flatMap_val f, map_val_parts]

theorem flatMap_nested (t : Below s) : (t.nested.flatMap fun u => f u.1) = t.1.children.flatMap f := by
  rw [flatMap_val f, map_val_nested]

theorem flatMap_first (field : String) :
    ((Below.first field (Below.parts s)).flatMap fun t => f t.1) = (childIn field s).flatMap f := by
  rw [flatMap_val f, map_val_first, map_val_parts, childIn]

theorem flatMap_first_nested (field : String) (t : Below s) :
    ((Below.first field t.nested).flatMap fun u => f u.1) = (childIn field t.1).flatMap f := by
  rw [flatMap_val f, map_val_first, map_val_nested, childIn]

theorem flatMap_others (field : String) :
    ((Below.others field (Below.parts s)).flatMap fun t => f t.1) =
      (childrenBut field s).flatMap f := by
  rw [flatMap_val f, map_val_others, map_val_parts, childrenBut]

end

/-! ### Steps and children -/

/-- What the chosen children of a site contribute. -/
def follow (s : Site) (steps : List Step) : List Item :=
  followSteps (contributions s.node.children) s.path steps

/-- The children of the site contribute what their rules say. -/
def Settled (s : Site) : Prop :=
  ∀ t ∈ s.children, ∀ duty, contribution t.node duty t.path = obliged duty t

@[simp] theorem getElem?_contributions (ns : List Node) (i : Nat) :
    (contributions ns)[i]? = ns[i]?.map contribution := by
  induction ns generalizing i with
  | nil => rfl
  | cons c rest ih => cases i <;> simp [contributions, ih]

theorem getElem?_childrenFrom (path : Path) (i j : Nat) (ns : List Node) :
    (Site.childrenFrom path i ns)[j]? = ns[j]?.map fun c => ⟨(i + j) :: path, c⟩ := by
  induction ns generalizing i j with
  | nil => rfl
  | cons c rest ih =>
    cases j with
    | zero => rfl
    | succ j =>
      rw [Site.childrenFrom, List.getElem?_cons_succ, ih, List.getElem?_cons_succ]
      simp only [Nat.add_right_comm, Nat.add_assoc]

theorem follow_eq {s : Site} (h : Settled s) (steps : List Step) :
    follow s steps = steps.flatMap fun st => s.children[st.1]?.toList.flatMap (obliged st.2) := by
  rw [follow, followSteps]
  refine List.flatMap_congr fun st _ => ?_
  rw [getElem?_contributions, Site.children, getElem?_childrenFrom, Nat.zero_add]
  cases hc : s.node.children[st.1]? with
  | none => rfl
  | some c =>
    have := h ⟨st.1 :: s.path, c⟩ (Site.mem_children.2 ⟨st.1, hc, rfl⟩) st.2
    simpa using this

@[simp] theorem follow_append {s : Site} (a b : List Step) :
    follow s (a ++ b) = follow s a ++ follow s b := by
  simp only [follow, followSteps, List.flatMap_append]

theorem allFrom_eq_filterFrom (duty : Duty) (i : Nat) (ns : List Node) :
    Plan.allFrom duty i ns = Plan.filterFrom (fun _ => true) duty i ns := by
  induction ns generalizing i with
  | nil => rfl
  | cons c rest ih => simp [Plan.allFrom, Plan.filterFrom, ih]

theorem le_of_mem_allFrom {duty : Duty} {i : Nat} {ns : List Node} {st : Step}
    (h : st ∈ Plan.allFrom duty i ns) : i ≤ st.1 := by
  induction ns generalizing i with
  | nil => cases h
  | cons c rest ih =>
    rcases List.mem_cons.1 h with rfl | h
    · exact Nat.le_refl _
    · exact Nat.le_of_succ_le (ih h)

/-- Steps over the children from an index on, where each step gives what its child gives. -/
theorem flatMap_filterFrom {path : Path} {i : Nat} {ns : List Node} {duty : Duty}
    {test : Node → Bool} {g : Step → List Item} {g' : Site → List Item}
    (h : ∀ t ∈ Site.childrenFrom path i ns, ∀ j, t.path = j :: path → g (j, duty) = g' t) :
    (Plan.filterFrom test duty i ns).flatMap g =
      ((Site.childrenFrom path i ns).filter (test ·.node)).flatMap g' := by
  induction ns generalizing i with
  | nil => rfl
  | cons c rest ih =>
    have hrest := ih fun t ht j hj => h t (List.mem_cons_of_mem _ ht) j hj
    rw [Plan.filterFrom, Site.childrenFrom]
    by_cases hc : test c = true
    · rw [if_pos hc, List.filter_cons, if_pos (by exact hc), List.flatMap_cons, List.flatMap_cons,
        hrest, h _ List.mem_cons_self i rfl]
    · rw [if_neg hc, List.filter_cons, if_neg (by exact hc), hrest]

theorem getElem?_children_of_mem {s t : Site} (ht : t ∈ s.children) {j : Nat}
    (hj : t.path = j :: s.path) : s.children[j]? = some t := by
  obtain ⟨i, hi, hp⟩ := Site.mem_children.1 ht
  rw [hp, List.cons.injEq] at hj
  obtain ⟨rfl, -⟩ := hj
  rw [Site.children, getElem?_childrenFrom, hi, Nat.zero_add, Option.map_some, ← hp]

theorem follow_filter {s : Site} (h : Settled s) (test : Node → Bool) (duty : Duty) :
    follow s (Plan.filter test duty s.node) =
      (s.children.filter (test ·.node)).flatMap (obliged duty) := by
  rw [follow_eq h, Plan.filter]
  refine flatMap_filterFrom fun t ht j hj => ?_
  rw [getElem?_children_of_mem ht hj]
  simp

theorem follow_all {s : Site} (h : Settled s) (duty : Duty) :
    follow s (Plan.all duty s.node) = s.children.flatMap (obliged duty) := by
  rw [Plan.all, allFrom_eq_filterFrom, ← Plan.filter, follow_filter h]
  simp

theorem childIn_eq (field : String) (s : Site) :
    childIn field s = (s.node.fieldIndex? field).toList.flatMap fun i => s.children[i]?.toList := by
  rw [childIn, Node.fieldIndex?, List.find?_eq_bind_findIdx?_getElem?, ← Site.map_node_children,
    List.findIdx?_map]
  rw [show ((fun t : Site => t.node.inField field)) = (Node.inField field) ∘ Site.node from rfl]
  cases List.findIdx? (Node.inField field ∘ Site.node) s.children <;> simp

theorem follow_inField {s : Site} (h : Settled s) (field : String) (duty : Duty) :
    follow s (Plan.inField field duty s.node) = (childIn field s).flatMap (obliged duty) := by
  rw [childIn_eq, follow_eq h, Plan.inField]
  cases s.node.fieldIndex? field <;> simp

theorem flatMap_but {path : Path} {i k : Nat} {ns : List Node} {duty : Duty}
    {g : Step → List Item} {g' : Site → List Item}
    (h : ∀ t ∈ Site.childrenFrom path i ns, ∀ j, t.path = j :: path → g (j, duty) = g' t) :
    ((Plan.allFrom duty i ns).filter (·.1 != i + k)).flatMap g =
      ((Site.childrenFrom path i ns).eraseIdx k).flatMap g' := by
  induction ns generalizing i k with
  | nil => rfl
  | cons c rest ih =>
    have hrest : ∀ t ∈ Site.childrenFrom path (i + 1) rest, ∀ j, t.path = j :: path →
        g (j, duty) = g' t := fun t ht j hj => h t (List.mem_cons_of_mem _ ht) j hj
    rw [Plan.allFrom, Site.childrenFrom, List.filter_cons]
    cases k with
    | zero =>
      -- later steps have larger indices, so none of them is left out
      rw [if_neg (by simp), List.eraseIdx_cons_zero, List.filter_eq_self.2]
      · rw [allFrom_eq_filterFrom, flatMap_filterFrom hrest]
        simp
      · intro st hst
        have := le_of_mem_allFrom hst
        simp only [bne_iff_ne]
        omega
    | succ k =>
      rw [if_pos (by simp), List.eraseIdx_cons_succ, List.flatMap_cons, List.flatMap_cons,
        h _ List.mem_cons_self i rfl, ← ih hrest]
      simp only [Nat.add_right_comm, Nat.add_assoc]

theorem follow_others {s : Site} (h : Settled s) (field : String) (duty : Duty) :
    follow s (Plan.others field duty s.node) = (childrenBut field s).flatMap (obliged duty) := by
  have hg : ∀ t ∈ Site.childrenFrom s.path 0 s.node.children, ∀ j, t.path = j :: s.path →
      s.children[j]?.toList.flatMap (obliged duty) = obliged duty t := by
    intro t ht j hj
    rw [getElem?_children_of_mem ht hj]
    simp
  rw [childrenBut, List.eraseP_eq_eraseIdx, Plan.others, Node.fieldIndex?, ← Site.map_node_children,
    List.findIdx?_map]
  rw [show (fun t : Site => t.node.inField field) = Node.inField field ∘ Site.node from rfl]
  cases hk : List.findIdx? (Node.inField field ∘ Site.node) s.children with
  | none => exact follow_all h duty
  | some k =>
    have hbut := flatMap_but (k := k)
      (g := fun st => s.children[st.1]?.toList.flatMap (obliged st.2)) hg
    rw [Nat.zero_add] at hbut
    rw [follow_eq h]
    exact hbut

theorem child?_eq (field : String) (s : Site) :
    s.node.child? field = (s.children.find? (·.node.inField field)).map Site.node := by
  rw [Node.child?, ← Site.map_node_children, List.find?_map]
  rfl

theorem occurrence?_eq_none {t : Site} (h : ¬t.node.isIdentifier = true) : t.occurrence? = none := by
  cases ho : t.occurrence? with
  | none => rfl
  | some o => exact absurd (Site.eq_of_occurrence? ho).1 h

theorem bound_of_isIdentifier {t : Site} (h : t.node.isIdentifier = true) (hoisted : Bool) :
    bound hoisted t = t.occurrence?.toList.map (.bind hoisted) := by
  rw [bound, patternRule, if_pos h]

theorem evaluated_of_isIdentifier {t : Site} (h : t.node.isIdentifier = true) :
    evaluated t = t.occurrence?.toList.map .use := by
  rw [evaluated, evaluationRule, if_pos h]

/-- The first child in a field gives nothing, where only an identifier would give something. -/
theorem follow_nameIn {s : Site} (h : Settled s) (field : String) (hoisted : Bool) :
    follow s (Plan.nameIn field hoisted s.node) = (nameIn field s).map (.bind hoisted) := by
  rw [Plan.nameIn, child?_eq, nameIn]
  have hin := follow_inField h field (.pattern hoisted)
  rw [childIn] at hin
  cases hc : s.children.find? (·.node.inField field) with
  | none => rfl
  | some t =>
    rw [hc] at hin
    simp only [Option.map_some, Option.bind_some]
    split
    · rename_i hid
      rw [hin, Option.toList_some, List.flatMap_singleton]
      exact bound_of_isIdentifier hid hoisted
    · rename_i hid
      rw [occurrence?_eq_none hid]
      rfl

theorem nameIn_eq_nil_iff (field : String) (hoisted : Bool) (s : Site) :
    Plan.nameIn field hoisted s.node = [] ↔ nameIn field s = [] := by
  rw [Plan.nameIn, child?_eq, nameIn]
  have hin := childIn_eq field s
  rw [childIn] at hin
  cases hc : s.children.find? (·.node.inField field) with
  | none => simp
  | some t =>
    simp only [Option.map_some, Option.bind_some]
    split
    · rename_i hid
      obtain ⟨o, ho⟩ := Site.exists_occurrence? hid
      rw [hc] at hin
      cases hi : s.node.fieldIndex? field with
      | none => rw [hi] at hin; simp at hin
      | some i => simp [Plan.inField, hi, ho]
    · rename_i hid
      simp [occurrence?_eq_none hid]

/-! ### Plans and rules -/

def planned (s : Site) (plan : Plan) : List Item :=
  plan.items s.node (contributions s.node.children) s.path

@[simp] theorem planned_follow (s : Site) (outer : List Step) : planned s (.follow outer) = follow s outer :=
  rfl

theorem occurrenceItems_eq (f : Occurrence → Item) (s : Site) :
    occurrenceItems f s.node s.path = s.occurrence?.toList.map f := by
  rw [occurrenceItems]
  cases s.occurrence? <;> rfl

@[simp] theorem planned_enclose (s : Site) (outer : List Step) (kind : Kind) (inner : List Step) :
    planned s (.enclose outer kind inner) = follow s outer ++ [.scope kind (follow s inner)] := rfl

@[simp] theorem follow_nil (s : Site) : follow s [] = [] := rfl

@[simp] theorem follow_ite (s : Site) (p : Prop) [Decidable p] (steps : List Step) :
    follow s (if p then steps else []) = if p then follow s steps else [] := by
  split
  · rfl
  · exact follow_nil s

def exportedPart (reexport : Bool) (t : Site) : List Item :=
  if t.node.kind = "export_clause" then if reexport then [] else obliged .exportClause t
  else if t.node.inField "source" then []
  else evaluated t

theorem exportStep_gives (reexport : Bool) {s t : Site} (ht : t ∈ s.children) {j : Nat}
    (hj : t.path = j :: s.path) :
    ((Plan.exportStep reexport s.node (j, .visit)).toList.flatMap fun st =>
      s.children[st.1]?.toList.flatMap (obliged st.2)) = exportedPart reexport t := by
  have hs := getElem?_children_of_mem ht hj
  have hn : s.node.children[j]? = some t.node := by
    rw [← Site.map_node_children, List.getElem?_map, hs]
    rfl
  rw [Plan.exportStep, hn, exportedPart]
  simp only [beq_iff_eq]
  split_ifs <;> simp [hs, obliged]

section

variable {s : Site} (h : Settled s)
include h

theorem planned_function :
    planned s (Plan.function s.node) =
      functionRule s (fun t => evaluated t.1) fun hoisted t => bound hoisted t.1 := by
  have hparameters : ((Below.first "parameters" (Below.parts s)).flatMap Below.nested).flatMap
      (fun t => bound false t.1) = (childIn "parameters" s).flatMap (obliged .parameters) := by
    rw [List.flatMap_assoc, ← flatMap_first]
    exact List.flatMap_congr fun t _ => flatMap_nested (bound false) t
  have hbody : ((Below.first "body" (Below.parts s)).flatMap fun body =>
      if body.1.node.kind = "statement_block" then body.nested.flatMap fun t => evaluated t.1
      else evaluated body.1) = (childIn "body" s).flatMap (obliged .body) := by
    rw [← flatMap_first]
    refine List.flatMap_congr fun t _ => ?_
    rw [flatMap_nested evaluated, obliged]
  rw [functionRule, hparameters, hbody, flatMap_first evaluated, flatMap_first (bound false)]
  rw [Plan.function, planned_enclose]
  simp only [follow_append, follow_ite, follow_nameIn h, follow_inField h]
  simp only [Plan.isFunctionDeclaration, Plan.isFunctionExpression, declarationKinds,
    expressionKinds, List.mem_cons, List.not_mem_nil, or_false, Bool.or_eq_true, beq_iff_eq,
    or_assoc]
  rfl

theorem planned_classLike :
    planned s (Plan.classLike s.node) = classRule s fun t => evaluated t.1 := by
  have hname := follow_nameIn h "name" false
  have hrest := follow_others h "name" .visit
  rw [classRule, flatMap_others evaluated, Plan.classLike]
  by_cases hd : s.node.kind = "class_declaration"
  · rw [if_pos (by simpa using hd), if_pos (.inl hd), planned_follow, follow_append, hname, hrest]
    rfl
  · rw [if_neg (by simpa using hd)]
    cases hs : Plan.nameIn "name" false s.node with
    | nil =>
      have he := (nameIn_eq_nil_iff "name" false s).1 hs
      rw [if_pos (.inr (by rw [he]; rfl)), planned_follow, hrest, he]
      rfl
    | cons st rest =>
      have he : nameIn "name" s ≠ [] := by
        rw [ne_eq, ← nameIn_eq_nil_iff "name" false, hs]
        exact List.cons_ne_nil st rest
      rw [if_neg (by simp [hd, he])]
      change planned s (.enclose [] .classBody (st :: rest ++ Plan.others "name" .visit s.node)) = _
      rw [planned_enclose, ← hs, follow_append, hname, hrest, follow_nil]
      rfl

theorem planned_variables (hoisted : Bool) :
    planned s (.follow (Plan.filter (·.kind == "variable_declarator") (.declarator hoisted) s.node)) =
      variablesRule s (fun t => evaluated t.1) (fun h t => bound h t.1) hoisted := by
  rw [planned_follow, follow_filter h, variablesRule, ← map_val_parts, List.filter_map,
    List.flatMap_map]
  refine List.flatMap_congr fun t _ => ?_
  rw [flatMap_first_nested (bound hoisted), flatMap_first_nested evaluated]
  rfl

theorem planned_forIn :
    planned s (Plan.forIn s.node) =
      forInRule s (fun t => evaluated t.1) fun hoisted t => bound hoisted t.1 := by
  rw [forInRule, flatMap_others evaluated, Plan.forIn, planned_enclose, follow_append,
    follow_inField h, follow_others h, follow_nil]
  split_ifs with hv hl
  · rw [flatMap_first (bound true)]; rfl
  · rw [flatMap_first (bound false)]; rfl
  · rw [flatMap_first evaluated]; rfl

theorem planned_catch :
    planned s (.enclose [] .handler (Plan.inField "parameter" (.pattern false) s.node ++
        Plan.others "parameter" .visit s.node)) =
      catchRule s (fun t => evaluated t.1) fun hoisted t => bound hoisted t.1 := by
  rw [catchRule, flatMap_others evaluated, flatMap_first (bound false), planned_enclose,
    follow_append, follow_inField h, follow_others h, follow_nil]
  rfl

theorem planned_exported :
    planned s (Plan.exported s.node) = exportRule s fun t => evaluated t.1 := by
  have hsource : (Below.parts s).any (Below.inField "source") =
      (s.node.fieldIndex? "source").isSome := by
    rw [Node.fieldIndex?, List.findIdx?_isSome, ← Site.map_node_children, ← map_val_parts,
      List.map_map, List.any_map]
    rfl
  have hclause : ∀ t : Below s, (t.nested.flatMap fun u => (nameIn "name" u.1).map Item.use) =
      obliged .exportClause t.1 := by
    intro t
    rw [flatMap_nested fun u => (nameIn "name" u).map Item.use]
    rfl
  rw [exportRule, hsource, Plan.exported, planned_follow, follow_eq h,
    List.filterMap_eq_flatMap_toList, List.flatMap_assoc, Plan.all, allFrom_eq_filterFrom]
  rw [flatMap_filterFrom fun t ht j hj => exportStep_gives _ ht hj, List.filter_true, ← Site.children,
    ← map_val_parts, List.flatMap_map]
  refine List.flatMap_congr fun t _ => ?_
  rw [hclause]
  rfl

theorem planned_imported : planned s (Plan.imported s.node) = obliged .imported s := by
  have hfilter : ((s.children.filter (·.node.isIdentifier)).flatMap (bound true)) =
      (s.children.filterMap Site.occurrence?).map (Item.bind true) := by
    rw [List.filterMap_eq_flatMap_toList, List.map_flatMap]
    induction s.children with
    | nil => rfl
    | cons t rest ih =>
      rw [List.filter_cons, List.flatMap_cons, ← ih]
      split
      · rename_i hid
        rw [List.flatMap_cons, bound_of_isIdentifier hid]
      · rename_i hid
        rw [occurrence?_eq_none hid]
        rfl
  have halias : s.children.any (·.node.inField "alias") = (s.node.child? "alias").isSome := by
    rw [child?_eq, Option.isSome_map, List.isSome_find?]
  rw [obliged, Node.sites_eq, List.flatMap_cons, List.flatMap_assoc, Plan.imported, planned_follow,
    follow_append, follow_all h]
  congr 1
  rw [importBindings, halias]
  simp only [beq_iff_eq, Bool.or_eq_true]
  split_ifs with hs ha hc
  · obtain ⟨c, hc⟩ := Option.isSome_iff_exists.1 ha
    rw [hc]
    exact follow_nameIn h "alias" true
  · rw [Option.not_isSome_iff_eq_none.1 ha]
    exact follow_nameIn h "name" true
  · rw [follow_filter h, ← hfilter]
    rfl
  · exact follow_nil s

theorem planned_visit : planned s (Plan.visit s.node) = evaluated s := by
  rw [evaluated, evaluationRule, Plan.visit]
  by_cases hid : s.node.isIdentifier = true
  · rw [if_pos hid, if_pos hid]
    exact occurrenceItems_eq .use s
  rw [if_neg hid, if_neg hid]
  by_cases hfn : s.node.isFunction = true
  · rw [if_pos hfn, if_pos hfn]
    exact planned_function h
  rw [if_neg hfn, if_neg hfn]
  simp only [beq_iff_eq, Bool.or_eq_true]
  split_ifs with hclass hvar hlet hblock hfor hforIn hcatch himport hexport
  · rcases hclass with hk | hk <;> simp only [hk] <;> exact planned_classLike h
  · simp only [hvar]
    exact planned_variables h true
  · simp only [hlet]
    exact planned_variables h false
  · rcases hblock with hk | hk <;> simp only [hk] <;>
      rw [planned_enclose, follow_all h, flatMap_parts evaluated] <;> rfl
  · simp only [hfor]
    rw [planned_enclose, follow_all h, flatMap_parts evaluated]
    rfl
  · simp only [hforIn]
    exact planned_forIn h
  · simp only [hcatch]
    exact planned_catch h
  · simp only [himport]
    rw [planned_follow, follow_all h, Node.sites_eq, List.flatMap_cons, List.flatMap_assoc]
    simp only [importBindings, himport, String.reduceEq, or_self, if_false, List.nil_append]
    rfl
  · simp only [hexport]
    exact planned_exported h
  · obtain ⟨hdeclaration, hexpression⟩ := not_or.1 hclass
    obtain ⟨hstatements, hswitch⟩ := not_or.1 hblock
    split <;> try contradiction
    rw [planned_follow, follow_all h, flatMap_parts evaluated]
    rfl

theorem planned_pattern (hoisted : Bool) :
    planned s (Plan.pattern hoisted s.node) = bound hoisted s := by
  have hparts : ((Below.parts s).flatMap fun t => bound hoisted t.1) =
      s.children.flatMap (obliged (.pattern hoisted)) := flatMap_parts (bound hoisted)
  rw [bound, patternRule, Plan.pattern]
  by_cases hid : s.node.isIdentifier = true
  · rw [if_pos hid, if_pos hid]
    exact occurrenceItems_eq (.bind hoisted) s
  rw [if_neg hid, if_neg hid]
  simp only [beq_iff_eq, Bool.or_eq_true]
  split_ifs with hlist hpair hdefault
  · rcases hlist with (hk | hk) | hk <;> simp only [hk] <;>
      rw [planned_follow, follow_all h, hparts]
  · simp only [hpair]
    rw [planned_follow, follow_append, follow_inField h, follow_inField h, flatMap_first evaluated,
      flatMap_first (bound hoisted)]
    rfl
  · rcases hdefault with hk | hk <;> simp only [hk] <;>
      rw [planned_follow, follow_append, follow_inField h, follow_inField h,
        flatMap_first evaluated, flatMap_first (bound hoisted)] <;> rfl
  · obtain ⟨hobject, hrest⟩ := not_or.1 hlist
    obtain ⟨hobject, harray⟩ := not_or.1 hobject
    obtain ⟨hassign, hshorthand⟩ := not_or.1 hdefault
    split <;> try contradiction
    rw [planned_visit h, evaluated]

theorem planned_exportSpecifier : planned s (Plan.exportSpecifier s.node) = obliged .exportSpecifier s := by
  rw [Plan.exportSpecifier, child?_eq, obliged, nameIn]
  have hin := follow_inField h "name" .visit
  rw [childIn] at hin
  cases hc : s.children.find? (·.node.inField "name") with
  | none => rfl
  | some t =>
    rw [hc] at hin
    simp only [Option.map_some, Option.bind_some]
    split
    · rename_i hid
      rw [planned_follow, hin, Option.toList_some, List.flatMap_singleton]
      exact evaluated_of_isIdentifier hid
    · rename_i hid
      rw [occurrence?_eq_none hid]
      rfl

/-- The plan of a node under a duty spells out the rule of the duty. -/
theorem planned_eq_obliged (duty : Duty) : planned s (Plan.of duty s.node) = obliged duty s := by
  cases duty with
  | visit => exact planned_visit h
  | pattern hoisted => exact planned_pattern h hoisted
  | parameters => exact follow_all h (.pattern false)
  | body =>
    simp only [Plan.of, obliged, beq_iff_eq]
    split
    · exact follow_all h .visit
    · exact planned_visit h
  | declarator hoisted =>
    simp only [Plan.of, planned_follow, follow_append, follow_inField h]
    rfl
  | exportClause => exact follow_all h .exportSpecifier
  | exportSpecifier => exact planned_exportSpecifier h
  | imported => exact planned_imported h

end

theorem contribution_eq_planned (s : Site) (duty : Duty) :
    contribution s.node duty s.path = planned s (Plan.of duty s.node) := by
  obtain ⟨path, node⟩ := s
  cases node
  rfl

theorem contribution_eq_obliged (n : Node) (duty : Duty) (path : Path) :
    contribution n duty path = obliged duty ⟨path, n⟩ := by
  induction n using Node.childInduction generalizing duty path with
  | step n ih =>
    have h : Settled ⟨path, n⟩ := fun t ht d => ih _ (Site.node_mem_of_mem_children ht) d t.path
    rw [contribution_eq_planned ⟨path, n⟩, planned_eq_obliged h]

theorem outline_eq_moduleItems (program : Node) : outline program = moduleItems program := by
  have h : Settled (Site.root program) := fun t _ d => contribution_eq_obliged t.node d t.path
  exact follow_all h .visit

end TierSplit.Scope

import TierSplit.Proofs.Mentions
import TierSplit.Concrete.Conversion

/-! No identifier is lost. In a tree of the grammar's shape the plan of a node passes over none of its
children, but for the parts of an import or of an export clause and for the decorators of a function.
So every identifier outside these is recorded, as a use or as a declaration. The decorators of
functions are a real loss: those of classes and of fields are evaluated. -/

namespace TierSplit.Scope

open Syntax

/-! ### The grammar's shape -/

/-- All children fill one of the fields. -/
def FillsOnly (fields : List String) (n : Node) : Prop :=
  ∀ c ∈ n.children, ∃ f ∈ fields, c.field = some f

instance (fields : List String) (n : Node) : Decidable (FillsOnly fields n) :=
  inferInstanceAs (Decidable (∀ c ∈ n.children, ∃ f ∈ fields, c.field = some f))

/-- What the grammar makes of a function. The name of a method may be computed. -/
structure FunctionShaped (n : Node) : Prop where
  kind : n.kind ∈ Concrete.functionKinds
  parts : FillsOnly ["name", "parameter", "parameters", "body", "decorator"] n
  name : ∀ c ∈ n.children, c.field = some "name" → n.kind ≠ "arrow_function" ∧
    (n.kind ≠ "method_definition" → c.isIdentifier = true)
  parameters : ∀ c ∈ n.children, c.field = some "parameters" → c.isIdentifier = false

/-- What the grammar makes of a node, as far as the scope rules look at it. -/
structure Shaped (n : Node) : Prop where
  fields : n.children.Pairwise fun a b =>
    a.field = b.field → a.field = none ∨ a.field = some "decorator"
  identifier : n.isIdentifier = true → n.kind ∈ Concrete.identifierKinds ∧ n.children = []
  function : n.isFunction = true → FunctionShaped n
  className : n.kind ∈ ["class_declaration", "class"] →
    ∀ c ∈ n.children, c.field = some "name" → c.isIdentifier = true
  declarators : n.kind ∈ ["variable_declaration", "lexical_declaration"] →
    ∀ c ∈ n.children, c.kind = "variable_declarator"
  declarator : n.kind = "variable_declarator" → FillsOnly ["name", "value"] n
  pair : n.kind = "pair_pattern" → FillsOnly ["key", "value"] n
  assignment : n.kind ∈ ["assignment_pattern", "object_assignment_pattern"] →
    FillsOnly ["left", "right"] n
  exportSource : n.kind = "export_statement" →
    ∀ c ∈ n.children, c.field = some "source" → c.Everywhere fun m => m.isIdentifier = false

instance (n : Node) : Decidable (FunctionShaped n) :=
  decidable_of_iff (n.kind ∈ Concrete.functionKinds ∧
      FillsOnly ["name", "parameter", "parameters", "body", "decorator"] n ∧
      (∀ c ∈ n.children, c.field = some "name" → n.kind ≠ "arrow_function" ∧
        (n.kind ≠ "method_definition" → c.isIdentifier = true)) ∧
      ∀ c ∈ n.children, c.field = some "parameters" → c.isIdentifier = false)
    ⟨fun h => ⟨h.1, h.2.1, h.2.2.1, h.2.2.2⟩, fun h => ⟨h.1, h.2, h.3, h.4⟩⟩

instance (n : Node) : Decidable (Shaped n) :=
  decidable_of_iff (
      (n.children.Pairwise fun a b =>
        a.field = b.field → a.field = none ∨ a.field = some "decorator") ∧
      (n.isIdentifier = true → n.kind ∈ Concrete.identifierKinds ∧ n.children = []) ∧
      (n.isFunction = true → FunctionShaped n) ∧
      (n.kind ∈ ["class_declaration", "class"] →
        ∀ c ∈ n.children, c.field = some "name" → c.isIdentifier = true) ∧
      (n.kind ∈ ["variable_declaration", "lexical_declaration"] →
        ∀ c ∈ n.children, c.kind = "variable_declarator") ∧
      (n.kind = "variable_declarator" → FillsOnly ["name", "value"] n) ∧
      (n.kind = "pair_pattern" → FillsOnly ["key", "value"] n) ∧
      (n.kind ∈ ["assignment_pattern", "object_assignment_pattern"] →
        FillsOnly ["left", "right"] n) ∧
      (n.kind = "export_statement" →
        ∀ c ∈ n.children, c.field = some "source" → c.Everywhere fun m => m.isIdentifier = false))
    ⟨fun ⟨h1, h2, h3, h4, h5, h6, h7, h8, h9⟩ => ⟨h1, h2, h3, h4, h5, h6, h7, h8, h9⟩,
      fun h => ⟨h.1, h.2, h.3, h.4, h.5, h.6, h.7, h.8, h.9⟩⟩

/-! ### Steps -/

section

variable {n c : Node} {i : Nat} (hc : n.children[i]? = some c)

theorem mem_filterFrom {test : Node → Bool} {duty : Duty} {k i : Nat} {ns : List Node}
    (hc : ns[i]? = some c) (ht : test c = true) : (k + i, duty) ∈ Plan.filterFrom test duty k ns := by
  induction ns generalizing k i with
  | nil => cases hc
  | cons d rest ih =>
    rw [Plan.filterFrom]
    cases i with
    | zero =>
      cases hc
      rw [if_pos ht]
      exact List.mem_cons_self
    | succ i =>
      have hmem := ih (k := k + 1) hc
      rw [show k + 1 + i = k + (i + 1) by omega] at hmem
      split
      · exact List.mem_cons_of_mem _ hmem
      · exact hmem

include hc

theorem mem_filter_step {test : Node → Bool} (ht : test c = true) (duty : Duty) :
    (i, duty) ∈ Plan.filter test duty n := by
  have hmem : (0 + i, duty) ∈ Plan.filterFrom test duty 0 n.children := mem_filterFrom hc ht
  rwa [Nat.zero_add] at hmem

theorem mem_all_step (duty : Duty) : (i, duty) ∈ Plan.all duty n := by
  rw [Plan.all, allFrom_eq_filterFrom]
  exact mem_filter_step hc rfl duty

theorem mem_others_step {field : String} (hf : c.field ≠ some field) (duty : Duty) :
    (i, duty) ∈ Plan.others field duty n := by
  rw [Plan.others]
  split
  · next j hj =>
    refine List.mem_filter.2 ⟨mem_all_step hc duty, ?_⟩
    rw [bne_iff_ne]
    rintro rfl
    obtain ⟨hlt, hin, -⟩ := List.findIdx?_eq_some_iff_getElem.1 hj
    obtain rfl : n.children[i] = c := (List.getElem?_eq_some_iff.1 hc).2
    exact hf (beq_iff_eq.1 hin)
  · exact mem_all_step hc duty

variable (hs : Shaped n) {field : String} (hf : c.field = some field) (hne : field ≠ "decorator")
include hs hf hne

theorem fieldIndex?_eq : n.fieldIndex? field = some i := by
  obtain ⟨hi, rfl⟩ := List.getElem?_eq_some_iff.1 hc
  refine List.findIdx?_eq_some_iff_getElem.2 ⟨hi, beq_iff_eq.2 hf, fun j hji hj => ?_⟩
  -- an earlier child in the field would fill it twice
  have hj : n.children[j].field = some field := beq_iff_eq.1 hj
  have htwice := List.pairwise_iff_getElem.1 hs.fields j i (by omega) hi hji (hj.trans hf.symm)
  rw [hj] at htwice
  rcases htwice with h | h
  · cases h
  · exact hne (Option.some.inj h)

theorem mem_inField_step (duty : Duty) : (i, duty) ∈ Plan.inField field duty n := by
  rw [Plan.inField, fieldIndex?_eq hc hs hf hne]
  exact List.mem_singleton_self _

theorem mem_nameIn_step (hid : c.isIdentifier = true) (hoisted : Bool) :
    (i, .pattern hoisted) ∈ Plan.nameIn field hoisted n := by
  have hindex : n.children.findIdx? (Node.inField field) = some i := fieldIndex?_eq hc hs hf hne
  have hchild : n.child? field = some c := by
    rw [Node.child?, List.find?_eq_bind_findIdx?_getElem?, hindex]
    exact hc
  rw [Plan.nameIn, hchild]
  simp only
  rw [if_pos hid]
  exact mem_inField_step hc hs hf hne _

end

/-! ### Plans -/

/-- The duty suits the node: it loses no identifier on it. -/
def Apt : Duty → Node → Prop
  | .visit, _ | .pattern _, _ | .body, _ => True
  | .parameters, n => n.isIdentifier = false
  | .declarator _, n => n.kind = "variable_declarator"
  | .exportClause, _ | .exportSpecifier, _ | .imported, _ => False

/-- The plan has the child followed, under a duty that suits it. -/
def Plan.Covers (plan : Plan) (i : Nat) (c : Node) : Prop := ∃ duty, (i, duty) ∈ plan.steps ∧ Apt duty c

theorem covers_ite {p : Prop} [Decidable p] {a b : Plan} {i : Nat} {c : Node}
    (ha : p → a.Covers i c) (hb : ¬p → b.Covers i c) : (if p then a else b).Covers i c := by
  by_cases hp : p
  · rw [if_pos hp]
    exact ha hp
  · rw [if_neg hp]
    exact hb hp

/-- What a node does not have evaluated of its parts: all of an import, the clause and the source of an
export, and the decorators of a function. -/
def PassesOver (n c : Node) : Prop :=
  n.kind = "import_statement" ∨ c.kind = "export_clause" ∨
    (n.kind = "export_statement" ∧ c.field = some "source") ∨
    (n.isFunction = true ∧ c.field = some "decorator")

section

variable {n c : Node} {i : Nat} (hs : Shaped n) (hc : n.children[i]? = some c)
include hs hc

theorem function_covers (hfun : n.isFunction = true) (hdec : c.field ≠ some "decorator") :
    (Plan.function n).Covers i c := by
  have hmem := List.mem_of_getElem? hc
  obtain ⟨hkind, hparts, hname, hparams⟩ := hs.function hfun
  obtain ⟨field, hin, hf⟩ := hparts c hmem
  simp only [List.mem_cons, List.not_mem_nil, or_false] at hin
  simp only [Plan.Covers, Plan.function, Plan.steps, List.mem_append]
  rcases hin with rfl | rfl | rfl | rfl | rfl
  · obtain ⟨harrow, hid⟩ := hname c hmem hf
    by_cases hmethod : n.kind = "method_definition"
    · refine ⟨.visit, .inl (.inr ?_), trivial⟩
      rw [if_pos (by simp [hmethod])]
      exact mem_inField_step hc hs hf (by decide) _
    · have hstep := mem_nameIn_step hc hs hf (by decide) (hid hmethod) false
      -- of the kinds of functions, those that are left bind their names
      have hbinds : Plan.isFunctionDeclaration n.kind = true ∨
          Plan.isFunctionExpression n.kind = true := by
        simp only [Concrete.functionKinds, List.mem_cons, List.not_mem_nil, or_false] at hkind
        simp only [Plan.isFunctionDeclaration, Plan.isFunctionExpression, Bool.or_eq_true, beq_iff_eq]
        tauto
      refine ⟨.pattern false, ?_, trivial⟩
      rcases hbinds with h | h
      · rw [if_pos h]
        exact .inl (.inl hstep)
      · rw [if_pos h]
        exact .inr (.inl (.inl (.inl hstep)))
  · exact ⟨.pattern false, .inr (.inl (.inl (.inr (mem_inField_step hc hs hf (by decide) _)))), trivial⟩
  · exact ⟨.parameters, .inr (.inl (.inr (mem_inField_step hc hs hf (by decide) _))),
      hparams c hmem hf⟩
  · exact ⟨.body, .inr (.inr (mem_inField_step hc hs hf (by decide) _)), trivial⟩
  · exact absurd hf hdec

theorem classLike_covers (hkind : n.kind ∈ ["class_declaration", "class"]) :
    (Plan.classLike n).Covers i c := by
  have hsteps : (Plan.classLike n).steps =
      Plan.nameIn "name" false n ++ Plan.others "name" .visit n := by
    rw [Plan.classLike]
    split
    · rfl
    · split
      · next h => rw [h]; rfl
      · next h => rfl
  rw [Plan.Covers, hsteps]
  by_cases hf : c.field = some "name"
  · have hid := hs.className hkind c (List.mem_of_getElem? hc) hf
    exact ⟨.pattern false, List.mem_append_left _ (mem_nameIn_step hc hs hf (by decide) hid false),
      trivial⟩
  · exact ⟨.visit, List.mem_append_right _ (mem_others_step hc hf _), trivial⟩

theorem first_or_others (field : String) (hne : field ≠ "decorator") (duty : Duty)
    (hduty : Apt duty c) (kind : Kind) :
    (Plan.enclose [] kind (Plan.inField field duty n ++ Plan.others field .visit n)).Covers i c := by
  rw [Plan.Covers, Plan.steps, List.nil_append]
  by_cases hf : c.field = some field
  · exact ⟨duty, List.mem_append_left _ (mem_inField_step hc hs hf hne _), hduty⟩
  · exact ⟨.visit, List.mem_append_right _ (mem_others_step hc hf _), trivial⟩

theorem forIn_covers : (Plan.forIn n).Covers i c := by
  rw [Plan.forIn]
  refine first_or_others hs hc "left" (by decide) _ ?_ .loop
  split_ifs <;> trivial

theorem two_fields {f g : String} {d e : Duty} (hfills : FillsOnly [f, g] n) (hf : f ≠ "decorator")
    (hg : g ≠ "decorator") (hd : Apt d c) (he : Apt e c) :
    (Plan.follow (Plan.inField f d n ++ Plan.inField g e n)).Covers i c := by
  obtain ⟨field, hin, hfield⟩ := hfills c (List.mem_of_getElem? hc)
  simp only [List.mem_cons, List.not_mem_nil, or_false] at hin
  rcases hin with rfl | rfl
  · exact ⟨d, List.mem_append_left _ (mem_inField_step hc hs hfield hf _), hd⟩
  · exact ⟨e, List.mem_append_right _ (mem_inField_step hc hs hfield hg _), he⟩

omit hs in
theorem exported_covers (hclause : c.kind ≠ "export_clause") (hsource : c.field ≠ some "source") :
    (Plan.exported n).Covers i c := by
  refine ⟨.visit, List.mem_filterMap.2 ⟨(i, .visit), mem_all_step hc _, ?_⟩, trivial⟩
  have hin : c.inField "source" = false := by simpa [Node.inField] using hsource
  simp [Plan.exportStep, hc, hclause, hin]

omit hs in
theorem all_covers (duty : Duty) (hduty : Apt duty c) : (Plan.follow (Plan.all duty n)).Covers i c :=
  ⟨duty, mem_all_step hc duty, hduty⟩

omit hs in
theorem all_covers_enclosed (kind : Kind) :
    (Plan.enclose [] kind (Plan.all .visit n)).Covers i c :=
  ⟨.visit, mem_all_step hc .visit, trivial⟩

theorem variables_cover (hkind : n.kind ∈ ["variable_declaration", "lexical_declaration"])
    (hoisted : Bool) :
    (Plan.follow (Plan.filter (·.kind == "variable_declarator") (.declarator hoisted) n)).Covers i c := by
  have hdeclarator := hs.declarators hkind c (List.mem_of_getElem? hc)
  exact ⟨.declarator hoisted, mem_filter_step hc (by simp [hdeclarator]) _, hdeclarator⟩

variable (hid : n.isIdentifier = false) (hover : ¬PassesOver n c)
include hid hover

theorem visit_covers : (Plan.visit n).Covers i c := by
  simp only [PassesOver, not_or, not_and] at hover
  obtain ⟨himport, hclause, hsource, hdec⟩ := hover
  rw [Plan.visit, if_neg (by simp [hid])]
  refine covers_ite (fun hfun => function_covers hs hc hfun (hdec hfun)) fun _ => ?_
  refine covers_ite (fun hclass => classLike_covers hs hc (by simpa using hclass)) fun _ => ?_
  refine covers_ite (fun hvar => variables_cover hs hc (by simp [beq_iff_eq.1 hvar]) true) fun _ => ?_
  refine covers_ite (fun hlet => variables_cover hs hc (by simp [beq_iff_eq.1 hlet]) false) fun _ => ?_
  refine covers_ite (fun _ => all_covers_enclosed hc .block) fun _ => ?_
  refine covers_ite (fun _ => all_covers_enclosed hc .loop) fun _ => ?_
  refine covers_ite (fun _ => forIn_covers hs hc) fun _ => ?_
  refine covers_ite (fun _ => ?_) fun _ => ?_
  · exact first_or_others hs hc "parameter" (by decide) (.pattern false) trivial .handler
  refine covers_ite (fun himp => absurd (beq_iff_eq.1 himp) himport) fun _ => ?_
  refine covers_ite (fun hexp => exported_covers hc hclause (hsource (beq_iff_eq.1 hexp))) fun _ => ?_
  exact all_covers hc .visit trivial

theorem pattern_covers (hoisted : Bool) : (Plan.pattern hoisted n).Covers i c := by
  rw [Plan.pattern, if_neg (by simp [hid])]
  refine covers_ite (fun _ => all_covers hc (.pattern hoisted) trivial) fun _ => ?_
  refine covers_ite (fun hpair => ?_) fun _ => covers_ite (fun hassign => ?_) fun _ => ?_
  · exact two_fields hs hc (hs.pair (beq_iff_eq.1 hpair)) (by decide) (by decide) trivial trivial
  · exact two_fields hs hc (hs.assignment (by simpa using hassign)) (by decide) (by decide) trivial
      trivial
  · exact visit_covers hs hc hid hover

/-- Under a duty that suits the node, all of its children are followed but those it passes over. -/
theorem plan_covers {duty : Duty} (hapt : Apt duty n) : (Plan.of duty n).Covers i c := by
  cases duty with
  | visit => exact visit_covers hs hc hid hover
  | pattern hoisted => exact pattern_covers hs hc hid hover hoisted
  | parameters => exact all_covers hc (.pattern false) trivial
  | body =>
    exact covers_ite (fun _ => all_covers hc .visit trivial) fun _ => visit_covers hs hc hid hover
  | declarator hoisted =>
    exact two_fields hs hc (hs.declarator hapt) (by decide) (by decide) trivial trivial
  | exportClause | exportSpecifier | imported => exact hapt.elim

end

/-! ### Identifiers -/

theorem mem_leavesOf_of_step {s : Site} {steps : List Step} {i : Nat} {duty : Duty} {c : Node}
    (hstep : (i, duty) ∈ steps) (hc : s.node.children[i]? = some c) {leaf : Item}
    (h : leaf ∈ leavesOf (contribution c duty (i :: s.path))) : leaf ∈ leavesOf (follow s steps) := by
  rw [follow, followSteps, mem_leavesOf_flatMap]
  refine ⟨(i, duty), hstep, ?_⟩
  rw [getElem?_contributions, hc]
  exact h

theorem mem_leavesOf_of_mem_steps {s : Site} {plan : Plan} {i : Nat} {duty : Duty} {c : Node}
    (hstep : (i, duty) ∈ plan.steps) (hc : s.node.children[i]? = some c) {leaf : Item}
    (h : leaf ∈ leavesOf (contribution c duty (i :: s.path))) : leaf ∈ leavesOf (planned s plan) := by
  cases plan with
  | use | bind => cases hstep
  | follow outer => exact mem_leavesOf_of_step hstep hc h
  | enclose outer kind inner =>
    simp
    exact (List.mem_append.1 hstep).imp (mem_leavesOf_of_step · hc h) (mem_leavesOf_of_step · hc h)

theorem exists_mention {s : Site} (hs : Shaped s.node) {duty : Duty} (hapt : Apt duty s.node)
    {o : Occurrence} (ho : s.occurrence? = some o) :
    ∃ leaf ∈ leavesOf (contribution s.node duty s.path), leaf.Mentions o := by
  have hid := (Site.eq_of_occurrence? ho).1
  have hkind := (hs.identifier hid).1
  have huse : leavesOf (planned s .use) = [.use o] := by
    rw [planned, Plan.items, occurrenceItems_eq, ho]
    rfl
  have hvisit : Plan.visit s.node = .use := by rw [Plan.visit, if_pos hid]
  rw [contribution_eq_planned]
  cases duty with
  | visit =>
    rw [Plan.of, hvisit, huse]
    exact ⟨_, List.mem_singleton_self _, .inl rfl⟩
  | pattern hoisted =>
    rw [Plan.of, Plan.pattern, if_pos hid, planned, Plan.items, occurrenceItems_eq, ho]
    exact ⟨_, List.mem_singleton_self _, .inr ⟨hoisted, rfl⟩⟩
  | body =>
    have hblock : ¬(s.node.kind == "statement_block") = true := by
      intro h
      rw [beq_iff_eq.1 h] at hkind
      exact absurd hkind (by decide)
    rw [Plan.of, if_neg hblock, hvisit, huse]
    exact ⟨_, List.mem_singleton_self _, .inl rfl⟩
  | parameters =>
    rw [Apt, hid] at hapt
    cases hapt
  | declarator hoisted =>
    rw [Apt] at hapt
    rw [hapt] at hkind
    exact absurd hkind (by decide)
  | exportClause | exportSpecifier | imported => exact hapt.elim

/-- The identifier stands in no import and in no export clause, and in no decorator of a function. -/
structure Followed (l : Lineage) : Prop where
  kinds : ∀ a ∈ l.ancestors, a.node.kind ≠ "import_statement" ∧ a.node.kind ≠ "export_clause"
  decorators : ∀ a ∈ l.ancestors, a.node.isFunction = true → ∀ t ∈ a.children,
    t.node.field = some "decorator" → l.site ≠ t ∧ t ∉ l.ancestors

theorem Followed.of_paths {l : Lineage}
    (hkinds : ∀ a ∈ l.ancestors, a.node.kind ≠ "import_statement" ∧ a.node.kind ≠ "export_clause")
    (hdec : ∀ a ∈ l.ancestors, a.node.isFunction = true → ∀ t ∈ a.children,
      t.node.field = some "decorator" → t.path ∉ l.site.path :: l.ancestors.map Site.path) :
    Followed l := by
  refine ⟨hkinds, fun a ha hfun t ht hfield => ?_⟩
  have hout := hdec a ha hfun t ht hfield
  rw [List.mem_cons, not_or] at hout
  refine ⟨fun heq => hout.1 (congrArg Site.path heq).symm, fun hmem => ?_⟩
  exact hout.2 (List.mem_map_of_mem hmem)

theorem eq_or_mem_ancestors {n : Node} {ancestors : List Site} {path : Path} {l : Lineage}
    (h : l ∈ n.lineages ancestors path) : l.site = ⟨path, n⟩ ∨ ⟨path, n⟩ ∈ l.ancestors := by
  rw [Node.lineages_eq, List.mem_cons, List.mem_flatMap] at h
  rcases h with rfl | ⟨t, -, h⟩
  · exact .inl rfl
  · exact .inr (ancestors_subset h (by simp))

/-- On the way down to a followed identifier no child is passed over. -/
theorem Followed.not_passesOver {s t : Site} {ancestors : List Site} {l : Lineage} (h : Followed l)
    (hs : Shaped s.node) (ht : t ∈ s.children) (hts : t.node.Everywhere Shaped)
    (hl : l ∈ t.node.lineages (ancestors ++ [s]) t.path) (hid : l.site.node.isIdentifier = true) :
    ¬PassesOver s.node t.node := by
  have hmem : s ∈ l.ancestors := ancestors_subset hl (by simp)
  have hdown := eq_or_mem_ancestors hl
  rintro (himport | hclause | ⟨hexport, hsource⟩ | ⟨hfun, hdec⟩)
  · exact (h.kinds s hmem).1 himport
  · rcases hdown with heq | hup
    · have hkind := ((hts.site (Lineage.site_mem hl)).here.identifier hid).1
      rw [heq] at hkind
      change t.node.kind ∈ _ at hkind
      rw [hclause] at hkind
      exact absurd hkind (by decide)
    · exact (h.kinds _ hup).2 hclause
  · have hbare := hs.exportSource hexport _ (Site.node_mem_of_mem_children ht) hsource
    have := (hbare.site (Lineage.site_mem hl)).here
    rw [hid] at this
    cases this
  · obtain ⟨hne, hnot⟩ := h.decorators s hmem hfun t ht hdec
    exact hdown.elim hne hnot

/-- A subtree under a duty that suits it contributes all of its followed identifiers. -/
theorem exists_mention_below {n : Node} (hs : n.Everywhere Shaped) {duty : Duty} (hapt : Apt duty n)
    {ancestors : List Site} {path : Path} {l : Lineage} (hl : l ∈ n.lineages ancestors path)
    {o : Occurrence} (ho : l.site.occurrence? = some o) (h : Followed l) :
    ∃ leaf ∈ leavesOf (contribution n duty path), leaf.Mentions o := by
  induction n using Node.childInduction generalizing duty ancestors path with
  | step n ih =>
    rw [Node.lineages_eq, List.mem_cons, List.mem_flatMap] at hl
    rcases hl with rfl | ⟨t, ht, hl⟩
    · exact exists_mention (s := ⟨path, n⟩) hs.here hapt ho
    · have hmem := Site.node_mem_of_mem_children ht
      have hts := hs.child hmem
      obtain ⟨i, hc, hpath⟩ := Site.mem_children.1 ht
      -- an identifier has no children, so the node is none
      have hid : n.isIdentifier = false := by
        by_contra hn
        rw [Bool.not_eq_false] at hn
        rw [(hs.here.identifier hn).2] at hmem
        cases hmem
      have hover := h.not_passesOver (s := ⟨path, n⟩) hs.here ht hts hl (Site.eq_of_occurrence? ho).1
      obtain ⟨duty', hstep, hapt'⟩ := plan_covers hs.here hc hid hover hapt
      obtain ⟨leaf, hleaf, hm⟩ := ih _ hmem hts hapt' hl
      rw [hpath] at hleaf
      refine ⟨leaf, ?_, hm⟩
      rw [contribution_eq_planned ⟨path, n⟩]
      exact mem_leavesOf_of_mem_steps hstep hc hleaf

/-! ### The graph -/

/-- The graph has the identifier as a use or as a declaration. -/
def Graph.Records (g : Graph) (o : Occurrence) : Prop :=
  (∃ r ∈ g.references, r.use = o) ∨ o ∈ g.declarations

instance (g : Graph) (o : Occurrence) : Decidable (g.Records o) :=
  inferInstanceAs (Decidable ((∃ r ∈ g.references, r.use = o) ∨ o ∈ g.declarations))

def Record.Has (r : Record) : Item → Prop
  | .use o => ∃ scope, (o, scope) ∈ r.uses
  | .bind _ o => o ∈ r.declarations
  | .scope _ _ => False

theorem Record.Has.mono {r r' : Record} {leaf : Item} (h : r.Has leaf) (huses : r.uses ⊆ r'.uses)
    (hdecls : r.declarations ⊆ r'.declarations) : r'.Has leaf := by
  cases leaf with
  | use o =>
    obtain ⟨scope, h⟩ := h
    exact ⟨scope, huses h⟩
  | bind hoisted o => exact hdecls h
  | scope => exact h.elim

mutual

theorem Item.replay_has {scope : Nat} {r : Record} {leaf : Item} :
    (item : Item) → r.Has leaf ∨ leaf ∈ item.leaves → (item.replay scope r).Has leaf
  | .use o, h => by
    rcases h with h | h
    · exact h.mono (List.subset_cons_self _ _) (List.Subset.refl _)
    · rw [Item.leaves, List.mem_singleton] at h
      subst h
      exact ⟨scope, List.mem_cons_self⟩
  | .bind hoisted o, h => by
    rcases h with h | h
    · exact h.mono (List.Subset.refl _) (List.subset_cons_self _ _)
    · rw [Item.leaves, List.mem_singleton] at h
      subst h
      exact List.mem_cons_self
  | .scope kind items, h => by
    rw [Item.replay]
    refine replayItems_has items ?_
    rcases h with h | h
    · exact .inl (h.mono (List.Subset.refl _) (List.Subset.refl _))
    · exact .inr h

theorem replayItems_has {scope : Nat} {r : Record} {leaf : Item} :
    (items : List Item) → r.Has leaf ∨ leaf ∈ leavesOf items → (replayItems scope r items).Has leaf
  | [], h => by
    rcases h with h | h
    · exact h
    · cases h
  | item :: rest, h => by
    rw [replayItems]
    refine replayItems_has rest ?_
    rw [leavesOf, List.mem_append] at h
    rcases h with h | h | h
    · exact .inl (Item.replay_has item (.inl h))
    · exact .inl (Item.replay_has item (.inr h))
    · exact .inr h

end

theorem records_of_mention {program : Node} {leaf : Item} (h : leaf ∈ leavesOf (outline program))
    {o : Occurrence} (hm : leaf.Mentions o) : (analyze program).Records o := by
  have hhas : (record (outline program)).Has leaf := replayItems_has _ (.inr h)
  rcases hm with rfl | ⟨hoisted, rfl⟩
  · obtain ⟨scope, hmem⟩ := hhas
    left
    refine ⟨_, List.mem_map.2 ⟨(o, scope), ?_, rfl⟩, rfl⟩
    exact (sortBy_perm _ _).mem_iff.2 (List.mem_reverse.2 hmem)
  · exact .inr (List.mem_eraseDups.2 (List.mem_reverse.2 hhas))

/-- In a module of the grammar's shape every identifier is recorded, as a use or as a declaration,
unless it stands in an import, in an export clause or in a decorator of a function. -/
theorem analyze_records {program : Node} (hkind : program.kind = "program")
    (hs : program.Everywhere Shaped) :
    ∀ l ∈ program.lineages [] [], ∀ o, l.site.occurrence? = some o → Followed l →
      (analyze program).Records o := by
  intro l hl o ho h
  rw [Node.lineages_eq, List.mem_cons, List.mem_flatMap] at hl
  rcases hl with rfl | ⟨t, ht, hl⟩
  · have hroot := (hs.here.identifier (Site.eq_of_occurrence? ho).1).1
    rw [hkind] at hroot
    exact absurd hroot (by decide)
  · obtain ⟨i, hc, hpath⟩ := Site.mem_children.1 ht
    obtain ⟨leaf, hleaf, hm⟩ := exists_mention_below (hs.child (Site.node_mem_of_mem_children ht))
      (by trivial : Apt .visit t.node) hl ho h
    rw [hpath] at hleaf
    refine records_of_mention ?_ hm
    exact mem_leavesOf_of_step (s := Site.root program) (mem_all_step hc .visit) hc hleaf

/-- An identifier of one letter. -/
def letterAt (name : String) (start : Int) (field : Option String) : Node :=
  ⟨.identifier name, "identifier", start, start + 1, field, [], []⟩

/-- The module `@d class A{@e m(x){y}}`: a class with a decorator, and a method with one. -/
def decoratedClass : Node :=
  ⟨.block, "program", 0, 22, none, [],
    [⟨.other, "class_declaration", 0, 22, none, ["class"],
      [⟨.other, "decorator", 0, 2, some "decorator", [], [letterAt "d" 1 none]⟩,
        letterAt "A" 9 (some "name"),
        ⟨.block, "class_body", 10, 22, some "body", [],
          [⟨.function false, "method_definition", 11, 21, some "member", [],
            [⟨.other, "decorator", 11, 13, some "decorator", [], [letterAt "e" 12 none]⟩,
              ⟨.other, "property_identifier", 14, 15, some "name", [], []⟩,
              ⟨.other, "formal_parameters", 15, 18, some "parameters", [], [letterAt "x" 16 none]⟩,
              ⟨.block, "statement_block", 18, 21, some "body", [],
                [⟨.other, "expression_statement", 19, 20, none, [], [letterAt "y" 19 none]⟩]⟩]⟩]⟩]⟩]⟩

theorem decoratedClass_records :
    decoratedClass.kind = "program" ∧ decoratedClass.Everywhere Shaped ∧
      (analyze decoratedClass).Records ⟨[0, 0, 3, 0, 2, 0], "y", 19, 20⟩ := by
  have hs : decoratedClass.Everywhere Shaped := by decide +kernel
  obtain ⟨l, hl, ho, hkinds, hdec⟩ : ∃ l ∈ decoratedClass.lineages [] [],
      l.site.occurrence? = some ⟨[0, 0, 3, 0, 2, 0], "y", 19, 20⟩ ∧
      (∀ a ∈ l.ancestors, a.node.kind ≠ "import_statement" ∧ a.node.kind ≠ "export_clause") ∧
      ∀ a ∈ l.ancestors, a.node.isFunction = true → ∀ t ∈ a.children,
        t.node.field = some "decorator" → t.path ∉ l.site.path :: l.ancestors.map Site.path := by
    decide +kernel
  exact ⟨rfl, hs, analyze_records rfl hs l hl _ ho (.of_paths hkinds hdec)⟩

/-- The decorator of the class is a use, and that of the method is lost. -/
theorem method_decorator_lost :
    decoratedClass.kind = "program" ∧ decoratedClass.Everywhere Shaped ∧
      (analyze decoratedClass).Records ⟨[0, 0, 0], "d", 1, 2⟩ ∧
      ∃ l ∈ decoratedClass.lineages [] [], ∃ o, l.site.occurrence? = some o ∧
        (∀ a ∈ l.ancestors, a.node.kind ≠ "import_statement" ∧ a.node.kind ≠ "export_clause") ∧
        ¬(analyze decoratedClass).Records o := by
  refine ⟨rfl, by decide +kernel, by decide +kernel, ?_⟩
  have hlost : ∃ l ∈ decoratedClass.lineages [] [],
      l.site.occurrence? = some ⟨[0, 0, 0, 2, 0], "e", 12, 13⟩ ∧
      (∀ a ∈ l.ancestors, a.node.kind ≠ "import_statement" ∧ a.node.kind ≠ "export_clause") ∧
      ¬(analyze decoratedClass).Records ⟨[0, 0, 0, 2, 0], "e", 12, 13⟩ := by
    decide +kernel
  obtain ⟨l, hl, ho, hkinds, hnot⟩ := hlost
  exact ⟨l, hl, _, ho, hkinds, hnot⟩

end TierSplit.Scope

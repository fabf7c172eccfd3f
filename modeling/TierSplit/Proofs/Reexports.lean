import TierSplit.Proofs.Edits

/-! Statements that export from another module. The clause of such a statement is not followed, so the
names in it are neither used nor bound. The name of a namespace export is evaluated like any other part
of the statement, and so it counts as used. Such a statement binds nothing: put in or taken out, it
leaves all other references as they are. -/

namespace TierSplit.Scope

open Syntax

/-! ### Duties -/

/-- Some duties are given to certain children only. -/
def Duty.Suits : Duty → Node → Prop
  | .parameters, c => c.field = some "parameters"
  | .declarator _, c => c.kind = "variable_declarator"
  | .exportClause, c => c.kind = "export_clause"
  | _, _ => True

/-- All steps give duties that suit the children of the node. -/
def StepsSuit (n : Node) (steps : List Step) : Prop :=
  ∀ i d c, (i, d) ∈ steps → n.children[i]? = some c → d.Suits c

section

variable {n : Node} {a b : List Step}

theorem StepsSuit.append (ha : StepsSuit n a) (hb : StepsSuit n b) : StepsSuit n (a ++ b) := by
  intro i d c hstep hc
  rcases List.mem_append.1 hstep with hstep | hstep
  · exact ha i d c hstep hc
  · exact hb i d c hstep hc

theorem StepsSuit.mono (hb : StepsSuit n b) (hab : a ⊆ b) : StepsSuit n a :=
  fun i d c hstep hc => hb i d c (hab hstep) hc

theorem stepsSuit_nil : StepsSuit n [] := by
  intro i d c hstep
  cases hstep

theorem StepsSuit.ite {p : Prop} [Decidable p] (ha : StepsSuit n a) :
    StepsSuit n (if p then a else []) := by
  split
  · exact ha
  · exact stepsSuit_nil

theorem stepsSuit_ite {p : Prop} [Decidable p] {x y : Plan} (hx : StepsSuit n x.steps)
    (hy : StepsSuit n y.steps) : StepsSuit n (if p then x else y).steps := by
  split
  · exact hx
  · exact hy

end

section

variable (n : Node)

theorem filter_suits {test : Node → Bool} {duty : Duty} (h : ∀ c, test c = true → duty.Suits c) :
    StepsSuit n (Plan.filter test duty n) := by
  intro i d c hstep hc
  obtain ⟨rfl, j, c', hj, hc', ht⟩ := of_mem_filterFrom hstep
  rw [Nat.zero_add] at hj
  subst hj
  exact h c (Option.some.inj (hc.symm.trans hc') ▸ ht)

theorem all_suits (duty : Duty) (h : ∀ c, duty.Suits c) : StepsSuit n (Plan.all duty n) := by
  rw [Plan.all, allFrom_eq_filterFrom]
  exact filter_suits n fun c _ => h c

theorem others_suits (field : String) (duty : Duty) (h : ∀ c, duty.Suits c) :
    StepsSuit n (Plan.others field duty n) := by
  rw [Plan.others]
  split
  · exact (all_suits n duty h).mono (List.filter_subset_self _)
  · exact all_suits n duty h

theorem inField_suits (field : String) (duty : Duty)
    (h : ∀ c : Node, c.field = some field → duty.Suits c) :
    StepsSuit n (Plan.inField field duty n) := by
  intro i d c hstep hc
  rw [Plan.inField] at hstep
  split at hstep
  · next j hj =>
    obtain ⟨rfl, rfl⟩ := Prod.mk.inj (List.mem_singleton.1 hstep)
    obtain ⟨hlt, hfield, -⟩ := List.findIdx?_eq_some_iff_getElem.1 hj
    obtain rfl : n.children[i] = c := (List.getElem?_eq_some_iff.1 hc).2
    exact h _ (beq_iff_eq.1 hfield)
  · cases hstep

theorem nameIn_suits (field : String) (hoisted : Bool) : StepsSuit n (Plan.nameIn field hoisted n) := by
  intro i d c hstep _
  rw [(of_mem_nameIn hstep).1]
  trivial

theorem function_suits : StepsSuit n (Plan.function n).steps := by
  have hname : StepsSuit n (Plan.inField "name" .visit n) := inField_suits n "name" _ fun _ _ => trivial
  have hparameter : StepsSuit n (Plan.inField "parameter" (.pattern false) n) :=
    inField_suits n "parameter" _ fun _ _ => trivial
  have hparameters : StepsSuit n (Plan.inField "parameters" .parameters n) :=
    inField_suits n "parameters" _ fun _ hc => hc
  have hbody : StepsSuit n (Plan.inField "body" .body n) := inField_suits n "body" _ fun _ _ => trivial
  exact ((nameIn_suits n "name" false).ite.append hname.ite).append
    ((((nameIn_suits n "name" false).ite.append hparameter).append hparameters).append hbody)

theorem classLike_suits : StepsSuit n (Plan.classLike n).steps := by
  have hothers := others_suits n "name" .visit fun _ => trivial
  rw [Plan.classLike]
  refine stepsSuit_ite ((nameIn_suits n "name" false).append hothers) ?_
  split
  · exact hothers
  · exact (nameIn_suits n "name" false).append hothers

theorem forIn_suits : StepsSuit n (Plan.forIn n).steps := by
  refine (inField_suits n "left" _ fun c _ => ?_).append (others_suits n "left" .visit fun _ => trivial)
  split_ifs <;> trivial

theorem exported_suits : StepsSuit n (Plan.exported n).steps := by
  intro i d c hstep hc
  obtain ⟨⟨j, e⟩, hj, hst⟩ := List.mem_filterMap.1 hstep
  obtain rfl : i = j := exportStep_index hst
  rw [Plan.exportStep, hc] at hst
  simp only at hst
  split_ifs at hst with hkind <;> cases hst
  · exact beq_iff_eq.1 hkind
  · exact all_suits n .visit (fun _ => trivial) i d c hj hc

theorem visit_suits : StepsSuit n (Plan.visit n).steps := by
  have hall := all_suits n .visit fun _ => trivial
  have hdeclarators : ∀ hoisted, StepsSuit n
      (Plan.filter (·.kind == "variable_declarator") (.declarator hoisted) n) :=
    fun hoisted => filter_suits n fun c hc => beq_iff_eq.1 hc
  have hcatch : StepsSuit n (Plan.inField "parameter" (.pattern false) n ++
      Plan.others "parameter" .visit n) :=
    (inField_suits n "parameter" (.pattern false) fun _ _ => trivial).append
      (others_suits n "parameter" .visit fun _ => trivial)
  exact stepsSuit_ite stepsSuit_nil <| stepsSuit_ite (function_suits n) <|
    stepsSuit_ite (classLike_suits n) <| stepsSuit_ite (hdeclarators true) <|
    stepsSuit_ite (hdeclarators false) <| stepsSuit_ite hall <| stepsSuit_ite hall <|
    stepsSuit_ite (forIn_suits n) <| stepsSuit_ite hcatch <|
    stepsSuit_ite (all_suits n .imported fun _ => trivial) <| stepsSuit_ite (exported_suits n) hall

theorem pattern_suits (hoisted : Bool) : StepsSuit n (Plan.pattern hoisted n).steps := by
  have hfield : ∀ field d, (∀ c, Duty.Suits d c) → StepsSuit n (Plan.inField field d n) :=
    fun field d h => inField_suits n field d fun c _ => h c
  have hpair := (hfield "key" .visit fun _ => trivial).append
    (hfield "value" (.pattern hoisted) fun _ => trivial)
  have hassignment := (hfield "left" (.pattern hoisted) fun _ => trivial).append
    (hfield "right" .visit fun _ => trivial)
  exact stepsSuit_ite stepsSuit_nil <|
    stepsSuit_ite (all_suits n (.pattern hoisted) fun _ => trivial) <| stepsSuit_ite hpair <|
    stepsSuit_ite hassignment (visit_suits n)

theorem plan_suits (duty : Duty) : StepsSuit n (Plan.of duty n).steps := by
  cases duty with
  | visit => exact visit_suits n
  | pattern hoisted => exact pattern_suits n hoisted
  | parameters => exact all_suits n (.pattern false) fun _ => trivial
  | body => exact stepsSuit_ite (all_suits n .visit fun _ => trivial) (visit_suits n)
  | declarator hoisted =>
    exact (inField_suits n "name" (.pattern hoisted) fun _ _ => trivial).append
      (inField_suits n "value" .visit fun _ _ => trivial)
  | exportClause => exact all_suits n .exportSpecifier fun _ => trivial
  | exportSpecifier =>
    rw [Plan.of, Plan.exportSpecifier]
    split
    · exact stepsSuit_ite (inField_suits n "name" .visit fun _ _ => trivial) stepsSuit_nil
    · exact stepsSuit_nil
  | imported =>
    intro i d c hstep hc
    rcases imported_step hc hstep with rfl | ⟨rfl, -⟩ <;> trivial

end

theorem Reaches.suits {program : Node} {s : Site} {d : Duty} (h : Reaches program s d) :
    d.Suits s.node := by
  cases h with
  | top => trivial
  | step above child index step =>
    obtain ⟨i, hi, hpath⟩ := Site.mem_children.1 child
    rw [index, List.cons.injEq] at hpath
    exact plan_suits _ _ _ _ _ step (hpath.1 ▸ hi)

/-! ### Statements -/

/-- A namespace export holds the exported name, an identifier or a string. -/
structure NamespaceExport (n : Node) : Prop where
  kind : n.kind = "namespace_export"
  identifier : n.isIdentifier = false
  function : n.isFunction = false
  name : ∀ c ∈ n.children, c.isIdentifier = true ∨ c.Everywhere fun m => m.isIdentifier = false

def importKinds : List String := ["import_specifier", "import_clause", "namespace_import"]

/-- A statement that exports from another module: a source, and beside it only clauses and namespace
exports. -/
structure Reexport (n : Node) : Prop where
  kind : n.kind = "export_statement"
  identifier : n.isIdentifier = false
  function : n.isFunction = false
  field : n.field ≠ some "parameters"
  source : ∃ c ∈ n.children, c.field = some "source"
  parts : ∀ c ∈ n.children, c.field = some "source" ∨
    (c.field = none ∧ (c.kind = "export_clause" ∨ NamespaceExport c))
  imports : n.Everywhere fun m => m.kind ∉ importKinds

/-- A namespace is exported under an identifier, and not under a string. -/
def NamesNamespace (n : Node) : Prop :=
  ∃ c ∈ n.children, c.field = none ∧ c.kind = "namespace_export" ∧
    ∃ name ∈ c.children, name.isIdentifier = true

instance (n : Node) : Decidable (NamesNamespace n) :=
  inferInstanceAs (Decidable (∃ c ∈ n.children, c.field = none ∧ c.kind = "namespace_export" ∧
    ∃ name ∈ c.children, name.isIdentifier = true))

instance (n : Node) : Decidable (NamespaceExport n) :=
  decidable_of_iff (n.kind = "namespace_export" ∧ n.isIdentifier = false ∧ n.isFunction = false ∧
      ∀ c ∈ n.children, c.isIdentifier = true ∨ c.Everywhere fun m => m.isIdentifier = false)
    ⟨fun h => ⟨h.1, h.2.1, h.2.2.1, h.2.2.2⟩, fun h => ⟨h.1, h.2, h.3, h.4⟩⟩

instance (n : Node) : Decidable (Reexport n) :=
  decidable_of_iff (n.kind = "export_statement" ∧ n.isIdentifier = false ∧ n.isFunction = false ∧
      n.field ≠ some "parameters" ∧ (∃ c ∈ n.children, c.field = some "source") ∧
      (∀ c ∈ n.children, c.field = some "source" ∨
        (c.field = none ∧ (c.kind = "export_clause" ∨ NamespaceExport c))) ∧
      n.Everywhere fun m => m.kind ∉ importKinds)
    ⟨fun ⟨h1, h2, h3, h4, h5, h6, h7⟩ => ⟨h1, h2, h3, h4, h5, h6, h7⟩,
      fun h => ⟨h.1, h.2, h.3, h.4, h.5, h.6, h.7⟩⟩

theorem not_mem_leavesOf_of_everywhere {n : Node} (h : n.Everywhere fun m => m.isIdentifier = false)
    (duty : Duty) (path : Path) (leaf : Item) : leaf ∉ leavesOf (contribution n duty path) := by
  intro hleaf
  obtain ⟨l, hl, ⟨o, ho, -⟩, -⟩ := exists_lineage hleaf []
  have hplain := Node.everywhere_of_mem_sites h (Lineage.site_mem hl)
  rw [(Site.eq_of_occurrence? ho).1] at hplain
  cases hplain

/-- A node that names nothing of an import binds nothing there. -/
theorem not_mem_leavesOf_imported {n : Node} (h : n.Everywhere fun m => m.kind ∉ importKinds)
    (path : Path) (leaf : Item) : leaf ∉ leavesOf (contribution n .imported path) := by
  intro hleaf
  rw [contribution_eq_obliged n .imported path, obliged, mem_leavesOf_flatMap] at hleaf
  obtain ⟨s, hs, hleaf⟩ := hleaf
  have hkind := Node.everywhere_of_mem_sites h hs
  simp only [importKinds, List.mem_cons, List.not_mem_nil, or_false, not_or] at hkind
  rw [importBindings, if_neg hkind.1, if_neg (by simp [hkind.2])] at hleaf
  cases hleaf

theorem of_mem_leavesOf_steps {n : Node} (hn : n.isIdentifier = false) {duty : Duty} {path : Path}
    {leaf : Item} (h : leaf ∈ leavesOf (contribution n duty path)) :
    ∃ i d c, (i, d) ∈ (Plan.of duty n).steps ∧ n.children[i]? = some c ∧
      leaf ∈ leavesOf (contribution c d (i :: path)) := by
  refine (of_mem_leavesOf_contribution (s := ⟨path, n⟩) h).resolve_left ?_
  rintro ⟨o, ho, -⟩
  have hid : n.isIdentifier = true := (Site.eq_of_occurrence? ho).1
  rw [hn] at hid
  cases hid

theorem NamespaceExport.visit_eq {n : Node} (h : NamespaceExport n) :
    Plan.visit n = .follow (Plan.all .visit n) := by
  simp [Plan.visit, h.identifier, h.function, h.kind]

theorem NamespaceExport.leaf_use {n : Node} (h : NamespaceExport n) {path : Path} {leaf : Item}
    (hleaf : leaf ∈ leavesOf (contribution n .visit path)) :
    (∃ o, leaf = .use o) ∧ ∃ name ∈ n.children, name.isIdentifier = true := by
  obtain ⟨i, d, c, hstep, hc, hi⟩ := of_mem_leavesOf_steps h.identifier hleaf
  rw [Plan.of, h.visit_eq, Plan.steps, Plan.all, allFrom_eq_filterFrom] at hstep
  obtain ⟨rfl, -⟩ := of_mem_filterFrom hstep
  have hmem := List.mem_of_getElem? hc
  rcases h.name c hmem with hid | hnone
  · exact ⟨eq_use_of_visit hid hi, c, hmem, hid⟩
  · exact absurd hi (not_mem_leavesOf_of_everywhere hnone _ _ _)

namespace Reexport

variable {n : Node} (h : Reexport n)
include h

theorem visit_eq : Plan.visit n = Plan.exported n := by
  simp [Plan.visit, h.identifier, h.function, h.kind]

/-- All that is followed of the statement is its namespace exports. -/
theorem exported_step {i : Nat} {d : Duty} {c : Node} (hstep : (i, d) ∈ (Plan.exported n).steps)
    (hc : n.children[i]? = some c) : d = .visit ∧ c.field = none ∧ NamespaceExport c := by
  have hsource : (n.fieldIndex? "source").isSome = true := by
    obtain ⟨c, hc, hfield⟩ := h.source
    rw [Node.fieldIndex?, List.findIdx?_isSome, List.any_eq_true]
    exact ⟨c, hc, beq_iff_eq.2 hfield⟩
  obtain ⟨⟨j, e⟩, hj, hst⟩ := List.mem_filterMap.1 hstep
  obtain rfl : i = j := exportStep_index hst
  rw [Plan.exportStep, hc, hsource] at hst
  simp only [beq_iff_eq] at hst
  split_ifs at hst with hclause hsource
  cases hst
  rw [Plan.all, allFrom_eq_filterFrom] at hj
  refine ⟨(of_mem_filterFrom hj).1, ?_⟩
  rcases h.parts c (List.mem_of_getElem? hc) with hfield | ⟨hfield, hkind | hname⟩
  · exact absurd (beq_iff_eq.2 hfield) hsource
  · exact absurd hkind hclause
  · exact ⟨hfield, hname⟩

theorem exportSpecifier_eq : Plan.exportSpecifier n = .follow [] := by
  have hname : n.child? "name" = none := by
    rw [Node.child?, List.find?_eq_none]
    intro c hc hname
    have hname : c.field = some "name" := beq_iff_eq.1 hname
    rcases h.parts c hc with hfield | ⟨hfield, -⟩
    · rw [hfield] at hname
      exact absurd (Option.some.inj hname) (by decide)
    · rw [hfield] at hname
      cases hname
  rw [Plan.exportSpecifier, hname]

/-- The plan of the statement is that of an export, or it is empty, or it goes on with an import. -/
theorem plan_eq {d : Duty} (hd : d.Suits n) :
    Plan.of d n = Plan.exported n ∨ Plan.of d n = .follow [] ∨ d = .imported := by
  have hkind := h.kind
  cases d with
  | visit => exact .inl h.visit_eq
  | pattern hoisted =>
    left
    simp [Plan.of, Plan.pattern, h.identifier, hkind, h.visit_eq]
  | body =>
    left
    simp [Plan.of, hkind, h.visit_eq]
  | parameters => exact absurd hd h.field
  | declarator hoisted =>
    rw [Duty.Suits, hkind] at hd
    exact absurd hd (by decide)
  | exportClause =>
    rw [Duty.Suits, hkind] at hd
    exact absurd hd (by decide)
  | exportSpecifier => exact .inr (.inl h.exportSpecifier_eq)
  | imported => exact .inr (.inr rfl)

theorem leaf_use {d : Duty} (hd : d.Suits n) {path : Path} {leaf : Item}
    (hleaf : leaf ∈ leavesOf (contribution n d path)) : NamesNamespace n ∧
      ∃ o i c, leaf = .use o ∧ n.children[i]? = some c ∧ c.kind = "namespace_export" ∧
        i :: path <:+ o.path := by
  rcases h.plan_eq hd with hplan | hplan | rfl
  · obtain ⟨i, e, c, hstep, hc, hi⟩ := of_mem_leavesOf_steps h.identifier hleaf
    rw [hplan] at hstep
    obtain ⟨rfl, hfield, hexport⟩ := h.exported_step hstep hc
    obtain ⟨⟨o, rfl⟩, hname⟩ := hexport.leaf_use hi
    exact ⟨⟨c, List.mem_of_getElem? hc, hfield, hexport.kind, hname⟩,
      o, i, c, rfl, hc, hexport.kind, suffix_of_mentions hi (.inl rfl)⟩
  · rw [contribution_eq_planned ⟨path, n⟩, hplan] at hleaf
    cases hleaf
  · exact absurd hleaf (not_mem_leavesOf_imported h.imports path leaf)

end Reexport

/-! ### Uses in a statement -/

section

variable {program : Node} {s : Site} (he : Reexport s.node)
include he

theorem Reexport.use_names (hs : s ∈ program.sites []) (hne : s.path ≠ []) {r : Reference}
    (hr : r ∈ (analyze program).references) (hbelow : s.path <:+ r.use.path) :
    NamesNamespace s.node ∧
      ∃ t ∈ s.children, t.node.kind = "namespace_export" ∧ t.path <:+ r.use.path := by
  have hleaf := (of_mem_referencesOf _ ((references_perm program).mem_iff.1 hr)).1
  obtain ⟨d, hreach, hmem⟩ := exists_reaches hleaf (.inl rfl) hs hne hbelow
  obtain ⟨hnames, o, i, c, ho, hc, hkind, hpath⟩ := he.leaf_use hreach.suits hmem
  cases ho
  exact ⟨hnames, ⟨i :: s.path, c⟩, Site.mem_children.2 ⟨i, hc, rfl⟩, hkind, hpath⟩

theorem Reexport.exists_use (heval : Evaluates program s) (hnames : NamesNamespace s.node) :
    ∃ r ∈ (analyze program).references, s.path <:+ r.use.path := by
  obtain ⟨duty, hreach, hplan⟩ := heval
  obtain ⟨c, hc, hfield, hkind, name, hname, hid⟩ := hnames
  obtain ⟨i, hi⟩ := List.getElem?_of_mem hc
  obtain ⟨j, hj⟩ := List.getElem?_of_mem hname
  -- the walk comes to the export, and from there to its name
  have hclause : c.kind ≠ "export_clause" := by
    rw [hkind]
    decide
  have hsource : c.field ≠ some "source" := by
    rw [hfield]
    exact nofun
  obtain ⟨d, hstep, -⟩ := exported_covers hi hclause hsource
  obtain ⟨rfl, -, hexport⟩ := he.exported_step hstep hi
  have hthere : Reaches program ⟨i :: s.path, c⟩ .visit := by
    refine .step hreach (Site.mem_children.2 ⟨i, hi, rfl⟩) rfl ?_
    rwa [hplan, he.visit_eq]
  have hat : Reaches program ⟨j :: i :: s.path, name⟩ .visit := by
    refine .step hthere (Site.mem_children.2 ⟨j, hj, rfl⟩) rfl ?_
    rw [Plan.of, hexport.visit_eq]
    exact mem_all_step hj .visit
  -- there it is used
  obtain ⟨tables, htables⟩ := hat.exists_tables
  obtain ⟨o, ho⟩ := Site.exists_occurrence? (t := ⟨j :: i :: s.path, name⟩) hid
  refine ⟨⟨o, read tables o.name⟩, ?_, ?_⟩
  · rw [(references_perm program).mem_iff]
    refine htables ?_
    rw [contribution_eq_obliged, obliged, evaluated_of_isIdentifier hid, ho]
    exact List.mem_singleton_self _
  · rw [(Site.eq_of_occurrence? ho).2.1]
    exact (List.suffix_cons i s.path).trans (List.suffix_cons j _)

end

/-! ### Insertion -/

theorem exists_bare_of_mem {cs cs' : List Node} (h : cs.map Node.bare = cs'.map Node.bare) {c' : Node}
    (hc' : c' ∈ cs') : ∃ c ∈ cs, c.bare = c'.bare := by
  have hmem : c'.bare ∈ cs.map Node.bare := h ▸ List.mem_map_of_mem hc'
  exact List.mem_map.1 hmem

theorem everywhere_of_bare {P : Node → Prop} (hP : ∀ m m' : Node, m.SameHead m' → P m → P m')
    {n n' : Node} (h : n.bare = n'.bare) (hn : n.Everywhere P) : n'.Everywhere P := by
  induction n using Node.childInduction generalizing n' with
  | step n ih =>
    obtain ⟨head, hchildren⟩ := Node.bare_eq_bare.1 h
    refine .intro (hP n n' head hn.here) fun c' hc' => ?_
    obtain ⟨c, hc, hbare⟩ := exists_bare_of_mem hchildren hc'
    exact ih c hc hbare (hn.child hc)

theorem NamespaceExport.of_bare {n n' : Node} (h : NamespaceExport n) (hbare : n.bare = n'.bare) :
    NamespaceExport n' := by
  obtain ⟨head, hchildren⟩ := Node.bare_eq_bare.1 hbare
  refine ⟨head.kind.trans h.kind, head.isIdentifier.trans h.identifier,
    head.isFunction.trans h.function, fun c' hc' => ?_⟩
  obtain ⟨c, hc, hbare⟩ := exists_bare_of_mem hchildren hc'
  have hhead := (Node.bare_eq_bare.1 hbare).1
  rcases h.name c hc with hid | hnone
  · exact .inl (hhead.isIdentifier.trans hid)
  · exact .inr (everywhere_of_bare (fun m m' hm => hm.isIdentifier.trans) hbare hnone)

theorem Reexport.of_bare {n n' : Node} (h : Reexport n) (hbare : n.bare = n'.bare) : Reexport n' := by
  obtain ⟨head, hchildren⟩ := Node.bare_eq_bare.1 hbare
  refine ⟨head.kind.trans h.kind, head.isIdentifier.trans h.identifier,
    head.isFunction.trans h.function, head.field ▸ h.field, ?_, fun c' hc' => ?_, ?_⟩
  · obtain ⟨c, hc, hfield⟩ := h.source
    obtain ⟨c', hc', hbare⟩ := exists_bare_of_mem hchildren.symm hc
    exact ⟨c', hc', (Node.bare_eq_bare.1 hbare).1.field.symm.trans hfield⟩
  · obtain ⟨c, hc, hbare⟩ := exists_bare_of_mem hchildren hc'
    have hhead := (Node.bare_eq_bare.1 hbare).1
    rw [hhead.field, hhead.kind]
    exact (h.parts c hc).imp_right (And.imp_right (Or.imp_right (·.of_bare hbare)))
  · exact everywhere_of_bare (fun m m' hm hkind => hm.kind ▸ hkind) hbare h.imports

theorem Reexport.stray {n : Node} (h : Reexport n) (hfield : n.field = none) : Stray n := by
  refine ⟨hfield, ?_, ?_⟩ <;> rw [h.kind] <;> decide

def insertChild (k : Nat) (e n : Node) : Node := { n with children := n.children.insertIdx k e }

/-- Where the children go when one more is put in at the index. -/
def makeRoom (k j : Nat) : Nat := if j < k then j else j + 1

theorem makeRoom_ne (k j : Nat) : makeRoom k j ≠ k := by
  rw [makeRoom]
  split <;> omega

theorem makeRoom_injective (k : Nat) : Function.Injective (makeRoom k) := by
  intro i j h
  simp only [makeRoom] at h
  split at h <;> split at h <;> omega

theorem aligned_insert {k m : Nat} {e : Node} (he : ∀ e' : Node, e'.bare = e.bare → Stray e')
    {i : Nat} (hm : m = i + k) {cs cs' : List Node} (hk : k ≤ cs.length)
    (h : cs'.map Node.bare = (cs.insertIdx k e).map Node.bare) :
    Aligned (makeRoom m) (· = m) i i cs cs' := by
  induction k generalizing i cs cs' with
  | zero =>
    rw [List.insertIdx_zero, List.map_cons] at h
    obtain ⟨e', rest, rfl, hbare, hrest⟩ := List.map_eq_cons_iff.1 h
    refine .stray (he e' hbare) hm.symm (.of_sameHead (sameHead_of_map_bare hrest.symm) fun j => ?_)
    rw [makeRoom, if_neg (by omega)]
    omega
  | succ k ih =>
    cases cs with
    | nil => exact absurd hk (Nat.not_succ_le_zero k)
    | cons c cs =>
      rw [List.insertIdx_succ_cons, List.map_cons] at h
      obtain ⟨c', rest, rfl, hbare, hrest⟩ := List.map_eq_cons_iff.1 h
      refine .both (Node.bare_eq_bare.1 hbare.symm).1 ?_
        (ih (by omega) (Nat.le_of_succ_le_succ hk) hrest)
      rw [makeRoom, if_pos (by omega)]

section

variable {n n' e : Node} {k : Nat} (hk : k ≤ n.children.length)
  (h : n'.bare = (insertChild k e n).bare)
include h

theorem getElem?_makeRoom (j : Nat) :
    n.children[j]?.map Node.bare = n'.children[makeRoom k j]?.map Node.bare := by
  rw [getElem?_bare (Node.bare_eq_bare.1 h).2, insertChild, List.getElem?_insertIdx, makeRoom]
  split_ifs <;> first | rfl | omega

include hk

theorem getElem?_inserted : ∃ e', n'.children[k]? = some e' ∧ e'.bare = e.bare := by
  have hmap := getElem?_bare (Node.bare_eq_bare.1 h).2 k
  rw [insertChild, List.getElem?_insertIdx, if_neg (Nat.lt_irrefl k), if_pos rfl, if_pos hk,
    Option.map_some, Option.map_eq_some_iff] at hmap
  exact hmap

theorem insert_counterpart (he : ∀ e' : Node, e'.bare = e.bare → Stray e') :
    Counterpart (makeRoom k) (· = k) n n' where
  head := (show n.SameHead (insertChild k e n) from ⟨rfl, rfl, rfl, rfl⟩).trans
    (Node.bare_eq_bare.1 h.symm).1
  children := aligned_insert he (Nat.zero_add k).symm hk (Node.bare_eq_bare.1 h).2
  injective := makeRoom_injective k
  strays := by
    rintro _ rfl e' he'
    obtain ⟨e'', hk', hbare⟩ := getElem?_inserted hk h
    rw [Option.some.inj (he'.symm.trans hk')]
    exact he e'' hbare

end

/-- The move that puts in a child at the index, the new child itself being hidden. -/
def inserting (k : Nat) (q : Path) : Relocation where
  moved := redirect (makeRoom k) q
  hidden := fun _ => false
  hidden' := fun x => decide (k :: q <:+ x)

theorem inserting_takes_child (k j : Nat) (q y : Path) :
    (inserting k q).Takes (y ++ j :: q) (y ++ makeRoom k j :: q) where
  moves := (redirect_append (makeRoom k) q y j).symm
  plain := rfl
  plain' := decide_eq_false (not_suffix_of_ne (makeRoom_ne k j) y)

theorem inserting_takes_self {k : Nat} {q x : Path} (h : ∀ i, ¬i :: q <:+ x) :
    (inserting k q).Takes x x where
  moves := (redirect_of_not_suffix (makeRoom k) h).symm
  plain := rfl
  plain' := decide_eq_false (h k)

section

variable {s : Site} {n' e : Node} {k : Nat} (hk : k ≤ s.node.children.length)
  (h : n'.bare = (insertChild k e s.node).bare)
include h

theorem insert_keeps (st : Step) :
    (inserting k s.path).Mirrors (follow s [st]) (follow ⟨s.path, n'⟩ [(makeRoom k st.1, st.2)]) := by
  refine follow_mirrors_of_bare s ⟨s.path, n'⟩ (getElem?_makeRoom h st.1) st.2 fun c c' _ hbare => ?_
  exact mirrors_of_bare hbare (fun y => inserting_takes_child k st.1 s.path y) st.2

include hk

theorem insert_extra (he : Reexport e) {d : Duty} (hd : d.Casual) :
    (inserting k s.path).Mirrors [] (follow ⟨s.path, n'⟩ [(k, d)]) := by
  obtain ⟨e', hc, hbare⟩ := getElem?_inserted hk h
  rw [follow_step (s := ⟨s.path, n'⟩) hc]
  have hsuits : d.Suits e' := by
    cases d <;> trivial
  refine .of_onlyUses fun item hitem leaf hleaf => ?_
  have hleaf : leaf ∈ leavesOf (contribution e' d (k :: s.path)) := by
    rw [leavesOf_eq]
    exact List.mem_flatMap_of_mem hitem hleaf
  obtain ⟨-, o, -, -, rfl, -⟩ := (he.of_bare hbare.symm).leaf_use hsuits hleaf
  exact ⟨o, rfl, decide_eq_true (suffix_of_mentions hleaf (.inl rfl))⟩

end

theorem insert_mirrors {program program' e : Node} {s : Site} {k : Nat} (hs : s ∈ program.sites [])
    (hk : k ≤ s.node.children.length) (he : Reexport e) (hfield : e.field = none)
    (h : program'.bare = (program.edit (insertChild k e) s.path).bare) :
    (inserting k s.path).Mirrors (outline program) (outline program') := by
  have hstray : ∀ e' : Node, e'.bare = e.bare → Stray e' := by
    intro e' hbare
    refine (he.of_bare hbare.symm).stray ?_
    rw [(Node.bare_eq_bare.1 hbare.symm).1.field, hfield]
  by_cases hroot : s.path = []
  · obtain rfl := eq_root_of_path_eq_nil hs hroot
    refine ((insert_counterpart hk h hstray).all .visit trivial).mirrors (s := Site.root program)
      (fun st _ => insert_keeps h st) ?_
    rintro _ d rfl hd
    exact insert_extra hk h he hd
  · refine outline_mirrors_of_edit hs hroot ⟨rfl, rfl, rfl, rfl⟩ (fun x hx => ?_)
      (fun duty _ n' hn' => ?_) h
    · exact inserting_takes_self fun i hi => hx ((List.suffix_cons i s.path).trans hi)
    · have hown : (inserting k s.path).Takes s.path s.path :=
        inserting_takes_self fun i => not_cons_suffix i s.path
      refine (insert_counterpart hk hn' hstray).mirrors hown duty (fun st _ => insert_keeps hn' st) ?_
      rintro _ d rfl hd
      exact insert_extra hk hn' he hd

/-- In a statement that exports from another module only the names of namespaces are used, and where it
is evaluated, they are; putting it in leaves the references of the rest of the program as they are. -/
theorem reexport_reads_only_namespaces {program : Node} {s : Site} (hs : s ∈ program.sites []) :
    (program.kind = "program" → Reexport s.node →
      (∀ r ∈ (analyze program).references, s.path <:+ r.use.path →
        ∃ t ∈ s.children, t.node.kind = "namespace_export" ∧ t.path <:+ r.use.path) ∧
      (Evaluates program s →
        ((∃ r ∈ (analyze program).references, s.path <:+ r.use.path) ↔ NamesNamespace s.node))) ∧
    ∀ (program' e : Node) (k : Nat), k ≤ s.node.children.length → Reexport e → e.field = none →
      program'.bare = (program.edit (insertChild k e) s.path).bare →
      (((analyze program').references.filter fun r => ¬k :: s.path <:+ r.use.path).map
          (Reference.ends id)).Perm
        ((analyze program).references.map (Reference.ends (redirect (makeRoom k) s.path))) := by
  constructor
  · intro hroot he
    have hne : s.path ≠ [] := by
      intro hpath
      have hkind := he.kind
      rw [eq_root_of_path_eq_nil hs hpath, Site.root, hroot] at hkind
      exact absurd hkind (by decide)
    refine ⟨fun r hr hbelow => (he.use_names hs hne hr hbelow).2, fun heval => ⟨?_, ?_⟩⟩
    · rintro ⟨r, hr, hbelow⟩
      exact (he.use_names hs hne hr hbelow).1
    · exact he.exists_use heval
  · intro program' e k hk he hfield h
    have hperm := (insert_mirrors hs hk he hfield h).ends_perm
    simpa [inserting] using hperm

def letStatement : Node :=
  ⟨.other, "lexical_declaration", 0, 5, none, ["let"],
    [⟨.other, "variable_declarator", 4, 5, none, [], [letterAt "a" 4 (some "name")]⟩]⟩

def useStatement (start : Int) : Node :=
  ⟨.other, "expression_statement", start, start + 1, none, [], [letterAt "a" start none]⟩

def sourceAt (start : Int) : Node :=
  ⟨.other, "string", start, start + 3, some "source", [],
    [⟨.other, "string_fragment", start + 1, start + 2, none, [], []⟩]⟩

/-- The statement `export{a}from"m"`. -/
def clauseStatement (start : Int) : Node :=
  ⟨.other, "export_statement", start, start + 16, none, ["export", "from"],
    [⟨.other, "export_clause", start + 6, start + 9, none, [],
      [⟨.other, "export_specifier", start + 7, start + 8, none, [],
        [letterAt "a" (start + 7) (some "name")]⟩]⟩,
      sourceAt (start + 13)]⟩

/-- The statement `export*as a from"m"`. -/
def namespaceStatement (start : Int) : Node :=
  ⟨.other, "export_statement", start, start + 19, none, ["export", "from"],
    [⟨.other, "namespace_export", start + 6, start + 11, none, ["as"],
      [letterAt "a" (start + 10) none]⟩,
      sourceAt (start + 16)]⟩

def programOf (stop : Int) (statements : List Node) : Node :=
  ⟨.block, "program", 0, stop, none, [], statements⟩

/-- The module with a clause between the declaration of a name and its use. -/
theorem clauseStatement_reads_nothing :
    let program := programOf 7 [letStatement, useStatement 6]
    let program' := programOf 24 [letStatement, clauseStatement 6, useStatement 23]
    (program'.kind = "program" ∧ ⟨[1], clauseStatement 6⟩ ∈ program'.sites [] ∧
      Reexport (clauseStatement 6) ∧ Evaluates program' ⟨[1], clauseStatement 6⟩ ∧
      ∀ r ∈ (analyze program').references, ¬[1] <:+ r.use.path) ∧
    (Site.root program ∈ program.sites [] ∧ Reexport (clauseStatement 0) ∧
      (clauseStatement 0).field = none ∧
      program'.bare = (program.edit (insertChild 1 (clauseStatement 0)) []).bare ∧
      (((analyze program').references.filter fun r => ¬[1] <:+ r.use.path).map
          (Reference.ends id)).Perm
        ((analyze program).references.map (Reference.ends (redirect (makeRoom 1) [])))) := by
  intro program program'
  have hsite : ⟨[1], clauseStatement 6⟩ ∈ program'.sites [] :=
    Site.mem_sites_of_mem_children (Site.self_mem_sites _ _) (.tail _ (.head _))
  have heval : Evaluates program' ⟨[1], clauseStatement 6⟩ := ⟨.visit, .top (.tail _ (.head _)), rfl⟩
  have hstatement : Reexport (clauseStatement 6) := by decide
  have hadded : Reexport (clauseStatement 0) := by decide
  have hroot : Site.root program ∈ program.sites [] := Site.self_mem_sites _ _
  refine ⟨⟨rfl, hsite, hstatement, heval, fun r hr hbelow => ?_⟩, hroot, hadded, rfl, rfl, ?_⟩
  · have hnames := (((reexport_reads_only_namespaces hsite).1 rfl hstatement).2 heval).1 ⟨r, hr, hbelow⟩
    exact absurd hnames (by decide)
  · exact (reexport_reads_only_namespaces hroot).2 _ _ 1 (by decide) hadded rfl rfl

/-- The name of a namespace export is used, and reads a declaration of the module. -/
theorem namespaceStatement_reads_declaration :
    (programOf 25 [letStatement, namespaceStatement 6]).kind = "program" ∧
      ∃ s ∈ (programOf 25 [letStatement, namespaceStatement 6]).sites [], Reexport s.node ∧
        ∃ r ∈ (analyze (programOf 25 [letStatement, namespaceStatement 6])).references,
          s.path <:+ r.use.path ∧ r.declaration = some ⟨[0, 0, 0], "a", 4, 5⟩ := by
  decide +kernel

end TierSplit.Scope

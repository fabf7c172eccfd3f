import TierSplit.Proofs.Reach

/-! Every identifier has at most one role. The walk records a node at most once, as a use or as a
declaration. So the references are the recorded uses in the order of the text, one for each, and no use
reads itself. -/

namespace TierSplit.Scope

open Syntax

/-- The identifiers recorded as uses, in visiting order. -/
def recordedUses (program : Node) : List Occurrence :=
  (record (outline program)).uses.reverse.map Prod.fst

/-- The identifiers recorded as declarations, in visiting order. -/
def recordedDeclarations (program : Node) : List Occurrence :=
  (record (outline program)).declarations.reverse

/-- The place of an identifier in the text: where it starts, then where it ends. -/
def place (o : Occurrence) : Int ×ₗ Int := toLex (o.start, o.stop)

/-! ### What is recorded -/

mutual

theorem Item.replay_records (scope : Nat) (r : Record) : (item : Item) →
    (item.replay scope r).uses.reverse.map Prod.fst =
        r.uses.reverse.map Prod.fst ++ item.leaves.filterMap Item.use? ∧
      (item.replay scope r).declarations.reverse =
        r.declarations.reverse ++ item.leaves.filterMap Item.bound?
  | .use o => by simp [Item.replay, Record.use, Item.leaves, Item.use?, Item.bound?]
  | .bind hoisted o => by simp [Item.replay, Record.bind, Item.leaves, Item.use?, Item.bound?]
  | .scope kind items => replayItems_records _ _ items

theorem replayItems_records (scope : Nat) (r : Record) : (items : List Item) →
    (replayItems scope r items).uses.reverse.map Prod.fst =
        r.uses.reverse.map Prod.fst ++ usesIn items ∧
      (replayItems scope r items).declarations.reverse = r.declarations.reverse ++ bindsIn items
  | [] => by simp [replayItems, usesIn, bindsIn, leavesOf]
  | item :: rest => by
    obtain ⟨huses, hbinds⟩ := item.replay_records scope r
    obtain ⟨huses', hbinds'⟩ := replayItems_records scope (item.replay scope r) rest
    rw [replayItems, huses', hbinds', huses, hbinds]
    simp [usesIn, bindsIn, leavesOf]

end

theorem recordedUses_eq (program : Node) : recordedUses program = usesIn (outline program) :=
  (replayItems_records 0 ⟨(Store.empty.create .module none).2, [], []⟩ (outline program)).1

theorem recordedDeclarations_eq (program : Node) :
    recordedDeclarations program = bindsIn (outline program) :=
  (replayItems_records 0 ⟨(Store.empty.create .module none).2, [], []⟩ (outline program)).2

theorem recorded_perm (program : Node) :
    (recordedUses program ++ recordedDeclarations program).Perm (mentionsIn (outline program)) := by
  rw [recordedUses_eq, recordedDeclarations_eq]
  exact uses_binds_perm _

theorem recorded_distinct (program : Node) :
    ((recordedUses program ++ recordedDeclarations program).map Occurrence.path).Nodup :=
  ((recorded_perm program).map _).nodup_iff.2 (mentionsIn_outline_distinct program)

theorem exists_site_of_recorded {program : Node} {o : Occurrence}
    (h : o ∈ recordedUses program ++ recordedDeclarations program) :
    ∃ s ∈ program.sites [], s.occurrence? = some o := by
  rw [(recorded_perm program).mem_iff, mem_mentionsIn] at h
  obtain ⟨leaf, hleaf, ho⟩ := h
  rw [outline] at hleaf
  obtain ⟨t, ht, d, hd⟩ := mem_leavesOf_followSteps (s := Site.root program) hleaf
  obtain ⟨l, hl, ⟨o', ho', hm⟩, -⟩ := exists_lineage hd []
  refine ⟨l.site, ?_, eq_of_mentions hm ho ▸ ho'⟩
  rw [Node.sites_eq]
  exact List.mem_cons_of_mem _ (List.mem_flatMap_of_mem ht (Lineage.site_mem hl))

/-! ### The graph -/

theorem uses_of_references (program : Node) :
    (analyze program).references.map Reference.use =
      sortBy (fun o o' => decide (place o ≤ place o')) (recordedUses program) := by
  have hplace : ∀ a b : Occurrence × Nat, decide (place a.1 ≤ place b.1) = before a b := by
    intro a b
    unfold before place
    rw [Bool.eq_iff_iff]
    simp [Prod.Lex.toLex_le_toLex]
  rw [recordedUses, sortBy_map hplace, analyze, List.map_map]
  rfl

theorem eraseDups_of_distinct {l : List Occurrence} (h : l.Nodup) : l.eraseDups = l := by
  induction l with
  | nil => rfl
  | cons o rest ih =>
    obtain ⟨hnot, hrest⟩ := List.nodup_cons.1 h
    have hkept : rest.filter (fun o' => !o' == o) = rest := by
      rw [List.filter_eq_self]
      intro o' ho'
      simpa using ne_of_mem_of_not_mem ho' hnot
    rw [List.eraseDups_cons, hkept, ih hrest]

theorem declarations_eq (program : Node) :
    (analyze program).declarations = recordedDeclarations program := by
  have hdistinct : (recordedDeclarations program).Nodup :=
    ((List.nodup_append'.1 ((recorded_distinct program).of_map _)).2.1)
  exact eraseDups_of_distinct hdistinct

theorem declaration_of_reference {program : Node} {r : Reference}
    (h : r ∈ (analyze program).references) {d : Occurrence} (hd : r.declaration = some d) :
    d ∈ (analyze program).declarations ∧ d.name = r.use.name := by
  rw [references_eq] at h
  obtain ⟨u, -, rfl⟩ := List.mem_map.1 h
  have hres := resolves_resolution (declarations program) u.scopes u.occurrence.name
  simp only at hd
  rw [hd] at hres
  obtain ⟨inner, f, outer, earlier, later, -, -, hds, hname, -⟩ := hres
  refine ⟨?_, hname⟩
  rw [declarations_eq, recordedDeclarations, (record_follows program).2.2.1, hds]
  simp

/-- Every identifier is recorded at most once, as a use or as a declaration. The references are the
recorded uses, one for each, in the order of the text and in visiting order where two stand at one
place; and what a use reads is a declaration of its name at another node. -/
theorem identifiers_have_one_role (program : Node) :
    ((recordedUses program ++ recordedDeclarations program).map Occurrence.path).Nodup ∧
    (∀ o ∈ recordedUses program ++ recordedDeclarations program,
      ∃ s ∈ program.sites [], s.occurrence? = some o) ∧
    StablySorted place (recordedUses program) ((analyze program).references.map Reference.use) ∧
    (∀ o ∈ recordedUses program, ∃! r, r ∈ (analyze program).references ∧ r.use = o) ∧
    (analyze program).declarations = recordedDeclarations program ∧
    ∀ r ∈ (analyze program).references, ∀ d, r.declaration = some d →
      d ∈ (analyze program).declarations ∧ d.name = r.use.name ∧ d.path ≠ r.use.path := by
  have hsorted : StablySorted place (recordedUses program)
      ((analyze program).references.map Reference.use) := by
    rw [uses_of_references]
    exact sortBy_stablySorted place (recordedUses program)
  have hdistinct := recorded_distinct program
  refine ⟨hdistinct, fun o ho => exists_site_of_recorded ho, hsorted, ?_, declarations_eq program, ?_⟩
  · intro o ho
    obtain ⟨r, hr, hro⟩ := List.mem_map.1 (hsorted.perm.mem_iff.2 ho)
    refine ⟨r, ⟨hr, hro⟩, ?_⟩
    rintro r' ⟨hr', hro'⟩
    exact eq_of_use_eq hr' hr (hro'.trans hro.symm)
  · intro r hr d hd
    obtain ⟨hmem, hname⟩ := declaration_of_reference hr hd
    refine ⟨hmem, hname, ?_⟩
    have huse : r.use ∈ recordedUses program := hsorted.perm.mem_iff.1 (List.mem_map_of_mem hr)
    rw [declarations_eq] at hmem
    rw [List.map_append, List.nodup_append] at hdistinct
    exact (hdistinct.2.2 _ (List.mem_map_of_mem huse) _ (List.mem_map_of_mem hmem)).symm

end TierSplit.Scope

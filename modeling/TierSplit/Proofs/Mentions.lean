import TierSplit.Proofs.Resolution

/-! Where uses and declarations come from. Every use and every binding in the items of a subtree is an
identifier of that subtree, and each node on the way down to it contributes it under some duty. -/

namespace TierSplit.Scope

open Syntax

mutual

/-- The uses and bindings in an item, of whatever scope. -/
def Item.leaves : Item → List Item
  | .use o => [.use o]
  | .bind hoisted o => [.bind hoisted o]
  | .scope _ items => leavesOf items

def leavesOf : List Item → List Item
  | [] => []
  | item :: rest => item.leaves ++ leavesOf rest

end

attribute [simp] Item.leaves leavesOf

theorem leavesOf_eq (items : List Item) : leavesOf items = items.flatMap Item.leaves := by
  induction items with
  | nil => rfl
  | cons item rest ih => rw [leavesOf, ih, List.flatMap_cons]

@[simp] theorem leavesOf_append (a b : List Item) : leavesOf (a ++ b) = leavesOf a ++ leavesOf b := by
  simp only [leavesOf_eq, List.flatMap_append]

theorem mem_leavesOf_flatMap {α : Type} {ts : List α} {f : α → List Item} {leaf : Item} :
    leaf ∈ leavesOf (ts.flatMap f) ↔ ∃ t ∈ ts, leaf ∈ leavesOf (f t) := by
  simp only [leavesOf_eq, List.flatMap_assoc, List.mem_flatMap]

def Item.Mentions (o : Occurrence) (item : Item) : Prop :=
  item = .use o ∨ ∃ hoisted, item = .bind hoisted o

theorem mem_leavesOf_occurrenceItems {f : Occurrence → Item} (hf : ∀ o, (f o).leaves = [f o])
    {n : Node} {path : Path} {leaf : Item} (h : leaf ∈ leavesOf (occurrenceItems f n path)) :
    ∃ o, (Site.mk path n).occurrence? = some o ∧ leaf = f o := by
  rw [occurrenceItems] at h
  split at h
  · next o ho =>
    simp [hf] at h
    exact ⟨o, ho, h⟩
  · cases h

theorem mem_leavesOf_followSteps {s : Site} {steps : List Step} {leaf : Item}
    (h : leaf ∈ leavesOf (followSteps (contributions s.node.children) s.path steps)) :
    ∃ t ∈ s.children, ∃ duty, leaf ∈ leavesOf (contribution t.node duty t.path) := by
  rw [followSteps, mem_leavesOf_flatMap] at h
  obtain ⟨st, -, h⟩ := h
  rw [getElem?_contributions] at h
  cases hc : s.node.children[st.1]? with
  | none =>
    rw [hc] at h
    cases h
  | some c =>
    rw [hc] at h
    exact ⟨⟨st.1 :: s.path, c⟩, Site.mem_children.2 ⟨st.1, hc, rfl⟩, st.2, h⟩

theorem mem_leavesOf_contribution {s : Site} {duty : Duty} {leaf : Item}
    (h : leaf ∈ leavesOf (contribution s.node duty s.path)) :
    (∃ o, s.occurrence? = some o ∧ leaf.Mentions o) ∨
      ∃ t ∈ s.children, ∃ duty, leaf ∈ leavesOf (contribution t.node duty t.path) := by
  rw [contribution_eq_planned, planned] at h
  cases hp : Plan.of duty s.node with
  | use =>
    rw [hp] at h
    obtain ⟨o, ho, rfl⟩ := mem_leavesOf_occurrenceItems (fun _ => rfl) h
    exact .inl ⟨o, ho, .inl rfl⟩
  | bind hoisted =>
    rw [hp] at h
    obtain ⟨o, ho, rfl⟩ := mem_leavesOf_occurrenceItems (fun _ => rfl) h
    exact .inl ⟨o, ho, .inr ⟨hoisted, rfl⟩⟩
  | follow outer =>
    rw [hp] at h
    exact .inr (mem_leavesOf_followSteps h)
  | enclose outer kind inner =>
    simp [hp, Plan.items] at h
    rcases h with h | h <;> exact .inr (mem_leavesOf_followSteps h)

theorem exists_lineage {n : Node} {duty : Duty} {path : Path} {leaf : Item}
    (h : leaf ∈ leavesOf (contribution n duty path)) (ancestors : List Site) :
    ∃ l ∈ n.lineages ancestors path, (∃ o, l.site.occurrence? = some o ∧ leaf.Mentions o) ∧
      ∀ a ∈ l.ancestors, a ∈ ancestors ∨ ∃ d, leaf ∈ leavesOf (contribution a.node d a.path) := by
  induction n using Node.childInduction generalizing duty path ancestors with
  | step n ih =>
    rw [Node.lineages_eq]
    rcases mem_leavesOf_contribution (s := ⟨path, n⟩) h with ho | ⟨t, ht, d, hd⟩
    · exact ⟨⟨ancestors, ⟨path, n⟩⟩, List.mem_cons_self, ho, fun a ha => .inl ha⟩
    · obtain ⟨l, hl, ho, hanc⟩ := ih _ (Site.node_mem_of_mem_children ht) hd (ancestors ++ [⟨path, n⟩])
      refine ⟨l, List.mem_cons_of_mem _ (List.mem_flatMap_of_mem ht hl), ho, fun a ha => ?_⟩
      rcases hanc a ha with ha | ha
      · rcases List.mem_append.1 ha with ha | ha
        · exact .inl ha
        · rw [List.mem_singleton.1 ha]
          exact .inr ⟨duty, h⟩
      · exact .inr ha

/-- The leaf that a fact comes from. -/
def Fact.StatedBy : Fact → Item → Prop
  | .declared _ o, leaf => ∃ hoisted, leaf = .bind hoisted o
  | .used _ o, leaf => leaf = .use o

mutual

theorem Item.exists_leaf {scopes : Chain} {next : Nat} {fact : Fact} :
    (item : Item) → fact ∈ item.facts scopes next → ∃ leaf ∈ item.leaves, fact.StatedBy leaf
  | .use o, h => by
    rw [Item.facts, List.mem_singleton] at h
    subst h
    exact ⟨_, List.mem_singleton_self _, rfl⟩
  | .bind hoisted o, h => by
    rw [Item.facts, List.mem_map] at h
    obtain ⟨f, -, rfl⟩ := h
    exact ⟨_, List.mem_singleton_self _, hoisted, rfl⟩
  | .scope kind items, h => by
    rw [Item.facts] at h
    rw [Item.leaves]
    exact exists_leafOf items h

theorem exists_leafOf {scopes : Chain} {next : Nat} {fact : Fact} :
    (items : List Item) → fact ∈ factsOf scopes next items → ∃ leaf ∈ leavesOf items, fact.StatedBy leaf
  | [], h => by cases h
  | item :: rest, h => by
    rw [factsOf, List.mem_append] at h
    rw [leavesOf]
    rcases h with h | h
    · obtain ⟨leaf, hl, hs⟩ := item.exists_leaf h
      exact ⟨leaf, List.mem_append_left _ hl, hs⟩
    · obtain ⟨leaf, hl, hs⟩ := exists_leafOf rest h
      exact ⟨leaf, List.mem_append_right _ hl, hs⟩

end

/-- An identifier of the module, such that every node above it, the root apart, contributes the leaf. -/
def Stems (program : Node) (leaf : Item) (o : Occurrence) : Prop :=
  ∃ l ∈ program.lineages [] [], l.site.occurrence? = some o ∧
    ∀ a ∈ l.ancestors, a = Site.root program ∨
      ∃ duty, leaf ∈ leavesOf (contribution a.node duty a.path)

theorem fact_stems {program : Node} {fact : Fact} (h : fact ∈ moduleFacts program) :
    ∃ leaf o, fact.StatedBy leaf ∧ leaf.Mentions o ∧ Stems program leaf o := by
  obtain ⟨leaf, hl, hs⟩ := exists_leafOf _ h
  rw [← outline_eq_moduleItems, outline] at hl
  obtain ⟨t, ht, d, hd⟩ := mem_leavesOf_followSteps (s := Site.root program) hl
  obtain ⟨l, hmem, ⟨o, ho, hm⟩, hanc⟩ := exists_lineage hd [Site.root program]
  refine ⟨leaf, o, hs, hm, l, ?_, ho, fun a ha => ?_⟩
  · rw [Node.lineages_eq]
    exact List.mem_cons_of_mem _ (List.mem_flatMap_of_mem ht hmem)
  · rcases hanc a ha with ha | ha
    · exact .inl (List.mem_singleton.1 ha)
    · exact .inr ha

theorem use_stems {program : Node} {u : Use} (h : u ∈ uses program) :
    Stems program (.use u.occurrence) u.occurrence := by
  obtain ⟨fact, hf, hu⟩ := List.mem_filterMap.1 h
  cases fact with
  | declared k o => cases hu
  | used scopes o =>
    cases hu
    obtain ⟨leaf, o', rfl, hm, hg⟩ := fact_stems hf
    rcases hm with hm | ⟨hoisted, hm⟩
    · cases hm
      exact hg
    · cases hm

theorem declaration_stems {program : Node} {d : Declaration} (h : d ∈ declarations program) :
    ∃ hoisted, Stems program (.bind hoisted d.occurrence) d.occurrence := by
  obtain ⟨fact, hf, hd⟩ := List.mem_filterMap.1 h
  cases fact with
  | used scopes o => cases hd
  | declared k o =>
    cases hd
    obtain ⟨leaf, o', ⟨hoisted, rfl⟩, hm, hg⟩ := fact_stems hf
    rcases hm with hm | ⟨hoisted', hm⟩
    · cases hm
    · cases hm
      exact ⟨hoisted, hg⟩

/-- Both ends of a reference are identifiers of the module. -/
theorem reference_stems {program : Node} {r : Reference} (h : r ∈ (analyze program).references) :
    Stems program (.use r.use) r.use ∧
      ∀ d, r.declaration = some d → ∃ hoisted, Stems program (.bind hoisted d) d := by
  rw [references_eq] at h
  obtain ⟨u, hu, rfl⟩ := List.mem_map.1 h
  refine ⟨use_stems ((sortBy_perm _ _).mem_iff.1 hu), fun d hd => ?_⟩
  have hres := resolves_resolution (declarations program) u.scopes u.occurrence.name
  simp only at hd
  rw [hd] at hres
  obtain ⟨inner, f, outer, earlier, later, -, -, hds, -⟩ := hres
  exact declaration_stems (d := ⟨f.number, d⟩) (by rw [hds]; simp)

end TierSplit.Scope

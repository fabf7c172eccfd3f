import TierSplit.Proofs.Ancestry
import Mathlib.Data.List.Pairwise

/-! Trees whose spans are nested. Of two sites, the one listed first is an ancestor of the other or
ends before the other starts; so of two sites, one lies around the other or they do not overlap. -/

namespace TierSplit.Syntax

/-- The children of a node lie within it, in order and without overlap. -/
structure Node.Ordered (n : Node) : Prop where
  start_le_stop : n.start ≤ n.stop
  within : ∀ c ∈ n.children, n.start ≤ c.start ∧ c.stop ≤ n.stop
  apart : n.children.Pairwise fun a b => a.stop ≤ b.start

instance (n : Node) : Decidable n.Ordered :=
  decidable_of_iff (n.start ≤ n.stop ∧ (∀ c ∈ n.children, n.start ≤ c.start ∧ c.stop ≤ n.stop) ∧
      n.children.Pairwise fun a b => a.stop ≤ b.start)
    ⟨fun h => ⟨h.1, h.2.1, h.2.2⟩, fun h => ⟨h.1, h.2, h.3⟩⟩

theorem span_within {n : Node} (h : n.Everywhere Node.Ordered) {ancestors : List Site} {path : Path}
    {l : Lineage} (hl : l ∈ n.lineages ancestors path) :
    n.start ≤ l.site.node.start ∧ l.site.node.start ≤ l.site.node.stop ∧
      l.site.node.stop ≤ n.stop := by
  induction n using Node.childInduction generalizing ancestors path with
  | step n ih =>
    rw [Node.lineages_eq, List.mem_cons, List.mem_flatMap] at hl
    obtain rfl | ⟨t, ht, hl⟩ := hl
    · exact ⟨Int.le_refl _, h.here.start_le_stop, Int.le_refl _⟩
    · have hc := Site.node_mem_of_mem_children ht
      obtain ⟨hlo, hle, hhi⟩ := ih _ hc (h.child hc) hl
      obtain ⟨hs, he⟩ := h.here.within _ hc
      exact ⟨Int.le_trans hs hlo, hle, Int.le_trans hhi he⟩

theorem span_around {n : Node} (h : n.Everywhere Node.Ordered) {ancestors : List Site} {path : Path}
    {l : Lineage} (hl : l ∈ n.lineages ancestors path) {a : Site} (ha : a ∈ l.ancestors) :
    a ∈ ancestors ∨ (a.node.start ≤ l.site.node.start ∧ l.site.node.stop ≤ a.node.stop) := by
  induction n using Node.childInduction generalizing ancestors path with
  | step n ih =>
    have hspan := span_within h hl
    rw [Node.lineages_eq, List.mem_cons, List.mem_flatMap] at hl
    obtain rfl | ⟨t, ht, hl⟩ := hl
    · exact .inl ha
    · have hc := Site.node_mem_of_mem_children ht
      rcases ih _ hc (h.child hc) hl with hmem | hle
      · rcases List.mem_append.1 hmem with hmem | hmem
        · exact .inl hmem
        · rw [List.mem_singleton.1 hmem]
          exact .inr ⟨hspan.1, hspan.2.2⟩
      · exact .inr hle

theorem mem_ancestors_or_before {n : Node} (h : n.Everywhere Node.Ordered) (ancestors : List Site)
    (path : Path) :
    (n.lineages ancestors path).Pairwise fun l k =>
      l.site ∈ k.ancestors ∨ l.site.node.stop ≤ k.site.node.start := by
  induction n using Node.childInduction generalizing ancestors path with
  | step n ih =>
    rw [Node.lineages_eq, List.pairwise_cons, List.pairwise_flatMap]
    refine ⟨?_, ?_, ?_⟩
    · intro k hk
      obtain ⟨t, -, hk⟩ := List.mem_flatMap.1 hk
      exact .inl (ancestors_subset hk (by simp))
    · intro t ht
      have hc := Site.node_mem_of_mem_children ht
      exact ih _ hc (h.child hc) _ _
    · -- siblings do not overlap, and what lies below them lies within them
      have apart := h.here.apart
      rw [← Site.map_node_children ⟨path, n⟩, List.pairwise_map] at apart
      refine apart.imp_of_mem fun {t u} ht hu hle l hl k hk => .inr ?_
      have hlt := span_within (h.child (Site.node_mem_of_mem_children ht)) hl
      have hku := span_within (h.child (Site.node_mem_of_mem_children hu)) hk
      omega

/-- Of two different sites, one lies around the other, or they do not overlap. -/
theorem nested_or_apart {n : Node} (h : n.Everywhere Node.Ordered) {ancestors : List Site}
    {path : Path} {l k : Lineage} (hl : l ∈ n.lineages ancestors path)
    (hk : k ∈ n.lineages ancestors path) (hne : l ≠ k) :
    (l.site ∈ k.ancestors ∨ k.site ∈ l.ancestors) ∨
      l.site.node.stop ≤ k.site.node.start ∨ k.site.node.stop ≤ l.site.node.start := by
  let R : Lineage → Lineage → Prop := fun a b =>
    a.site ∈ b.ancestors ∨ a.site.node.stop ≤ b.site.node.start
  have hpair : (n.lineages ancestors path).Pairwise fun a b => R a b ∨ R b a :=
    (mem_ancestors_or_before h ancestors path).imp .inl
  have hsymm : Std.Symm fun a b => R a b ∨ R b a := ⟨fun _ _ => Or.symm⟩
  rcases hpair.forall hl hk hne with (hmem | hle) | (hmem | hle)
  · exact .inl (.inl hmem)
  · exact .inr (.inl hle)
  · exact .inl (.inr hmem)
  · exact .inr (.inr hle)

/-- What does not lie in the span of a site lies above the site or apart from it. -/
theorem above_or_apart {n : Node} (h : n.Everywhere Node.Ordered) {l k : Lineage}
    (hl : l ∈ n.lineages [] []) (hk : k ∈ n.lineages [] [])
    (hout : ¬(k.site.node.start ≤ l.site.node.start ∧ l.site.node.stop ≤ k.site.node.stop)) :
    l.site ∈ k.ancestors ∨ l.site.node.stop ≤ k.site.node.start ∨
      k.site.node.stop ≤ l.site.node.start := by
  have hne : l ≠ k := by
    rintro rfl
    exact hout ⟨Int.le_refl _, Int.le_refl _⟩
  rcases nested_or_apart h hl hk hne with (hmem | hmem) | hle
  · exact .inl hmem
  · exact absurd ((span_around h hl hmem).resolve_left List.not_mem_nil) hout
  · exact .inr hle

end TierSplit.Syntax

import TierSplit.Syntax.Node
import Mathlib.Data.List.Basic

/-! Sites of a tree, their ancestors, and properties that all nodes of a tree have. Sites are listed
parents before children, children left to right. -/

namespace TierSplit.Syntax

theorem Node.sizeOf_lt_of_mem_children {n c : Node} (h : c ∈ n.children) : sizeOf c < sizeOf n := by
  have hc := List.sizeOf_lt_of_mem h
  cases n
  simp only [Node.mk.sizeOf_spec] at hc ⊢
  omega

/-- What carries over from the children to a node holds of every node. -/
@[elab_as_elim]
theorem Node.childInduction {motive : Node → Prop}
    (step : ∀ n, (∀ c ∈ n.children, motive c) → motive n) (n : Node) : motive n :=
  step n fun c _ => Node.childInduction step c
termination_by sizeOf n
decreasing_by exact Node.sizeOf_lt_of_mem_children ‹_›

namespace Site

theorem mem_childrenFrom {path : Path} {i : Nat} {ns : List Node} {t : Site} :
    t ∈ childrenFrom path i ns ↔ ∃ j, ns[j]? = some t.node ∧ t.path = (i + j) :: path := by
  induction ns generalizing i with
  | nil => simp [childrenFrom]
  | cons c rest ih =>
    rw [childrenFrom, List.mem_cons, ih]
    constructor
    · rintro (rfl | ⟨j, hj, hp⟩)
      · exact ⟨0, by simp⟩
      · exact ⟨j + 1, by simpa using hj, by rw [hp]; congr 1; omega⟩
    · rintro ⟨j, hj, hp⟩
      cases j with
      | zero =>
        left
        obtain ⟨path', node'⟩ := t
        simp_all
      | succ j => exact .inr ⟨j, by simpa using hj, by rw [hp]; congr 1; omega⟩

theorem mem_children {s t : Site} :
    t ∈ s.children ↔ ∃ i, s.node.children[i]? = some t.node ∧ t.path = i :: s.path := by
  simp [children, mem_childrenFrom]

theorem node_mem_of_mem_children {s t : Site} (h : t ∈ s.children) : t.node ∈ s.node.children := by
  obtain ⟨i, hi, -⟩ := mem_children.1 h
  exact List.mem_of_getElem? hi

theorem node_mem_of_child? {s t : Site} {field : String} (h : s.child? field = some t) :
    t.node ∈ s.node.children := by
  unfold child? at h
  split at h
  · obtain ⟨c, hc, rfl⟩ := Option.map_eq_some_iff.1 h
    exact List.mem_of_getElem? hc
  · cases h

theorem eq_of_occurrence? {t : Site} {o : Occurrence} (h : t.occurrence? = some o) :
    t.node.isIdentifier = true ∧ o.path = t.path ∧ o.start = t.node.start ∧
      o.stop = t.node.stop := by
  unfold occurrence? at h
  unfold Node.isIdentifier
  split at h
  · cases h; exact ⟨rfl, rfl, rfl, rfl⟩
  · cases h

theorem exists_occurrence? {t : Site} (h : t.node.isIdentifier = true) :
    ∃ o, t.occurrence? = some o := by
  unfold Node.isIdentifier at h
  unfold occurrence?
  split at h
  · exact ⟨_, rfl⟩
  · cases h

end Site

theorem sitesFrom_eq (path : Path) (i : Nat) (ns : List Node) :
    sitesFrom path i ns = (Site.childrenFrom path i ns).flatMap fun t => t.node.sites t.path := by
  induction ns generalizing i with
  | nil => rfl
  | cons c rest ih => rw [sitesFrom, ih, Site.childrenFrom, List.flatMap_cons]

theorem Node.sites_eq (path : Path) (n : Node) :
    n.sites path = ⟨path, n⟩ :: (Site.mk path n).children.flatMap fun t => t.node.sites t.path := by
  cases n; rw [Node.sites, sitesFrom_eq]; rfl

theorem Site.sites_of_childless {s : Site} (h : s.node.children = []) :
    s.node.sites s.path = [s] := by
  rw [Node.sites_eq]
  simp [Site.children, h, Site.childrenFrom]

theorem Node.map_node_sites (n : Node) (path : Path) :
    (n.sites path).map Site.node = n :: n.children.flatMap fun c => (c.sites []).map Site.node := by
  induction n using Node.childInduction generalizing path with
  | step n ih =>
    have below : ∀ t ∈ (Site.mk path n).children,
        (t.node.sites t.path).map Site.node = (t.node.sites []).map Site.node := by
      intro t ht
      have hc := Site.node_mem_of_mem_children ht
      rw [ih _ hc, ih _ hc]
    rw [Node.sites_eq, List.map_cons, List.map_flatMap, List.flatMap_congr below]
    rw [← Site.map_node_children ⟨path, n⟩, List.flatMap_map]

def Node.Everywhere (P : Node → Prop) (n : Node) : Prop := ∀ s ∈ n.sites [], P s.node

instance (P : Node → Prop) [DecidablePred P] (n : Node) : Decidable (n.Everywhere P) :=
  inferInstanceAs (Decidable (∀ s ∈ n.sites [], P s.node))

theorem Node.everywhere_of_mem_sites {P : Node → Prop} {n : Node} (h : n.Everywhere P) {path : Path}
    {s : Site} (hs : s ∈ n.sites path) : P s.node := by
  have hm : s.node ∈ (n.sites []).map Site.node := by
    rw [n.map_node_sites [], ← n.map_node_sites path]
    exact List.mem_map_of_mem hs
  obtain ⟨t, ht, he⟩ := List.mem_map.1 hm
  exact he ▸ h t ht

theorem Node.Everywhere.intro {P : Node → Prop} {n : Node} (here : P n)
    (below : ∀ c ∈ n.children, c.Everywhere P) : n.Everywhere P := by
  intro s hs
  rw [Node.sites_eq, List.mem_cons, List.mem_flatMap] at hs
  obtain rfl | ⟨t, ht, hs⟩ := hs
  · exact here
  · exact Node.everywhere_of_mem_sites (below _ (Site.node_mem_of_mem_children ht)) hs

theorem Node.Everywhere.here {P : Node → Prop} {n : Node} (h : n.Everywhere P) : P n :=
  h ⟨[], n⟩ (by rw [Node.sites_eq]; exact List.mem_cons_self)

theorem Node.Everywhere.child {P : Node → Prop} {n c : Node} (h : n.Everywhere P)
    (hc : c ∈ n.children) : c.Everywhere P := by
  rw [← Site.map_node_children ⟨[], n⟩] at hc
  obtain ⟨t, ht, rfl⟩ := List.mem_map.1 hc
  intro s hs
  have hm : s.node ∈ (t.node.sites t.path).map Site.node := by
    rw [t.node.map_node_sites, ← t.node.map_node_sites []]
    exact List.mem_map_of_mem hs
  obtain ⟨u, hu, he⟩ := List.mem_map.1 hm
  refine he ▸ h u ?_
  rw [Node.sites_eq]
  exact List.mem_cons_of_mem _ (List.mem_flatMap_of_mem ht hu)

/-- A site with its proper ancestors, outermost first. -/
structure Lineage where
  ancestors : List Site
  site : Site

mutual

/-- All sites of a subtree with their ancestors, parents before children, children left to right. -/
def Node.lineages (ancestors : List Site) (path : Path) : Node → List Lineage
  | ⟨role, kind, start, stop, field, keywords, children⟩ =>
    let site : Site := ⟨path, ⟨role, kind, start, stop, field, keywords, children⟩⟩
    ⟨ancestors, site⟩ :: lineagesFrom (ancestors ++ [site]) path 0 children

def lineagesFrom (ancestors : List Site) (path : Path) (i : Nat) : List Node → List Lineage
  | [] => []
  | c :: rest => c.lineages ancestors (i :: path) ++ lineagesFrom ancestors path (i + 1) rest

end

theorem lineagesFrom_eq (ancestors : List Site) (path : Path) (i : Nat) (ns : List Node) :
    lineagesFrom ancestors path i ns =
      (Site.childrenFrom path i ns).flatMap fun t => t.node.lineages ancestors t.path := by
  induction ns generalizing i with
  | nil => rfl
  | cons c rest ih => rw [lineagesFrom, ih, Site.childrenFrom, List.flatMap_cons]

theorem Node.lineages_eq (ancestors : List Site) (path : Path) (n : Node) :
    n.lineages ancestors path = ⟨ancestors, ⟨path, n⟩⟩ ::
      (Site.mk path n).children.flatMap fun t => t.node.lineages (ancestors ++ [⟨path, n⟩]) t.path := by
  cases n; rw [Node.lineages, lineagesFrom_eq]; rfl

@[simp] theorem map_site_lineages (n : Node) (ancestors : List Site) (path : Path) :
    (n.lineages ancestors path).map Lineage.site = n.sites path := by
  induction n using Node.childInduction generalizing ancestors path with
  | step n ih =>
    rw [Node.lineages_eq, Node.sites_eq, List.map_cons, List.map_flatMap]
    congr 1
    exact List.flatMap_congr fun t ht => ih _ (Site.node_mem_of_mem_children ht) _ _

theorem Lineage.site_mem {n : Node} {ancestors : List Site} {path : Path} {l : Lineage}
    (h : l ∈ n.lineages ancestors path) : l.site ∈ n.sites path := by
  rw [← map_site_lineages n ancestors path]
  exact List.mem_map_of_mem h

theorem ancestors_subset {n : Node} {ancestors : List Site} {path : Path} {l : Lineage}
    (h : l ∈ n.lineages ancestors path) : ancestors ⊆ l.ancestors := by
  induction n using Node.childInduction generalizing ancestors path with
  | step n ih =>
    rw [Node.lineages_eq, List.mem_cons, List.mem_flatMap] at h
    obtain rfl | ⟨t, ht, h⟩ := h
    · exact List.Subset.refl _
    · exact fun a ha => ih _ (Site.node_mem_of_mem_children ht) h (List.mem_append_left _ ha)

/-- What lies above a site has the site below it. -/
theorem mem_sites_of_mem_ancestors {n : Node} {ancestors : List Site} {path : Path} {l : Lineage}
    (h : l ∈ n.lineages ancestors path) {a : Site} (ha : a ∈ l.ancestors) :
    a ∈ ancestors ∨ (l.site ∈ a.node.sites a.path ∧ a.node.children ≠ []) := by
  induction n using Node.childInduction generalizing ancestors path with
  | step n ih =>
    have hsite := Lineage.site_mem h
    rw [Node.lineages_eq, List.mem_cons, List.mem_flatMap] at h
    obtain rfl | ⟨t, ht, h⟩ := h
    · exact .inl ha
    · have hc := Site.node_mem_of_mem_children ht
      rcases ih _ hc h with ha | ha
      · rcases List.mem_append.1 ha with ha | ha
        · exact .inl ha
        · rw [List.mem_singleton.1 ha]
          exact .inr ⟨hsite, List.ne_nil_of_mem hc⟩
      · exact .inr ha

theorem Node.Everywhere.site {P : Node → Prop} {n : Node} (h : n.Everywhere P) {path : Path} {s : Site}
    (hs : s ∈ n.sites path) : s.node.Everywhere P := by
  induction n using Node.childInduction generalizing path with
  | step n ih =>
    rw [Node.sites_eq, List.mem_cons, List.mem_flatMap] at hs
    obtain rfl | ⟨t, ht, hs⟩ := hs
    · exact h
    · have hc := Site.node_mem_of_mem_children ht
      exact ih _ hc (h.child hc) hs

end TierSplit.Syntax

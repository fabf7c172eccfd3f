import TierSplit.Proofs.Ownership

/-! Which block a node lies in. The search for an owner looks only at where a node ends. For a node
that neither lies in a marker nor has one in it, the block found is the one block that spans the
whole node; for a node in a marker, it is the block that the marker opens. -/

namespace TierSplit

open Syntax Marker

/-- The site is the other one, or lies below it. -/
def Syntax.Lineage.Under (l k : Lineage) : Prop := l.site = k.site ∨ k.site ∈ l.ancestors

namespace Block

def Contains (b : Block) (n : Node) : Prop := b.start ≤ n.start ∧ n.stop ≤ b.stop

instance (b : Block) (n : Node) : Decidable (b.Contains n) :=
  inferInstanceAs (Decidable (_ ∧ _))

/-! ### Inside a marker -/

theorem Apart.ownerIndex_eq {markers : List Marker} {length : Int} (h : Apart markers length)
    {i : Nat} {m : Marker} (hm : markers[i]? = some m) {lo hi : Int} (hlo : m.start ≤ lo)
    (hlt : lo < hi) (hhi : hi ≤ m.stop) : ownerIndex (segment markers length) hi = i := by
  have hb : (segment markers length)[i]? =
      some (.new i (.ofList m.tiers) m.stop (endOf markers length i)) := by
    rw [getElem?_segment, hm]
    rfl
  have hend := h.stop_le_endOf hm
  have hle : ownerIndex (segment markers length) hi ≤ i :=
    (ownerIndex_splits (stops_segment h) hi hb).2 (Int.le_trans hhi hend)
  cases i with
  | zero => exact Nat.le_zero.1 hle
  | succ j =>
    -- the block before ends where the marker starts, so it ends too early
    have hj : j < (segment markers length).length := by
      have := (List.getElem?_eq_some_iff.1 hb).1
      omega
    have hprev := List.getElem?_eq_getElem hj
    obtain ⟨-, -, -, hstop⟩ := getElem?_segment_eq_some hprev
    rw [endOf, hm] at hstop
    have hnot : ¬ownerIndex (segment markers length) hi ≤ j := by
      rw [ownerIndex_splits (stops_segment h) hi hprev, hstop]
      change ¬hi ≤ m.start
      omega
    omega

/-! ### Outside the markers -/

section

variable {label : String} {program : Node} {length : Int} {markers : List Marker}
  (hw : program.Everywhere Node.Ordered)
include hw

theorem under_or_behind {first : Node} (hfirst : program.children[0]? = some first) {l : Lineage}
    (hl : l ∈ program.lineages [] []) (hroot : l.site ≠ Site.root program) :
    l.Under ⟨[⟨[], program⟩], ⟨[0], first⟩⟩ ∨ first.stop ≤ l.site.node.start := by
  obtain ⟨others, hc⟩ : ∃ others, program.children = first :: others := by
    cases hc : program.children with
    | nil => rw [hc] at hfirst; cases hfirst
    | cons c others => rw [hc] at hfirst; cases hfirst; exact ⟨others, rfl⟩
  have hpair := mem_ancestors_or_before hw [] []
  rw [Node.lineages_eq, Site.children, hc, Site.childrenFrom, List.flatMap_cons, Node.lineages_eq,
    List.cons_append] at hpair hl
  rcases List.mem_cons.1 hl with rfl | hl
  · exact absurd rfl hroot
  rcases List.mem_cons.1 hl with rfl | hl
  · exact .inl (.inl rfl)
  · rcases (List.pairwise_cons.1 (List.pairwise_cons.1 hpair).2).1 l hl with hmem | hle
    · exact .inl (.inr hmem)
    · exact .inr hle

variable (hlen : program.stop ≤ length) (hscan : (scan label program).markers = .ok markers)
include hlen hscan

/-- A node below the root that neither lies in a marker nor has one in it touches no marker, and stands
behind the first one. -/
theorem clear_of_apart {l : Lineage} (hl : l ∈ program.lineages [] [])
    (hroot : l.site ≠ Site.root program) (hpos : l.site.node.start < l.site.node.stop)
    (hout : ∀ k ∈ topmost label program, ¬l.Under k ∧ ¬k.Under l) :
    Clear markers length l.site.node.start l.site.node.stop := by
  obtain ⟨hdesc, hapart⟩ := scan_apart hw hlen hscan
  refine ⟨hpos, Int.le_trans (span_within hw hl).2.2 hlen, ?_, ?_⟩
  · obtain ⟨ho, hn, -⟩ := markers_eq_ok hscan
    obtain ⟨first, hfirst, hk⟩ := topmost_of_opens ho (checkAll_eq_none hn).1
    obtain ⟨m, hm, hkm⟩ := exists_of_mem_right hdesc.flip hk
    have hbehind : m.stop ≤ l.site.node.start := by
      rw [hkm.stop]
      exact (under_or_behind hw hfirst hl hroot).resolve_left (hout _ hk).1
    cases markers with
    | nil => cases hm
    | cons head rest =>
      refine ⟨head, rfl, ?_⟩
      rcases List.mem_cons.1 hm with rfl | hrest
      · exact hbehind
      · have hord := (List.pairwise_cons.1 hapart.ordered).1 m hrest
        have hle := hapart.start_le_stop m hm
        omega
  · intro m hm
    obtain ⟨k, hk, hkm⟩ := exists_of_mem_right hdesc hm
    obtain ⟨hlk, hkl⟩ := hout k hk
    rw [hkm.start, hkm.stop]
    have hne : l ≠ k := fun heq => hlk (.inl (congrArg Lineage.site heq))
    rcases nested_or_apart hw hl (mem_topmost hk).1 hne with (hmem | hmem) | happart
    · exact absurd (.inr hmem) hkl
    · exact absurd (.inr hmem) hlk
    · exact happart

theorem owner?_contains {l : Lineage} (hl : l ∈ program.lineages [] [])
    (hroot : l.site ≠ Site.root program) (hpos : l.site.node.start < l.site.node.stop)
    (hout : ∀ k ∈ topmost label program, ¬l.Under k ∧ ¬k.Under l) :
    ∃ b ∈ segment markers length, b.Contains l.site.node ∧
      owner? (segment markers length) l.site.node.stop = some b ∧
      ∀ c ∈ segment markers length, c.Contains l.site.node → c = b := by
  have hclear := clear_of_apart hw hlen hscan hl hroot hpos hout
  obtain ⟨-, hapart⟩ := scan_apart hw hlen hscan
  obtain ⟨b, hb⟩ : ∃ b, (segment markers length)[ownerIndex (segment markers length)
      l.site.node.stop]? = some b := ⟨_, List.getElem?_eq_getElem (hclear.ownerIndex_lt hapart)⟩
  refine ⟨b, List.mem_of_getElem? hb, (hclear.ownerIndex_eq_iff hapart hb).1 rfl, hb, ?_⟩
  intro c hc hspan
  obtain ⟨j, hj⟩ := List.getElem?_of_mem hc
  rw [(hclear.ownerIndex_eq_iff hapart hj).2 hspan, hj] at hb
  exact Option.some.inj hb

theorem owner?_of_under {i : Nat} {m : Marker} (hm : markers[i]? = some m) {k l : Lineage}
    (hkm : Describes k m) (hl : l ∈ program.lineages [] []) (hlk : l.Under k)
    (hpos : l.site.node.start < l.site.node.stop) :
    owner? (segment markers length) l.site.node.stop = (segment markers length)[i]? := by
  obtain ⟨-, hapart⟩ := scan_apart hw hlen hscan
  have hspan : k.site.node.start ≤ l.site.node.start ∧ l.site.node.stop ≤ k.site.node.stop := by
    rcases hlk with heq | hmem
    · rw [heq]
      exact ⟨Int.le_refl _, Int.le_refl _⟩
    · exact (span_around hw hl hmem).resolve_left List.not_mem_nil
  rw [← hkm.start, ← hkm.stop] at hspan
  rw [owner?, hapart.ownerIndex_eq hm hspan.1 hpos hspan.2]

end

theorem mem_lineages_of_mem_children {program : Node} {t : Site}
    (ht : t ∈ (Site.root program).children) :
    (⟨[Site.root program], t⟩ : Lineage) ∈ program.lineages [] [] := by
  rw [Node.lineages_eq]
  refine List.mem_cons_of_mem _ (List.mem_flatMap_of_mem ht ?_)
  rw [Node.lineages_eq]
  exact List.mem_cons_self

theorem ne_root_of_mem_children {program : Node} {t : Site}
    (ht : t ∈ (Site.root program).children) : t ≠ Site.root program := by
  rintro rfl
  obtain ⟨i, -, hpath⟩ := Site.mem_children.1 ht
  cases hpath

/-- A block owns by its end the nodes that it spans, and no other block spans them; markers and what
lies around them are apart. A marker, with all that lies in it, goes to the block it opens. -/
theorem owner_agrees_with_span {label : String} {program : Node} {length : Int}
    {markers : List Marker} (hw : program.Everywhere Node.Ordered) (hlen : program.stop ≤ length)
    (hscan : (scan label program).markers = .ok markers) :
    (∀ l ∈ program.lineages [] [], l.site ≠ Site.root program →
      l.site.node.start < l.site.node.stop →
      (∀ k ∈ topmost label program, ¬l.Under k ∧ ¬k.Under l) →
      ∃ b ∈ segment markers length, b.Contains l.site.node ∧
        owner? (segment markers length) l.site.node.stop = some b ∧
        ∀ c ∈ segment markers length, c.Contains l.site.node → c = b) ∧
    (∀ (i : Nat) (m : Marker), markers[i]? = some m →
      ∃ k ∈ topmost label program, Describes k m ∧ ∃ b, (segment markers length)[i]? = some b ∧
        ∀ l ∈ program.lineages [] [], l.Under k → l.site.node.start < l.site.node.stop →
          owner? (segment markers length) l.site.node.stop = some b) ∧
    ((∀ k ∈ topmost label program, k.ancestors = [Site.root program]) →
      ∀ t ∈ (Site.root program).children, isMarker label t.node = false →
        t.node.start < t.node.stop →
        ∃! b, b ∈ segment markers length ∧ b.Contains t.node) := by
  refine ⟨fun l hl => owner?_contains hw hlen hscan hl, ?_, ?_⟩
  · intro i m hm
    obtain ⟨k, hk, hkm⟩ := exists_getElem?_right (scan_apart hw hlen hscan).1 hm
    refine ⟨k, List.mem_of_getElem? hk, hkm, _, by rw [getElem?_segment, hm]; rfl, ?_⟩
    intro l hl hlk hpos
    rw [owner?_of_under hw hlen hscan hm hkm hl hlk hpos, getElem?_segment, hm]
    rfl
  · intro htop t ht hmarker hpos
    -- a child of the root is no marker here, and the markers have nothing but the root above them
    have hout : ∀ k ∈ topmost label program,
        ¬Lineage.Under ⟨[Site.root program], t⟩ k ∧ ¬k.Under ⟨[Site.root program], t⟩ := by
      intro k hk
      have hne : t ≠ k.site := by
        rintro rfl
        rw [(mem_topmost hk).2] at hmarker
        cases hmarker
      have hroot : k.site ≠ Site.root program := by
        intro heq
        have hm := (mem_topmost hk).2
        rw [heq, Site.root, root_not_marker hscan] at hm
        cases hm
      refine ⟨?_, ?_⟩
      · rintro (heq | hmem)
        · exact hne heq
        · exact hroot (List.mem_singleton.1 hmem)
      · rintro (heq | hmem)
        · exact hne heq.symm
        · rw [htop k hk] at hmem
          exact ne_root_of_mem_children ht (List.mem_singleton.1 hmem)
    obtain ⟨b, hb, hspan, -, honly⟩ := owner?_contains hw hlen hscan
      (mem_lineages_of_mem_children ht) (ne_root_of_mem_children ht) hpos hout
    exact ⟨b, ⟨hb, hspan⟩, fun c hc => honly c hc.1 hc.2⟩

/-- The name of the function in the sample module lies in the first block and is found there. -/
theorem sampleModule_owned :
    ∃ l ∈ sampleModule.lineages [] [], l.site.path = [0, 1] ∧
      ∃ b ∈ segment sampleMarkers 45, b.Contains l.site.node ∧
        owner? (segment sampleMarkers 45) l.site.node.stop = some b ∧
        ∀ c ∈ segment sampleMarkers 45, c.Contains l.site.node → c = b := by
  obtain ⟨l, hl, hpath, habove, hpos⟩ : ∃ l ∈ sampleModule.lineages [] [], l.site.path = [0, 1] ∧
      l.ancestors.map Site.path = [[], [1]] ∧ l.site.node.start < l.site.node.stop := by decide
  have hroot : l.site ≠ Site.root sampleModule := by
    intro heq
    rw [heq] at hpath
    cases hpath
  have hmarkers : ∀ k ∈ topmost "on" sampleModule, k.site.path ≠ [0, 1] ∧
      k.site.path ∉ [[], [1]] ∧ [0, 1] ∉ k.ancestors.map Site.path := by decide
  have hout : ∀ k ∈ topmost "on" sampleModule, ¬l.Under k ∧ ¬k.Under l := by
    intro k hk
    obtain ⟨hne, hbelow, hover⟩ := hmarkers k hk
    refine ⟨?_, ?_⟩
    · rintro (heq | hmem)
      · exact hne (by rw [← heq, hpath])
      · exact hbelow (habove ▸ List.mem_map_of_mem hmem)
    · rintro (heq | hmem)
      · exact hne (by rw [heq, hpath])
      · exact hover (hpath ▸ List.mem_map_of_mem hmem)
  exact ⟨l, hl, hpath,
    (owner_agrees_with_span (by decide) (by decide) scan_sampleModule).1 l hl hroot hpos hout⟩

end Block

end TierSplit

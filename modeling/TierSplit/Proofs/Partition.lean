import TierSplit.Block.Segment
import TierSplit.Proofs.Discovery
import TierSplit.Proofs.Related
import TierSplit.Proofs.Spans

/-! Markers and blocks partition a module. Where the spans of the tree are nested, markers do not
overlap, so the ranges of markers and blocks alternate and cover the text from the first marker to
the end, every offset once. -/

namespace TierSplit.Block

open Syntax Marker

/-- Markers in order and apart, none of them reaching beyond the text. -/
structure Apart (markers : List Marker) (length : Int) : Prop where
  ordered : markers.Pairwise fun a b => a.stop ≤ b.start
  start_le_stop : ∀ m ∈ markers, m.start ≤ m.stop
  stop_le : ∀ m ∈ markers, m.stop ≤ length

theorem topmost_apart {program : Node} (hw : program.Everywhere Node.Ordered) (label : String) :
    (topmost label program).Pairwise fun l k => l.site.node.stop ≤ k.site.node.start := by
  unfold topmost
  rw [List.pairwise_filter]
  refine (mem_ancestors_or_before hw [] []).imp fun {l k} h hl hk => ?_
  -- a marker above a topmost marker is excluded
  rcases h with hmem | hle
  · unfold isTopmost at hl hk
    rw [Bool.and_eq_true] at hl hk
    have := List.all_eq_true.1 hk.2 _ hmem
    simp [hl.1] at this
  · exact hle

theorem ordered_of_describes {ls : List Lineage} {ms : List Marker}
    (h : List.Forall₂ Describes ls ms)
    (hp : ls.Pairwise fun l k => l.site.node.stop ≤ k.site.node.start) :
    ms.Pairwise fun a b => a.stop ≤ b.start := by
  induction h with
  | nil => exact .nil
  | cons hd hrest ih =>
    rw [List.pairwise_cons] at hp ⊢
    refine ⟨fun b hb => ?_, ih hp.2⟩
    obtain ⟨k, hk, hkb⟩ := exists_of_mem_right hrest hb
    rw [hd.stop, hkb.start]
    exact hp.1 k hk

/-- The markers of a tree with nested spans, one for each topmost marker and in the same order. -/
theorem scan_apart {program : Node} (hw : program.Everywhere Node.Ordered) {length : Int}
    (hl : program.stop ≤ length) {label : String} {markers : List Marker}
    (h : (scan label program).markers = .ok markers) :
    List.Forall₂ Describes (topmost label program) markers ∧ Apart markers length := by
  obtain ⟨-, hn, rfl⟩ := markers_eq_ok h
  have hdesc := (checkAll_eq_none hn).2
  have hspan : ∀ m ∈ (checkAll (topmost label program)).1, m.start ≤ m.stop ∧ m.stop ≤ program.stop := by
    intro m hm
    obtain ⟨l, hmem, hlm⟩ := exists_of_mem_right hdesc hm
    rw [hlm.start, hlm.stop]
    exact (span_within hw (mem_topmost hmem).1).2
  have hord := ordered_of_describes hdesc (topmost_apart hw label)
  have hsorted : (checkAll (topmost label program)).1.Pairwise
      fun a b => decide (a.start ≤ b.start) = true := by
    refine hord.imp_of_mem fun {a b} ha _ hab => ?_
    have := (hspan a ha).1
    simpa using (by omega : a.start ≤ b.start)
  rw [sortBy_eq_self hsorted]
  refine ⟨hdesc, hord, fun m hm => (hspan m hm).1, fun m hm => ?_⟩
  have := (hspan m hm).2
  omega

/-! ### Cutting -/

@[simp] theorem length_segmentFrom (id : Nat) (length : Int) (markers : List Marker) :
    (segmentFrom id length markers).length = markers.length := by
  fun_induction segmentFrom id length markers with
  | case1 => rfl
  | case2 => rfl
  | case3 id m next rest ih => exact congrArg (· + 1) ih

def endOf (markers : List Marker) (length : Int) (i : Nat) : Int :=
  (markers[i + 1]?.map Marker.start).getD length

theorem getElem?_segmentFrom (id : Nat) (length : Int) (markers : List Marker) (i : Nat) :
    (segmentFrom id length markers)[i]? = markers[i]?.map fun m =>
      .new (id + i) (.ofList m.tiers) m.stop (endOf markers length i) := by
  fun_induction segmentFrom id length markers generalizing i with
  | case1 => rfl
  | case2 id m => cases i <;> simp [endOf]
  | case3 id m next rest ih =>
    cases i with
    | zero => rfl
    | succ i =>
      rw [List.getElem?_cons_succ, ih, List.getElem?_cons_succ]
      simp only [endOf, List.getElem?_cons_succ]
      rw [Nat.add_right_comm id 1 i, Nat.add_assoc]

theorem getElem?_segment (markers : List Marker) (length : Int) (i : Nat) :
    (segment markers length)[i]? = markers[i]?.map fun m =>
      .new i (.ofList m.tiers) m.stop (endOf markers length i) := by
  rw [segment, getElem?_segmentFrom]
  simp only [Nat.zero_add]

theorem Apart.stop_le_endOf {markers : List Marker} {length : Int} (h : Apart markers length) {i : Nat}
    {m : Marker} (hm : markers[i]? = some m) : m.stop ≤ endOf markers length i := by
  unfold endOf
  cases hn : markers[i + 1]? with
  | none => exact h.stop_le m (List.mem_of_getElem? hm)
  | some next =>
    obtain ⟨hi, rfl⟩ := List.getElem?_eq_some_iff.1 hm
    obtain ⟨hj, rfl⟩ := List.getElem?_eq_some_iff.1 hn
    exact List.pairwise_iff_getElem.1 h.ordered i (i + 1) hi hj (Nat.lt_succ_self i)

/-! ### Tiling -/

/-- The ranges follow each other without a gap from `lo` to `hi`. -/
def Tiles (lo : Int) : List (Int × Int) → Int → Prop
  | [], hi => lo = hi
  | r :: rest, hi => r.1 = lo ∧ r.1 ≤ r.2 ∧ Tiles r.2 rest hi

theorem Tiles.start_ge {lo hi : Int} {ranges : List (Int × Int)} (h : Tiles lo ranges hi)
    {r : Int × Int} (hr : r ∈ ranges) : lo ≤ r.1 := by
  induction ranges generalizing lo with
  | nil => cases hr
  | cons s rest ih =>
    obtain ⟨rfl, hle, h⟩ := h
    rcases List.mem_cons.1 hr with rfl | hr
    · exact Int.le_refl _
    · have := ih h hr
      omega

theorem Tiles.existsUnique {lo hi : Int} {ranges : List (Int × Int)} (h : Tiles lo ranges hi) {x : Int}
    (hlo : lo ≤ x) (hhi : x < hi) :
    ∃! i : Nat, ∃ r : Int × Int, ranges[i]? = some r ∧ r.1 ≤ x ∧ x < r.2 := by
  induction ranges generalizing lo with
  | nil => cases h; omega
  | cons s rest ih =>
    obtain ⟨rfl, hle, h⟩ := h
    by_cases hx : x < s.2
    · refine ⟨0, ⟨s, rfl, hlo, hx⟩, ?_⟩
      rintro (_ | i) ⟨r, hr, hr1, hr2⟩
      · rfl
      · have := h.start_ge (List.mem_of_getElem? hr)
        omega
    · obtain ⟨i, ⟨r, hr, hr1, hr2⟩, huniq⟩ := ih h (by omega)
      refine ⟨i + 1, ⟨r, hr, hr1, hr2⟩, ?_⟩
      rintro (_ | j) ⟨r', hr', hr1', hr2'⟩
      · cases hr'
        omega
      · rw [huniq j ⟨r', hr', hr1', hr2'⟩]

/-- The ranges of markers and blocks in turn. -/
def alternate : List Marker → List Block → List (Int × Int)
  | m :: ms, b :: bs => (m.start, m.stop) :: (b.start, b.stop) :: alternate ms bs
  | _, _ => []

theorem Apart.tail {m : Marker} {markers : List Marker} {length : Int}
    (h : Apart (m :: markers) length) : Apart markers length :=
  ⟨(List.pairwise_cons.1 h.ordered).2, fun a ha => h.start_le_stop a (List.mem_cons_of_mem _ ha),
    fun a ha => h.stop_le a (List.mem_cons_of_mem _ ha)⟩

theorem Apart.tiles {first : Marker} {markers : List Marker} {length : Int}
    (h : Apart (first :: markers) length) (id : Nat) :
    Tiles first.start
      (alternate (first :: markers) (segmentFrom id length (first :: markers))) length := by
  induction markers generalizing first id with
  | nil =>
    have hs := h.start_le_stop first List.mem_cons_self
    have hl := h.stop_le first List.mem_cons_self
    exact ⟨rfl, hs, rfl, hl, rfl⟩
  | cons next rest ih =>
    have hs := h.start_le_stop first List.mem_cons_self
    have hn := (List.pairwise_cons.1 h.ordered).1 next List.mem_cons_self
    exact ⟨rfl, hs, rfl, hn, ih h.tail (id + 1)⟩

/-- Markers and blocks of a tree with nested spans partition the text behind the first marker. -/
theorem markers_and_blocks_tile {label : String} {program : Node} {length : Int}
    {markers : List Marker} (hw : program.Everywhere Node.Ordered) (hl : program.stop ≤ length)
    (h : (scan label program).markers = .ok markers) :
    (∀ i a b, markers[i]? = some a → markers[i + 1]? = some b → a.stop ≤ b.start) ∧
    (segment markers length).length = markers.length ∧
    (∀ i m, markers[i]? = some m → ∃ b, (segment markers length)[i]? = some b ∧ b.id = i ∧
      b.start = m.stop ∧ b.stop = (markers[i + 1]?.map Marker.start).getD length ∧
      b.start ≤ b.stop) ∧
    ∃ first, markers.head? = some first ∧
      Tiles first.start (alternate markers (segment markers length)) length ∧
      ∀ x, first.start ≤ x → x < length → ∃! i : Nat, ∃ r : Int × Int,
        (alternate markers (segment markers length))[i]? = some r ∧ r.1 ≤ x ∧ x < r.2 := by
  obtain ⟨hdesc, hap⟩ := scan_apart hw hl h
  refine ⟨?_, length_segmentFrom _ _ _, ?_, ?_⟩
  · intro i a b ha hb
    obtain ⟨hi, rfl⟩ := List.getElem?_eq_some_iff.1 ha
    obtain ⟨hj, rfl⟩ := List.getElem?_eq_some_iff.1 hb
    exact List.pairwise_iff_getElem.1 hap.ordered i (i + 1) hi hj (Nat.lt_succ_self i)
  · intro i m hm
    refine ⟨.new i (.ofList m.tiers) m.stop (endOf markers length i), ?_, rfl, rfl, rfl,
      hap.stop_le_endOf hm⟩
    rw [getElem?_segment, hm]
    rfl
  · obtain ⟨ho, hn, -⟩ := markers_eq_ok h
    obtain ⟨first, -, hlm⟩ := topmost_of_opens ho (checkAll_eq_none hn).1
    cases markers with
    | nil => rw [List.forall₂_nil_right_iff.1 hdesc] at hlm; cases hlm
    | cons first rest =>
      have ht := hap.tiles 0
      exact ⟨first, rfl, ht, fun x hlo hhi => ht.existsUnique hlo hhi⟩

/-- The statement `on: name` from `start` on, the name being `width` bytes long. -/
def markerAt (start width : Int) (name : String) : Node :=
  ⟨.labeled "on", "labeled_statement", start, start + 4 + width, none, [],
    [⟨.other, "statement_identifier", start, start + 2, some "label", [], []⟩,
      ⟨.other, "expression_statement", start + 4, start + 4 + width, some "body", [],
        [⟨.identifier name, "identifier", start + 4, start + 4 + width, none, [], []⟩]⟩]⟩

/-- The module `on: client`, then an async function with `on: server` in its body. -/
def sampleModule : Node :=
  ⟨.block, "program", 0, 45, none, [],
    [markerAt 0 6 "client",
      ⟨.function true, "function_declaration", 11, 45, none, ["async", "function"],
        [⟨.identifier "f", "identifier", 26, 27, some "name", [], []⟩,
          ⟨.other, "formal_parameters", 27, 29, some "parameters", [], []⟩,
          ⟨.block, "statement_block", 30, 45, some "body", [], [markerAt 32 6 "server"]⟩]⟩]⟩

def sampleMarkers : List Marker :=
  [⟨[.client], 0, 10, none, [0], [⟨[0, 1, 0], "client", 4, 10⟩]⟩,
    ⟨[.server], 32, 42, some [1], [0, 2, 1], [⟨[0, 1, 0, 2, 1], "server", 36, 42⟩]⟩]

set_option maxRecDepth 4000 in
theorem scan_sampleModule : (scan "on" sampleModule).markers = .ok sampleMarkers := by
  rw [scan_eq_checkAll]
  rfl

theorem sampleModule_tiled :
    alternate sampleMarkers (segment sampleMarkers 45) = [(0, 10), (10, 32), (32, 42), (42, 45)] ∧
    ∃ first, sampleMarkers.head? = some first ∧
      Tiles first.start (alternate sampleMarkers (segment sampleMarkers 45)) 45 ∧
      ∀ x, first.start ≤ x → x < 45 → ∃! i : Nat, ∃ r : Int × Int,
        (alternate sampleMarkers (segment sampleMarkers 45))[i]? = some r ∧ r.1 ≤ x ∧ x < r.2 :=
  ⟨rfl, (markers_and_blocks_tile (by decide) (by decide) scan_sampleModule).2.2.2⟩

end TierSplit.Block

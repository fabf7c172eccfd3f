import TierSplit.Proofs.Partition

/-! Which block owns a piece of the text. The halving search finds the first block that ends at or
after an offset, because the blocks end in order. A piece that touches no marker lies in that block,
and in no other. -/

namespace TierSplit.Block

open Syntax Marker

/-- Everything below `lo` is before the offset, everything from `hi` on is not. -/
structure Brackets (ends : Array Int) (offset : Int) (lo hi : Nat) : Prop where
  le : lo ≤ hi
  le_size : hi ≤ ends.size
  below : ∀ i < lo, ends.getD i 0 < offset
  above : ∀ i, hi ≤ i → i < ends.size → offset ≤ ends.getD i 0

theorem bisect_brackets {ends : Array Int} {offset : Int} {lo hi : Nat}
    (hs : ∀ i j, i ≤ j → j < ends.size → ends.getD i 0 ≤ ends.getD j 0)
    (h : Brackets ends offset lo hi) :
    Brackets ends offset (bisect ends offset lo hi) (bisect ends offset lo hi) := by
  fun_induction bisect ends offset lo hi with
  | case1 lo hi hlt mid hmid ih =>
    refine ih ⟨by omega, h.le_size, fun i hi' => ?_, h.above⟩
    have := hs i mid (by omega) (by have := h.le_size; omega)
    omega
  | case2 lo hi hlt mid hmid ih =>
    refine ih ⟨by omega, by have := h.le_size; omega, h.below, fun i hi' hsize => ?_⟩
    have := hs mid i hi' hsize
    omega
  | case3 lo hi hge =>
    have heq : hi = lo := by have := h.le; omega
    exact heq ▸ h

theorem getD_stops {blocks : List Block} {i : Nat} {b : Block} (hb : blocks[i]? = some b) :
    (blocks.map Block.stop).toArray.getD i 0 = b.stop := by
  simp [Array.getD_eq_getD_getElem?, hb]

theorem ownerIndex_brackets {blocks : List Block} (h : blocks.Pairwise fun a b => a.stop ≤ b.stop)
    (offset : Int) :
    Brackets (blocks.map Block.stop).toArray offset (ownerIndex blocks offset)
      (ownerIndex blocks offset) := by
  have hs : ∀ j k, j ≤ k → k < (blocks.map Block.stop).toArray.size →
      (blocks.map Block.stop).toArray.getD j 0 ≤ (blocks.map Block.stop).toArray.getD k 0 := by
    intro j k hjk hk
    simp only [List.size_toArray, List.length_map] at hk
    rw [getD_stops (List.getElem?_eq_getElem (by omega : j < blocks.length)),
      getD_stops (List.getElem?_eq_getElem hk)]
    rcases Nat.lt_or_eq_of_le hjk with hlt | rfl
    · exact List.pairwise_iff_getElem.1 h j k _ hk hlt
    · exact Int.le_refl _
  exact bisect_brackets hs ⟨Nat.zero_le _, Nat.le_refl _, by simp, by omega⟩

/-- The blocks before the owner's index end before the offset, the others do not. -/
theorem ownerIndex_splits {blocks : List Block} (h : blocks.Pairwise fun a b => a.stop ≤ b.stop)
    (offset : Int) {i : Nat} {b : Block} (hb : blocks[i]? = some b) :
    ownerIndex blocks offset ≤ i ↔ offset ≤ b.stop := by
  have hbr := ownerIndex_brackets h offset
  have hi : i < (blocks.map Block.stop).toArray.size := by
    simpa using (List.getElem?_eq_some_iff.1 hb).1
  rw [← getD_stops hb]
  constructor
  · intro hle
    exact hbr.above i hle hi
  · intro hle
    by_contra hgt
    have := hbr.below i (by omega)
    omega

theorem getElem?_segment_eq_some {markers : List Marker} {length : Int} {i : Nat} {b : Block}
    (h : (segment markers length)[i]? = some b) :
    ∃ m, markers[i]? = some m ∧ b.start = m.stop ∧ b.stop = endOf markers length i := by
  rw [getElem?_segment, Option.map_eq_some_iff] at h
  obtain ⟨m, hm, rfl⟩ := h
  exact ⟨m, hm, rfl, rfl⟩

theorem ordered_segment {markers : List Marker} {length : Int} (h : Apart markers length) {i j : Nat}
    {a b : Block} (ha : (segment markers length)[i]? = some a)
    (hb : (segment markers length)[j]? = some b) (hij : i < j) : a.stop ≤ b.start := by
  obtain ⟨m, hm, -, hstop⟩ := getElem?_segment_eq_some ha
  obtain ⟨k, hk, hstart, -⟩ := getElem?_segment_eq_some hb
  obtain ⟨hj, rfl⟩ := List.getElem?_eq_some_iff.1 hk
  rw [hstop, hstart, endOf, List.getElem?_eq_getElem (by omega : i + 1 < markers.length)]
  change markers[i + 1].start ≤ markers[j].stop
  have hle := h.start_le_stop markers[i + 1] (List.getElem_mem _)
  have hle' := h.start_le_stop markers[j] (List.getElem_mem _)
  rcases Nat.lt_or_eq_of_le hij with hlt | rfl
  · have := List.pairwise_iff_getElem.1 h.ordered (i + 1) j (by omega) hj hlt
    omega
  · exact hle

theorem start_le_stop_segment {markers : List Marker} {length : Int} (h : Apart markers length)
    {i : Nat} {b : Block} (hb : (segment markers length)[i]? = some b) : b.start ≤ b.stop := by
  obtain ⟨m, hm, hstart, hstop⟩ := getElem?_segment_eq_some hb
  rw [hstart, hstop]
  exact h.stop_le_endOf hm

theorem stops_segment {markers : List Marker} {length : Int} (h : Apart markers length) :
    (segment markers length).Pairwise fun a b => a.stop ≤ b.stop := by
  rw [List.pairwise_iff_getElem]
  intro i j hi hj hij
  have hb := List.getElem?_eq_getElem hj
  have := ordered_segment h (List.getElem?_eq_getElem hi) hb hij
  have := start_le_stop_segment h hb
  omega

/-- A stretch of the text behind the first marker that touches no marker. -/
structure Clear (markers : List Marker) (length lo hi : Int) : Prop where
  lt : lo < hi
  le_length : hi ≤ length
  behind : ∃ first, markers.head? = some first ∧ first.stop ≤ lo
  apart : ∀ m ∈ markers, hi ≤ m.start ∨ m.stop ≤ lo

theorem Clear.ownerIndex_lt {markers : List Marker} {length lo hi : Int} (h : Apart markers length)
    (hc : Clear markers length lo hi) :
    ownerIndex (segment markers length) hi < (segment markers length).length := by
  obtain ⟨first, hfirst, -⟩ := hc.behind
  have hpos : 0 < markers.length := by
    cases markers with
    | nil => cases hfirst
    | cons => exact Nat.succ_pos _
  -- the last block ends with the text
  have hlen : (segment markers length).length = markers.length := length_segmentFrom _ _ _
  have hlast : markers.length - 1 < (segment markers length).length := by omega
  have hb := List.getElem?_eq_getElem hlast
  obtain ⟨m, -, -, hstop⟩ := getElem?_segment_eq_some hb
  have hend : endOf markers length (markers.length - 1) = length := by
    rw [endOf, List.getElem?_eq_none (by omega)]
    rfl
  have := (ownerIndex_splits (stops_segment h) hi hb).2 (by rw [hstop, hend]; exact hc.le_length)
  omega

/-- The block the search finds is the one block the stretch lies in. -/
theorem Clear.ownerIndex_eq_iff {markers : List Marker} {length lo hi : Int}
    (h : Apart markers length) (hc : Clear markers length lo hi) {i : Nat} {b : Block}
    (hb : (segment markers length)[i]? = some b) :
    ownerIndex (segment markers length) hi = i ↔ b.start ≤ lo ∧ hi ≤ b.stop := by
  have hsplit : ∀ {j : Nat} {c : Block}, (segment markers length)[j]? = some c →
      (ownerIndex (segment markers length) hi ≤ j ↔ hi ≤ c.stop) :=
    fun hc => ownerIndex_splits (stops_segment h) hi hc
  constructor
  · rintro rfl
    refine ⟨?_, (hsplit hb).1 (Nat.le_refl _)⟩
    obtain ⟨m, hm, hstart, -⟩ := getElem?_segment_eq_some hb
    rw [hstart]
    cases ho : ownerIndex (segment markers length) hi with
    | zero =>
      obtain ⟨first, hfirst, hle⟩ := hc.behind
      rw [ho, ← List.head?_eq_getElem?, hfirst] at hm
      cases hm
      exact hle
    | succ j =>
      -- the block before ends too early, and it ends where the marker starts
      rw [ho] at hm
      obtain ⟨hj, hmj⟩ := List.getElem?_eq_some_iff.1 hm
      have hprev := List.getElem?_eq_getElem
        (by rw [segment, length_segmentFrom]; omega : j < (segment markers length).length)
      obtain ⟨m', -, -, hstop'⟩ := getElem?_segment_eq_some hprev
      rw [endOf, hm] at hstop'
      have hnot := mt (hsplit hprev).2 (by omega)
      rcases hc.apart m (List.mem_of_getElem? hm) with hle | hle
      · rw [hstop'] at hnot
        exact absurd hle hnot
      · exact hle
  · rintro ⟨hlo, hhi⟩
    have hle := (hsplit hb).2 hhi
    rcases Nat.lt_or_eq_of_le hle with hlt | heq
    · have hown := List.getElem?_eq_getElem (hc.ownerIndex_lt h)
      have hfound := (hsplit hown).1 (Nat.le_refl _)
      have := ordered_segment h hown hb hlt
      have := hc.lt
      omega
    · exact heq

/-! ### The first block that ends at or after an offset -/

theorem ownerIndex_eq_findIdx {blocks : List Block} (h : blocks.Pairwise fun a b => a.stop ≤ b.stop)
    (offset : Int) : ownerIndex blocks offset = blocks.findIdx fun b => offset ≤ b.stop := by
  have hsplit : ∀ {i : Nat} (hi : i < blocks.length),
      (ownerIndex blocks offset ≤ i ↔ offset ≤ blocks[i].stop) :=
    fun hi => ownerIndex_splits h offset (List.getElem?_eq_getElem hi)
  have hle : ownerIndex blocks offset ≤ blocks.length := by
    simpa using (ownerIndex_brackets h offset).le_size
  symm
  rcases Nat.lt_or_eq_of_le hle with hlt | heq
  · rw [List.findIdx_eq hlt, decide_eq_true_eq]
    refine ⟨(hsplit hlt).1 (Nat.le_refl _), fun j hj => ?_⟩
    rw [decide_eq_false_iff_not, ← hsplit (by omega : j < blocks.length)]
    omega
  · rw [heq, List.findIdx_eq_length]
    intro b hb
    obtain ⟨i, hi, rfl⟩ := List.getElem_of_mem hb
    rw [decide_eq_false_iff_not, ← hsplit hi]
    omega

/-- Blocks of markers that start in order, none of them behind the text, end in order. -/
theorem stops_segment_of_starts {markers : List Marker} {length : Int}
    (hs : markers.Pairwise fun a b => a.start ≤ b.start) (hl : ∀ m ∈ markers, m.start ≤ length) :
    (segment markers length).Pairwise fun a b => a.stop ≤ b.stop := by
  rw [List.pairwise_iff_getElem]
  intro i j hi hj hij
  obtain ⟨-, -, -, hstop⟩ := getElem?_segment_eq_some (List.getElem?_eq_getElem hi)
  obtain ⟨-, -, -, hstop'⟩ := getElem?_segment_eq_some (List.getElem?_eq_getElem hj)
  rw [segment, length_segmentFrom] at hj
  rw [hstop, hstop', endOf, endOf, List.getElem?_eq_getElem (by omega : i + 1 < markers.length)]
  change markers[i + 1].start ≤ _
  cases hn : markers[j + 1]? with
  | none => exact hl _ (List.getElem_mem _)
  | some next =>
    obtain ⟨hlt, rfl⟩ := List.getElem?_eq_some_iff.1 hn
    exact List.pairwise_iff_getElem.1 hs (i + 1) (j + 1) _ hlt (by omega)

/-- Where blocks end in order, as those of ordered markers do, the search by halving finds the first
block in the list that ends at or after the offset, and none exactly if all of them end before it. -/
theorem search_finds_first :
    (∀ blocks : List Block, (blocks.Pairwise fun a b => a.stop ≤ b.stop) → ∀ offset : Int,
      ownerIndex blocks offset = blocks.findIdx (fun b => offset ≤ b.stop) ∧
      owner? blocks offset = blocks.find? (fun b => offset ≤ b.stop) ∧
      (owner? blocks offset = none ↔ ∀ b ∈ blocks, b.stop < offset)) ∧
    ∀ (markers : List Marker) (length : Int), (markers.Pairwise fun a b => a.start ≤ b.start) →
      (∀ m ∈ markers, m.start ≤ length) →
      (segment markers length).Pairwise fun a b => a.stop ≤ b.stop := by
  refine ⟨fun blocks h offset => ?_, fun markers length => stops_segment_of_starts⟩
  have hindex := ownerIndex_eq_findIdx h offset
  have howner : owner? blocks offset = blocks.find? fun b => offset ≤ b.stop := by
    rw [owner?, hindex, List.find?_eq_getElem?_findIdx]
  refine ⟨hindex, howner, ?_⟩
  rw [howner, List.find?_eq_none]
  simp only [decide_eq_true_eq, Int.not_le]

/-- Two markers of no width, so that blocks end at one place, at 20 and at 40. -/
def abuttingMarkers : List Marker :=
  [⟨[.client], 0, 10, none, [0], []⟩, ⟨[.server], 20, 20, none, [1], []⟩,
    ⟨[.client], 20, 30, none, [2], []⟩, ⟨[.server], 40, 40, none, [3], []⟩]

theorem abuttingMarkers_searched :
    ((segment abuttingMarkers 40).map fun b => (b.start, b.stop)) =
      [(10, 20), (20, 20), (30, 40), (40, 40)] ∧
    ownerIndex (segment abuttingMarkers 40) 20 = 0 ∧ ownerIndex (segment abuttingMarkers 40) 21 = 2 ∧
    owner? (segment abuttingMarkers 40) 40 = (segment abuttingMarkers 40)[2]? ∧
    owner? (segment abuttingMarkers 40) 41 = none := by
  have h := search_finds_first.2 abuttingMarkers 40 (by decide) (by decide)
  have hfirst := search_finds_first.1 (segment abuttingMarkers 40) h
  exact ⟨by decide, (hfirst 20).1.trans (by decide), (hfirst 21).1.trans (by decide),
    (hfirst 40).2.1.trans (by decide), (hfirst 41).2.2.2 (by decide)⟩

end TierSplit.Block

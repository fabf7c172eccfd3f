import TierSplit.Proofs.Failures

/-! The text is kept. The start of a module up to the end of its first marker, then the blocks with the
markers between them: put together, these pieces are the text, and each server fragment holds one of
them unchanged. -/

namespace TierSplit

open Syntax Source

/-- The spans of markers and blocks in turn. -/
def turns (markers : List Marker) (blocks : List Summary) : List (Int × Int) :=
  (markers.zip blocks).flatMap fun (m, b) => [(m.start, m.stop), (b.start, b.stop)]

/-- Markers and blocks in turn, the first of them together with the text before it. -/
def pieces (markers : List Marker) (blocks : List Summary) : List (Int × Int) :=
  (turns markers blocks).modifyHead fun span => (0, span.2)

namespace Block

/-- Where the ranges of a tiled stretch can all be cut out, they make up the stretch. -/
theorem Tiles.slice_join {bytes : ByteArray} {lo hi : Int} {ranges : List (Int × Int)}
    (h : Tiles lo ranges hi) (hlo : 0 ≤ lo) {texts : List String}
    (ht : List.Forall₂ (fun r t => slice bytes r.1 r.2 = .ok t) ranges texts) :
    lo ≤ hi ∧ slice bytes lo hi = .ok (String.join texts) := by
  induction ranges generalizing lo texts with
  | nil =>
    cases ht
    obtain rfl : lo = hi := h
    exact ⟨Int.le_refl _, slice_self bytes _⟩
  | cons r rest ih =>
    obtain ⟨rfl, hle, hrest⟩ := h
    cases ht with
    | cons hfirst hothers =>
      obtain ⟨hge, hjoin⟩ := ih hrest (by omega) hothers
      rw [String.join_cons]
      exact ⟨by omega, slice_append hlo hle hge hfirst hjoin⟩

def span (b : Block) : Int × Int := (b.start, b.stop)

theorem turns_eq_alternate {later blocks : List Block} (h : later.map span = blocks.map span)
    (markers : List Marker) :
    turns markers (later.map Summary.ofBlock) = alternate markers blocks := by
  unfold turns
  fun_induction alternate markers blocks generalizing later with
  | case1 m ms b bs ih =>
    cases later with
    | nil => cases h
    | cons c cs =>
      simp only [List.map_cons, List.cons.injEq, span, Prod.mk.injEq] at h
      simp only [List.map_cons, List.zip_cons_cons, List.flatMap_cons, ih h.2, Summary.ofBlock, h.1]
      rfl
  | case2 markers blocks hne =>
    cases markers with
    | nil => rfl
    | cons m ms =>
      cases blocks with
      | nil => rw [List.map_eq_nil_iff.1 h]; rfl
      | cons b bs => exact absurd rfl (hne m ms b bs rfl)

section

variable {markers : List Marker} {length : Int} {later : List Block}
  (hspans : later.map span = (segment markers length).map span)
include hspans

/-- Blocks that cover what a module is cut into lie in order and apart. -/
theorem apart_of_spans (h : Apart markers length) :
    (∀ b ∈ later, b.start ≤ b.stop) ∧ later.Pairwise fun a b => a.stop ≤ b.start := by
  constructor
  · intro b hb
    have hspan := List.mem_map_of_mem (f := span) hb
    rw [hspans] at hspan
    obtain ⟨c, hc, heq⟩ := List.mem_map.1 hspan
    obtain ⟨i, hi⟩ := List.getElem?_of_mem hc
    have hle := start_le_stop_segment h hi
    rw [span, span, Prod.mk.injEq] at heq
    rwa [heq.1, heq.2] at hle
  · have hsegment : (segment markers length).Pairwise fun a b => a.stop ≤ b.start := by
      rw [List.pairwise_iff_getElem]
      intro i j hi hj hij
      exact ordered_segment h (List.getElem?_eq_getElem hi) (List.getElem?_eq_getElem hj) hij
    have hpairs : ((segment markers length).map span).Pairwise fun p q => p.2 ≤ q.1 :=
      List.pairwise_map.2 hsegment
    rw [← hspans] at hpairs
    exact List.pairwise_map.1 hpairs

/-- A scanned module has a first marker, and markers and blocks tile the text from there on. -/
theorem exists_turns_tile {label : String} {program : Node}
    (hdesc : List.Forall₂ Marker.Describes (Marker.topmost label program) markers)
    (hscan : (Marker.scan label program).markers = .ok markers) (h : Apart markers length) :
    ∃ first ∈ markers, turns markers (later.map Summary.ofBlock) ≠ [] ∧
      Tiles first.start (turns markers (later.map Summary.ofBlock)) length := by
  rw [turns_eq_alternate hspans]
  cases markers with
  | nil =>
    -- a module opens with a marker
    obtain ⟨ho, hn, -⟩ := Marker.markers_eq_ok hscan
    obtain ⟨first, -, hfirst⟩ := Marker.topmost_of_opens ho (Marker.checkAll_eq_none hn).1
    rw [List.forall₂_nil_right_iff.1 hdesc] at hfirst
    cases hfirst
  | cons first rest =>
    refine ⟨first, List.mem_cons_self, ?_, h.tiles 0⟩
    cases rest <;> exact List.cons_ne_nil _ _

end

end Block

theorem mem_turns {markers : List Marker} {blocks : List Summary} {r : Int × Int}
    (h : r ∈ turns markers blocks) :
    (∃ m ∈ markers, r = (m.start, m.stop)) ∨ ∃ b ∈ blocks, r = (b.start, b.stop) := by
  unfold turns at h
  obtain ⟨⟨m, b⟩, hzip, hr⟩ := List.mem_flatMap.1 h
  obtain ⟨hm, hb⟩ := List.of_mem_zip hzip
  simp only [List.mem_cons, List.not_mem_nil, or_false] at hr
  rcases hr with rfl | rfl
  · exact .inl ⟨m, hm, rfl⟩
  · exact .inr ⟨b, hb, rfl⟩

theorem Summary.filter_server (later : List Block) :
    (later.map Summary.ofBlock).filter (fun b => .server ∈ b.tiers) =
      (later.filter Block.isServer).map Summary.ofBlock := by
  rw [List.filter_map]
  refine congrArg _ (List.filter_congr fun x _ => ?_)
  rw [Function.comp_apply, Bool.eq_iff_iff, decide_eq_true_iff]
  exact TierSet.mem_toList x.tiers .server

section

variable {text : String} {markers : List Marker} {blocks : List Summary}
  (hm : ∀ m ∈ markers, Boundary text m.start ∧ Boundary text m.stop)
  (hb : ∀ b ∈ blocks, Boundary text b.start ∧ Boundary text b.stop)
include hm hb

theorem bounds_of_pieces {r : Int × Int} (hr : r ∈ pieces markers blocks) :
    Boundary text r.1 ∧ Boundary text r.2 := by
  have hturns : ∀ r ∈ turns markers blocks, Boundary text r.1 ∧ Boundary text r.2 := by
    intro r hr
    rcases mem_turns hr with ⟨m, hmem, rfl⟩ | ⟨b, hmem, rfl⟩
    · exact hm m hmem
    · exact hb b hmem
  unfold pieces at hr
  cases hlist : turns markers blocks with
  | nil => rw [hlist] at hr; cases hr
  | cons first rest =>
    rw [hlist] at hr hturns
    rcases List.mem_cons.1 hr with rfl | hr
    · exact ⟨boundary_zero text, (hturns first List.mem_cons_self).2⟩
    · exact hturns r (List.mem_cons_of_mem first hr)

theorem exists_texts {lo : Int} (ht : Block.Tiles lo (turns markers blocks) text.utf8ByteSize)
    (hlo : 0 ≤ lo) (hne : turns markers blocks ≠ []) :
    ∃ texts, (pieces markers blocks).mapM (fun r => slice text.toUTF8 r.1 r.2) = .ok texts ∧
      String.join texts = text := by
  obtain ⟨texts, htexts⟩ : ∃ texts,
      (pieces markers blocks).mapM (fun r => slice text.toUTF8 r.1 r.2) = .ok texts := by
    apply exists_mapM_eq_ok
    intro r hr
    obtain ⟨hstart, hstop⟩ := bounds_of_pieces hm hb hr
    exact hstart.exists_slice hstop
  have htiles : Block.Tiles 0 (pieces markers blocks) text.utf8ByteSize := by
    unfold pieces
    cases hlist : turns markers blocks with
    | nil => exact absurd hlist hne
    | cons first rest =>
      rw [hlist] at ht
      obtain ⟨rfl, hle, hrest⟩ := ht
      exact ⟨rfl, Int.le_trans hlo hle, hrest⟩
  have hjoin := (htiles.slice_join (Int.le_refl 0) (mapM_eq_ok_iff.1 htexts)).2
  rw [slice_whole] at hjoin
  exact ⟨texts, htexts, (Except.ok.inj hjoin).symm⟩

end

namespace Compiler

/-- Characters of two and three bytes right before and behind the markers. -/
def accentText : String := "on:client;é;\u3000on:server;ö"

def accentTree : Concrete.Node :=
  nodeAt "program" 0 28 none
    [sampleMarker 0,
      nodeAt "expression_statement" 10 13 none [nodeAt "identifier" 10 12 none []],
      sampleMarker 16,
      nodeAt "expression_statement" 26 28 none [nodeAt "identifier" 26 28 none []]]

def accentProgram : Node := (Concrete.toSyntax accentText.toUTF8 accentTree).toOption.getD default

theorem toSyntax_accentTree : Concrete.toSyntax accentText.toUTF8 accentTree = .ok accentProgram :=
  eq_ok_getD (by decide +kernel)

def accentBlocks : List Summary :=
  [⟨0, [.client], 10, 16, false, [], []⟩, ⟨1, [.server], 26, 28, false, [], []⟩]

end Compiler

end TierSplit

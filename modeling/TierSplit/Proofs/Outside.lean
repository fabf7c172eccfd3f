import TierSplit.Proofs.Containment
import TierSplit.Proofs.Tokens

/-! What lies outside the markers. Declarations do, and so do all uses but the tier tokens; so each of
them has a block that owns it. -/

namespace TierSplit

open Syntax Concrete Scope

/-- The position of a token of a topmost marker. -/
def TierToken (label : String) (program : Syntax.Node) (o : Occurrence) : Prop :=
  ∃ k ∈ Marker.topmost label program, ∃ tokens, Payload.Spelled k.site tokens ∧
    ∃ t ∈ tokens, t.path = o.path

section

variable {label : String} {program : Syntax.Node} {length : Int} {markers : List Marker}
  (hw : program.Everywhere (WellFormed length)) (hf : program.Everywhere Fits)
  (hscan : (Marker.scan label program).markers = .ok markers)
include hw

theorem everywhere_ordered : program.Everywhere Node.Ordered := fun s hs => (hw s hs).ordered

include hscan

theorem scan_describes :
    List.Forall₂ Marker.Describes (Marker.topmost label program) markers ∧
      Block.Apart markers length :=
  Block.scan_apart (everywhere_ordered hw) hw.here.stop_le hscan

omit hw hscan in
theorem not_identifier_of_topmost {k : Lineage} (hk : k ∈ Marker.topmost label program) :
    k.site.node.isIdentifier = false := by
  unfold Node.isIdentifier
  rw [Marker.role_of_isMarker (Marker.mem_topmost hk).2]

/-- An identifier with no marker above it touches no marker, and stands behind the first one. -/
theorem clear_of_outside {l : Lineage} (hl : l ∈ program.lineages [] [])
    (hid : l.site.node.isIdentifier = true)
    (hout : ∀ k ∈ Marker.topmost label program, k.site ∉ l.ancestors) :
    Block.Clear markers length l.site.node.start l.site.node.stop := by
  obtain ⟨hpos, hleaf⟩ := (hw.site (Lineage.site_mem hl)).here.identifier hid
  have hroot : l.site ≠ Site.root program := by
    intro heq
    obtain ⟨first, hfirst, -⟩ := (Marker.opens_iff label program).1 (Marker.markers_eq_ok hscan).1
    rw [heq, Site.root] at hleaf
    rw [hleaf] at hfirst
    cases hfirst
  refine Block.clear_of_apart (everywhere_ordered hw) hw.here.stop_le hscan hl hroot hpos ?_
  intro k hk
  have hne : l.site ≠ k.site := by
    intro heq
    rw [heq, not_identifier_of_topmost hk] at hid
    cases hid
  refine ⟨?_, ?_⟩
  · rintro (heq | hmem)
    · exact hne heq
    · exact hout k hk hmem
  · rintro (heq | hmem)
    · exact hne heq.symm
    · -- an identifier has nothing below it
      rcases mem_sites_of_mem_ancestors (Marker.mem_topmost hk).1 hmem with h | ⟨-, h⟩
      · cases h
      · exact h hleaf

/-! ### Uses and declarations -/

include hf

theorem topmost_spelled {k : Lineage} (hk : k ∈ Marker.topmost label program) :
    ∃ tokens, Payload.Spelled k.site tokens ∧ k.site.node.kind = "labeled_statement" ∧
      k.site.node.Everywhere (WellFormed length) ∧ k.site.node.Everywhere Fits := by
  obtain ⟨m, -, hkm⟩ := exists_of_mem_right (scan_describes hw hscan).1.flip hk
  obtain ⟨tokens, hs, -⟩ := hkm.tokens
  obtain ⟨hkl, hm⟩ := Marker.mem_topmost hk
  have hfk := hf.site (Lineage.site_mem hkl)
  exact ⟨tokens, hs, hfk.here.labeled label (Marker.role_of_isMarker hm),
    hw.site (Lineage.site_mem hkl), hfk⟩

theorem clear_of_declared {hoisted : Bool} {o : Occurrence}
    (h : Stems program (.bind hoisted o) o) : Block.Clear markers length o.start o.stop := by
  obtain ⟨l, hl, ho, hanc⟩ := h
  obtain ⟨hid, -, hstart, hstop⟩ := Site.eq_of_occurrence? ho
  rw [hstart, hstop]
  refine clear_of_outside hw hscan hl hid fun k hk hmem => ?_
  -- a marker above the declaration would have to contribute it
  obtain ⟨tokens, hs, hkind, hwk, hfk⟩ := topmost_spelled hw hf hscan hk
  rcases hanc _ hmem with hroot | ⟨duty, hduty⟩
  · have hm := (Marker.mem_topmost hk).2
    have hnot : Marker.isMarker label (Site.root program).node = false :=
      Marker.root_not_marker hscan
    rw [hroot, hnot] at hm
    cases hm
  · obtain ⟨o', ho'⟩ := Payload.unbound_marker hkind hwk hfk hs duty _ hduty
    cases ho'

theorem clear_of_used {o : Occurrence} (h : Stems program (.use o) o)
    (htoken : ¬TierToken label program o) : Block.Clear markers length o.start o.stop := by
  obtain ⟨l, hl, ho, -⟩ := h
  obtain ⟨hid, hpath, hstart, hstop⟩ := Site.eq_of_occurrence? ho
  rw [hstart, hstop]
  refine clear_of_outside hw hscan hl hid fun k hk hmem => ?_
  -- an identifier below a marker is a token
  obtain ⟨tokens, hs, hkind, hwk, hfk⟩ := topmost_spelled hw hf hscan hk
  rcases mem_sites_of_mem_ancestors hl hmem with h | ⟨hsite, -⟩
  · cases h
  · exact htoken ⟨k, hk, tokens, hs, l.site, Payload.mem_tokens hkind hwk hfk hs hsite hid,
      hpath.symm⟩

end

end TierSplit

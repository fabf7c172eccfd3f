import TierSplit.Proofs.Related
import TierSplit.Proofs.Scan

/-! The markers of a module. A scan succeeds exactly if the module opens with a marker and every
topmost marker is accepted; it then yields one marker for each of them, sorted by start offset.
Otherwise the diagnostic is about the opening, or about the first marker that is not accepted. -/

namespace TierSplit.Marker

open Syntax

/-- Validation reaches the first marker that is not accepted, or the end. -/
theorem checkAll_splits (ls : List Lineage) :
    ∃ validated rest, ls = validated ++ rest ∧ (∀ l ∈ validated, Accepted l) ∧
      List.Forall₂ Describes validated (checkAll ls).1 ∧
      match rest with
      | [] => (checkAll ls).2 = none
      | l :: _ => ∃ d, Rejected l d ∧ (checkAll ls).2 = some d := by
  induction ls with
  | nil => exact ⟨[], [], rfl, by simp, .nil, rfl⟩
  | cons l rest ih =>
    rw [checkAll]
    cases hc : check l with
    | error d => exact ⟨[], l :: rest, rfl, by simp, .nil, d, check_eq_error hc, rfl⟩
    | ok m =>
      obtain ⟨validated, after, rfl, haccepted, hdescribes, hstop⟩ := ih
      obtain ⟨ha, hd⟩ := check_eq_ok hc
      exact ⟨l :: validated, after, rfl, List.forall_mem_cons.2 ⟨ha, haccepted⟩,
        .cons hd hdescribes, hstop⟩

theorem checkAll_eq_none {ls : List Lineage} (h : (checkAll ls).2 = none) :
    (∀ l ∈ ls, Accepted l) ∧ List.Forall₂ Describes ls (checkAll ls).1 := by
  obtain ⟨validated, rest, hsplit, haccepted, hdescribes, hstop⟩ := checkAll_splits ls
  cases rest with
  | nil =>
    rw [List.append_nil] at hsplit
    subst hsplit
    exact ⟨haccepted, hdescribes⟩
  | cons l after =>
    obtain ⟨d, -, hd⟩ := hstop
    rw [h] at hd
    cases hd

theorem checkAll_eq_some {ls : List Lineage} {d : Diagnostic} (h : (checkAll ls).2 = some d) :
    ∃ before l after, ls = before ++ l :: after ∧ (∀ k ∈ before, Accepted k) ∧ Rejected l d := by
  obtain ⟨before, rest, hsplit, haccepted, -, hstop⟩ := checkAll_splits ls
  cases rest with
  | nil =>
    rw [h] at hstop
    cases hstop
  | cons l after =>
    obtain ⟨e, hrejected, he⟩ := hstop
    rw [h] at he
    cases he
    exact ⟨before, l, after, hsplit, haccepted, hrejected⟩

/-- A marker that a scan finds, also one that fails later, describes one of the topmost. -/
theorem describes_of_mem_found {label : String} {program : Node} {m : Marker}
    (h : m ∈ (scan label program).found) : ∃ l ∈ topmost label program, Describes l m := by
  rw [scan_eq_checkAll] at h
  split at h
  · obtain ⟨validated, rest, hsplit, -, hdescribes, -⟩ := checkAll_splits (topmost label program)
    obtain ⟨l, hl, hlm⟩ := exists_of_mem_right hdescribes h
    exact ⟨l, hsplit ▸ List.mem_append_left rest hl, hlm⟩
  · cases h

/-! ### The opening -/

theorem eq_or_deeper {n : Node} {ancestors : List Site} {path : Path} {l : Lineage}
    (h : l ∈ n.lineages ancestors path) :
    l.site = ⟨path, n⟩ ∨ path.length < l.site.path.length := by
  induction n using Node.childInduction generalizing ancestors path with
  | step n ih =>
    rw [Node.lineages_eq, List.mem_cons, List.mem_flatMap] at h
    rcases h with rfl | ⟨t, ht, h⟩
    · exact Or.inl rfl
    · obtain ⟨i, -, hp⟩ := Site.mem_children.1 ht
      right
      rcases ih _ (Site.node_mem_of_mem_children ht) h with he | hlt
      · rw [he]; simp [hp]
      · simp only [hp, List.length_cons] at hlt
        omega

theorem opens_iff (label : String) (program : Node) :
    opens label program = true ↔
      ∃ first, program.children[0]? = some first ∧ isMarker label first = true := by
  unfold opens
  cases program.children <;> simp

theorem opens_of_topmost {label : String} {program : Node}
    (h : ∃ l ∈ topmost label program, l.site.path = [0]) : opens label program = true := by
  obtain ⟨l, hl, hpath⟩ := h
  obtain ⟨hmem, hm⟩ := mem_topmost hl
  rw [Node.lineages_eq, List.mem_cons, List.mem_flatMap] at hmem
  rcases hmem with rfl | ⟨t, ht, hmem⟩
  · cases hpath
  · obtain ⟨i, hi, hp⟩ := Site.mem_children.1 ht
    rcases eq_or_deeper hmem with he | hlt
    · rw [he] at hpath hm
      rw [hp] at hpath
      cases hpath
      exact (opens_iff label program).2 ⟨t.node, hi, hm⟩
    · rw [hpath, hp] at hlt
      simp at hlt

theorem not_isMarker_root {label : String} {program : Node}
    (h : ∀ l ∈ topmost label program, Accepted l) : isMarker label program = false := by
  by_contra hm
  rw [Bool.not_eq_false] at hm
  have hroot : topmost label program = [⟨[], ⟨[], program⟩⟩] :=
    filter_topmost_marker (by simp) hm []
  obtain ⟨parent, hparent, -⟩ := (h ⟨[], ⟨[], program⟩⟩ (by simp [hroot])).atHome
  cases hparent

theorem topmost_of_opens {label : String} {program : Node} (ho : opens label program = true)
    (h : ∀ l ∈ topmost label program, Accepted l) :
    ∃ first, program.children[0]? = some first ∧
      (⟨[⟨[], program⟩], ⟨[0], first⟩⟩ : Lineage) ∈ topmost label program := by
  obtain ⟨first, hf, hm⟩ := (opens_iff label program).1 ho
  have hchild : (⟨[0], first⟩ : Site) ∈ (Site.mk [] program).children :=
    Site.mem_children.2 ⟨0, hf, rfl⟩
  refine ⟨first, hf, List.mem_filter.2 ⟨?_, ?_⟩⟩
  · rw [Node.lineages_eq]
    refine List.mem_cons_of_mem _ (List.mem_flatMap_of_mem hchild ?_)
    rw [Node.lineages_eq]
    exact List.mem_cons_self
  · simp [isTopmost, hm, not_isMarker_root h]

theorem markers_eq_ok {label : String} {program : Node} {markers : List Marker}
    (h : (scan label program).markers = .ok markers) :
    opens label program = true ∧ (checkAll (topmost label program)).2 = none ∧
      markers = sortBy (fun a b => a.start ≤ b.start) (checkAll (topmost label program)).1 := by
  rw [scan_eq_checkAll] at h
  unfold Scan.markers at h
  split at h
  · cases h
  · next he =>
    cases ho : opens label program with
    | false => rw [ho] at he; cases he
    | true =>
      rw [ho] at he h
      cases h
      exact ⟨rfl, he, rfl⟩

theorem root_not_marker {label : String} {program : Node} {markers : List Marker}
    (h : (scan label program).markers = .ok markers) : isMarker label program = false :=
  not_isMarker_root (checkAll_eq_none (markers_eq_ok h).2.1).1

/-- A scan accepts exactly the modules that open with a marker and of which every topmost marker is
accepted. It yields them in order of their start offsets, or reports the first violation. -/
theorem scan_accepts_exactly (label : String) (program : Node) :
    ((∃ markers, (scan label program).markers = .ok markers) ↔
      (∃ l ∈ topmost label program, l.site.path = [0]) ∧
        ∀ l ∈ topmost label program, Accepted l) ∧
    (∀ markers, (scan label program).markers = .ok markers →
      ∃ found, List.Forall₂ Describes (topmost label program) found ∧
        StablySorted Marker.start found markers) ∧
    (∀ d, (scan label program).markers = .error d →
      (opens label program = false ∧ d = .unopened label ∧ d.report.category = .structural) ∨
      (opens label program = true ∧ ∃ before l after, topmost label program = before ++ l :: after ∧
        (∀ k ∈ before, Accepted k) ∧ Rejected l d ∧
        ((¬ InAsync l ∧ d.report.category = .placement) ∨
          (InAsync l ∧ ¬ AtHome l ∧ d.report.category = .structural) ∨
          (InAsync l ∧ AtHome l ∧ ¬ NamesTiers l ∧ d.report.category = .shape)))) := by
  refine ⟨⟨?_, ?_⟩, ?_, ?_⟩
  · rintro ⟨markers, h⟩
    obtain ⟨ho, hn, -⟩ := markers_eq_ok h
    have hacc := (checkAll_eq_none hn).1
    obtain ⟨first, -, hfirst⟩ := topmost_of_opens ho hacc
    exact ⟨⟨_, hfirst, rfl⟩, hacc⟩
  · rintro ⟨hfirst, hacc⟩
    rw [scan_eq_checkAll, if_pos (opens_of_topmost hfirst)]
    cases hc : (checkAll (topmost label program)).2 with
    | none => exact ⟨_, rfl⟩
    | some d =>
      obtain ⟨before, l, after, hl, -, hrej⟩ := checkAll_eq_some hc
      exact absurd (hacc l (by simp [hl])) hrej.not_accepted
  · intro markers h
    obtain ⟨-, hn, rfl⟩ := markers_eq_ok h
    exact ⟨_, (checkAll_eq_none hn).2, sortBy_stablySorted Marker.start _⟩
  · intro d h
    rw [scan_eq_checkAll] at h
    unfold Scan.markers at h
    cases ho : opens label program with
    | false => rw [ho] at h; cases h; exact Or.inl ⟨rfl, rfl, rfl⟩
    | true =>
      rw [ho] at h
      right
      cases hc : (checkAll (topmost label program)).2 with
      | none => simp [hc] at h
      | some e =>
        simp only [if_true, hc] at h
        cases h
        obtain ⟨before, l, after, hl, hacc, hrej⟩ := checkAll_eq_some hc
        exact ⟨rfl, before, l, after, hl, hacc, hrej, hrej.category⟩

end TierSplit.Marker

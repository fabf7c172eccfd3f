import TierSplit.Proofs.Placement
import TierSplit.Proofs.Walk

/-! The scan validates, in order, the markers that have no marker above them. While it walks, the
functions entered and not left are the functions among the ancestors, and they are all left in the
end. So it finds every such marker, or stops at the first that is not accepted. -/

namespace TierSplit.Marker

open Syntax

/-- A marker with no marker above it. -/
def isTopmost (label : String) (l : Lineage) : Bool :=
  isMarker label l.site.node && l.ancestors.all fun a => !isMarker label a.node

/-- The markers with no marker above them, parents before children, children left to right. -/
def topmost (label : String) (program : Node) : List Lineage :=
  (program.lineages [] []).filter (isTopmost label)

theorem role_of_isMarker {label : String} {n : Node} (hm : isMarker label n = true) :
    n.role = .labeled label := by
  unfold isMarker at hm
  split at hm
  · next l hr => rw [hr, eq_of_beq hm]
  · cases hm

theorem mem_topmost {label : String} {program : Node} {l : Lineage}
    (h : l ∈ topmost label program) :
    l ∈ program.lineages [] [] ∧ isMarker label l.site.node = true := by
  obtain ⟨hl, htop⟩ := List.mem_filter.1 h
  exact ⟨hl, (Bool.and_eq_true_iff.1 htop).1⟩

def checkAll : List Lineage → List Marker × Option Diagnostic
  | [] => ([], none)
  | l :: rest =>
    match check l with
    | .error d => ([], some d)
    | .ok m => (m :: (checkAll rest).1, (checkAll rest).2)

theorem checkAll_append (a b : List Lineage) :
    checkAll (a ++ b) =
      match (checkAll a).2 with
      | some d => ((checkAll a).1, some d)
      | none => ((checkAll a).1 ++ (checkAll b).1, (checkAll b).2) := by
  induction a with
  | nil => rfl
  | cons l rest ih =>
    simp only [List.cons_append, checkAll]
    cases check l with
    | error d => rfl
    | ok m =>
      simp only [ih]
      cases (checkAll rest).2 <;> rfl

/-! ### Below a marker nothing is looked at -/

theorem filter_topmost_below {label : String} {a : Site} {ancestors : List Site} (ha : a ∈ ancestors)
    (hm : isMarker label a.node = true) (n : Node) (path : Path) :
    (n.lineages ancestors path).filter (isTopmost label) = [] := by
  rw [List.filter_eq_nil_iff]
  intro l hl ht
  unfold isTopmost at ht
  rw [Bool.and_eq_true, List.all_eq_true] at ht
  have := ht.2 a (ancestors_subset hl ha)
  simp [hm] at this

theorem filter_topmost_marker {label : String} {ancestors : List Site}
    (hn : ∀ a ∈ ancestors, isMarker label a.node = false) {n : Node}
    (hm : isMarker label n = true) (path : Path) :
    (n.lineages ancestors path).filter (isTopmost label) = [⟨ancestors, ⟨path, n⟩⟩] := by
  rw [Node.lineages_eq, List.filter_cons_of_pos, List.filter_flatMap]
  · congr 1
    refine List.flatMap_eq_nil_iff.2 fun t _ => ?_
    exact filter_topmost_below (a := ⟨path, n⟩) (by simp) hm _ _
  · simpa [isTopmost, hm] using hn

theorem filter_topmost_other {label : String} {n : Node} (hm : isMarker label n = false)
    (ancestors : List Site) (path : Path) :
    (n.lineages ancestors path).filter (isTopmost label) =
      (lineagesFrom (ancestors ++ [⟨path, n⟩]) path 0 n.children).filter (isTopmost label) := by
  rw [Node.lineages_eq, List.filter_cons_of_neg, lineagesFrom_eq]
  · rfl
  · simp [isTopmost, hm]

/-! ### One call -/

theorem isFunction_of_isMarker {label : String} {n : Node} (hm : isMarker label n = true) :
    n.isFunction = false := by
  unfold Node.isFunction
  rw [role_of_isMarker hm]

theorem enter_marker {label : String} {site : Site} (hm : isMarker label site.node = true)
    (ancestors : List Site) (p : Progress) :
    (enter label ancestors site).run.run p =
      match validate p.functions.head? ancestors.getLast? site with
      | .ok m => (.ok .skip, { p with found := m :: p.found })
      | .error d => (.error d, p) := by
  unfold enter
  rw [isFunction_of_isMarker hm, if_neg Bool.false_ne_true, if_pos hm]
  simp only [run_bind]
  change (match validate p.functions.head? ancestors.getLast? site with
    | .ok m => _ | .error d => _ : ScanM Choice).run.run p = _
  cases validate p.functions.head? ancestors.getLast? site <;> rfl

/-- The functions entered and not left once a site is entered too. -/
def pushed (site : Site) (functions : List Site) : List Site :=
  if site.node.isFunction then site :: functions else functions

theorem enter_other {label : String} {site : Site} (hm : isMarker label site.node = false)
    (ancestors : List Site) (p : Progress) :
    (enter label ancestors site).run.run p =
      (.ok .descend, { p with functions := pushed site p.functions }) := by
  unfold enter pushed
  cases site.node.isFunction <;> simp only [hm] <;> rfl

theorem leave_run (ancestors : List Site) (site : Site) (p : Progress) :
    (leave ancestors site).run.run p = (.ok (),
      match p.functions with
      | f :: rest => if f.path == site.path then { p with functions := rest } else p
      | [] => p) := rfl

theorem leave_pushed (ancestors : List Site) {site : Site} {functions : List Site}
    (h : ∀ f ∈ functions, f.path ≠ site.path) (found : List Marker) :
    (leave ancestors site).run.run ⟨found, pushed site functions⟩ = (.ok (), ⟨found, functions⟩) := by
  rw [leave_run]
  unfold pushed
  cases hf : site.node.isFunction with
  | true => simp
  | false =>
    cases functions with
    | nil => rfl
    | cons f rest => simp [h f List.mem_cons_self]

theorem leave_marker (ancestors : List Site) {label : String} {site : Site}
    (hm : isMarker label site.node = true) {functions : List Site}
    (h : ∀ f ∈ functions, f.path ≠ site.path) (found : List Marker) :
    (leave ancestors site).run.run ⟨found, functions⟩ = (.ok (), ⟨found, functions⟩) := by
  have hp := leave_pushed ancestors h found
  rwa [pushed, isFunction_of_isMarker hm, if_neg Bool.false_ne_true] at hp

/-! ### The whole walk -/

/-- What a part of the walk does that meets these markers: it adds them and leaves every function it
entered, or it ends with the diagnostic of one of them. -/
def Follows (x : ScanM Unit) (p : Progress) (ls : List Lineage) : Prop :=
  match (checkAll ls).2 with
  | none => x.run.run p = (.ok (), ⟨(checkAll ls).1.reverse ++ p.found, p.functions⟩)
  | some d => ∃ functions, x.run.run p = (.error d, ⟨(checkAll ls).1.reverse ++ p.found, functions⟩)

theorem Follows.bind {x y : ScanM Unit} {p : Progress} {a b : List Lineage} (hx : Follows x p a)
    (hy : ∀ q, q.functions = p.functions → Follows y q b) : Follows (x >>= fun _ => y) p (a ++ b) := by
  unfold Follows at hx ⊢
  rw [checkAll_append]
  cases ha : (checkAll a).2 with
  | some d =>
    rw [ha] at hx
    obtain ⟨functions, hx⟩ := hx
    exact ⟨functions, by rw [run_bind, hx]⟩
  | none =>
    rw [ha] at hx
    have hb := hy ⟨(checkAll a).1.reverse ++ p.found, p.functions⟩ rfl
    unfold Follows at hb
    cases hd : (checkAll b).2 with
    | none =>
      rw [hd] at hb
      simp only [run_bind, hx, hb, List.reverse_append, List.append_assoc]
    | some d =>
      rw [hd] at hb
      obtain ⟨functions, hb⟩ := hb
      refine ⟨functions, ?_⟩
      simp only [run_bind, hx, hb, List.reverse_append, List.append_assoc]

theorem pushed_filter (ancestors : List Site) (site : Site) :
    pushed site (ancestors.filter (·.node.isFunction)).reverse =
      ((ancestors ++ [site]).filter (·.node.isFunction)).reverse := by
  unfold pushed
  rw [List.filter_append]
  cases hf : site.node.isFunction <;> simp [hf]

theorem head?_functions (ancestors : List Site) :
    (ancestors.filter (·.node.isFunction)).reverse.head? = innermostFunction ancestors := by
  rw [← List.filter_reverse, List.head?_filter]
  rfl

/-- Where the functions entered and not left are those among the ancestors, no marker is an
ancestor, and every ancestor lies higher than `depth`. -/
structure Inside (label : String) (ancestors : List Site) (depth : Nat) (p : Progress) : Prop where
  functions : p.functions = (ancestors.filter (·.node.isFunction)).reverse
  noMarker : ∀ a ∈ ancestors, isMarker label a.node = false
  above : ∀ a ∈ ancestors, a.path.length < depth

theorem Inside.ne_path {label : String} {ancestors : List Site} {path : Path} {p : Progress}
    (h : Inside label ancestors path.length p) : ∀ f ∈ p.functions, f.path ≠ path := by
  intro f hf heq
  rw [h.functions, List.mem_reverse, List.mem_filter] at hf
  have := h.above f hf.1
  rw [heq] at this
  omega

theorem Inside.enter {label : String} {ancestors : List Site} {path : Path} {p : Progress}
    (h : Inside label ancestors path.length p) {n : Node} (hm : isMarker label n = false) :
    Inside label (ancestors ++ [⟨path, n⟩]) (path.length + 1)
      { p with functions := pushed ⟨path, n⟩ p.functions } := by
  refine ⟨?_, ?_, ?_⟩
  · rw [h.functions, pushed_filter]
  · intro a ha
    rcases List.mem_append.1 ha with ha | ha
    · exact h.noMarker a ha
    · rw [List.mem_singleton.1 ha]; exact hm
  · intro a ha
    rcases List.mem_append.1 ha with ha | ha
    · have := h.above a ha
      omega
    · rw [List.mem_singleton.1 ha]
      simp

theorem walkAll_follows {label : String} {ancestors : List Site} {path : Path} (ns : List Node)
    (ih : ∀ c ∈ ns, ∀ (path' : Path) (p : Progress), Inside label ancestors path'.length p →
      Follows (c.walkBelow (enter label) leave ancestors path') p
        ((c.lineages ancestors path').filter (isTopmost label)))
    (i : Nat) {p : Progress} (hp : Inside label ancestors (path.length + 1) p) :
    Follows (walkAll (enter label) leave ancestors path i ns) p
      ((lineagesFrom ancestors path i ns).filter (isTopmost label)) := by
  induction ns generalizing i p with
  | nil => rfl
  | cons c rest ihr =>
    rw [walkAll, lineagesFrom, List.filter_append]
    refine (ih c List.mem_cons_self (i :: path) p hp).bind fun q hq => ?_
    refine ihr (fun d hd => ih d (List.mem_cons_of_mem _ hd)) (i + 1) ⟨?_, hp.noMarker, hp.above⟩
    rw [hq, hp.functions]

theorem walkBelow_follows (label : String) (n : Node) {ancestors : List Site} {path : Path}
    {p : Progress} (hp : Inside label ancestors path.length p) :
    Follows (n.walkBelow (enter label) leave ancestors path) p
      ((n.lineages ancestors path).filter (isTopmost label)) := by
  induction n using Node.childInduction generalizing ancestors path p with
  | step n ih =>
    rw [Node.walkBelow_eq]
    unfold Follows
    cases hm : isMarker label n with
    | true =>
      rw [filter_topmost_marker hp.noMarker hm]
      have hv : validate p.functions.head? ancestors.getLast? ⟨path, n⟩ =
          check ⟨ancestors, ⟨path, n⟩⟩ := by
        rw [hp.functions, head?_functions]
        rfl
      rw [run_bind, enter_marker hm, hv]
      simp only [checkAll]
      cases check ⟨ancestors, ⟨path, n⟩⟩ with
      | ok m => exact leave_marker ancestors hm hp.ne_path _
      | error d => exact ⟨_, rfl⟩
    | false =>
      rw [filter_topmost_other hm]
      have hin := hp.enter hm
      have hall := walkAll_follows n.children (fun c hc path' q hq => ih c hc hq) 0 hin
      unfold Follows at hall
      rw [run_bind, enter_other hm]
      simp only [run_bind]
      split at hall
      · rw [hall]
        exact leave_pushed ancestors hp.ne_path _
      · obtain ⟨functions, hall⟩ := hall
        rw [hall]
        exact ⟨functions, rfl⟩

theorem scan_eq_checkAll (label : String) (program : Node) :
    scan label program =
      if opens label program then
        ⟨(checkAll (topmost label program)).1, (checkAll (topmost label program)).2⟩
      else ⟨[], some (.unopened label)⟩ := by
  unfold scan
  split
  · have h : Follows (program.walkBelow (enter label) leave [] []) ⟨[], []⟩ (topmost label program) :=
      walkBelow_follows label program ⟨rfl, by simp, by simp⟩
    rw [walk_eq_walkBelow]
    unfold Follows at h
    split at h
    · next hn => rw [h, hn]; simp
    · next d hd =>
      obtain ⟨functions, h⟩ := h
      rw [h, hd]
      simp
  · rfl

end TierSplit.Marker

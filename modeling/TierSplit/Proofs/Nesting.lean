import TierSplit.Proofs.Fallible
import TierSplit.Proofs.Reach

/-! What the depth of a program is: the most calls that are open when the walk is at some node, over all
ways by which it comes there. A program is analyzed exactly if all of them fit into the room. -/

namespace TierSplit.Scope

open Syntax

/-- The walk comes to the site with the duty, and so many calls are open above it. -/
inductive ReachesUnder (program : Node) : Site → Duty → Nat → Prop
  | top {t : Site} (child : t ∈ (Site.root program).children) : ReachesUnder program t .visit 0
  | step {s t : Site} {i opened : Nat} {duty d : Duty} (above : ReachesUnder program s duty opened)
      (child : t ∈ s.children) (index : t.path = i :: s.path)
      (step : (i, d) ∈ (Plan.of duty s.node).steps) :
      ReachesUnder program t d (opened + calls duty s.node)

/-! ### One node -/

@[simp] theorem getElem?_callDepths (ns : List Node) (i : Nat) :
    (callDepths ns)[i]? = ns[i]?.map callDepth := by
  induction ns generalizing i with
  | nil => rfl
  | cons c rest ih => cases i <;> simp [callDepths, ih]

theorem callDepth_eq (n : Node) (duty : Duty) :
    callDepth n duty = calls duty n + deepest (callDepths n.children) (Plan.of duty n).steps := by
  cases n
  rfl

theorem deepest_le_iff {ns : List Node} {steps : List Step} {room : Nat} :
    deepest (callDepths ns) steps ≤ room ↔
      ∀ i d c, (i, d) ∈ steps → ns[i]? = some c → callDepth c d ≤ room := by
  induction steps with
  | nil => simp [deepest]
  | cons st rest ih =>
    obtain ⟨i, d⟩ := st
    have hcons : deepest (callDepths ns) ((i, d) :: rest) =
        max ((ns[i]?.map fun c => callDepth c d).getD 0) (deepest (callDepths ns) rest) := by
      cases hc : ns[i]? <;> simp [deepest, hc]
    rw [hcons, Nat.max_le, ih]
    constructor
    · rintro ⟨hfirst, hrest⟩ j e c hstep hc
      rcases List.mem_cons.1 hstep with heq | hstep
      · cases heq
        simpa [hc] using hfirst
      · exact hrest j e c hstep hc
    · intro h
      refine ⟨?_, fun j e c hstep => h j e c (List.mem_cons_of_mem _ hstep)⟩
      cases hc : ns[i]? with
      | none => exact Nat.zero_le _
      | some c => exact h i d c List.mem_cons_self hc

/-- Below a node the calls of the node are open too. -/
theorem callDepth_of_step {n c : Node} {i : Nat} {duty d : Duty}
    (hstep : (i, d) ∈ (Plan.of duty n).steps) (hc : n.children[i]? = some c) :
    calls duty n + callDepth c d ≤ callDepth n duty := by
  rw [callDepth_eq n]
  exact Nat.add_le_add_left (deepest_le_iff.1 (Nat.le_refl _) i d c hstep hc) _

theorem calls_le_callDepth (n : Node) (duty : Duty) : calls duty n ≤ callDepth n duty := by
  rw [callDepth_eq]
  exact Nat.le_add_right _ _

theorem visitCalls_le (n : Node) : visitCalls n ≤ 2 := by
  unfold visitCalls
  split_ifs <;> decide

theorem one_le_visitCalls (n : Node) : 1 ≤ visitCalls n := by
  unfold visitCalls
  split_ifs <;> decide

theorem calls_le (duty : Duty) (n : Node) : calls duty n ≤ 3 := by
  have hvisit := visitCalls_le n
  unfold calls
  split <;> (try split_ifs) <;> omega

/-! ### A whole program -/

section

variable {program : Node}

theorem callDepth_le_depth {t : Site} (ht : t ∈ (Site.root program).children) :
    callDepth t.node .visit ≤ depth program := by
  obtain ⟨i, hi, -⟩ := Site.mem_children.1 ht
  exact deepest_le_iff.1 (Nat.le_refl _) i .visit t.node (mem_all_step hi .visit) hi

theorem ReachesUnder.le_depth {s : Site} {duty : Duty} {opened : Nat}
    (h : ReachesUnder program s duty opened) : opened + callDepth s.node duty ≤ depth program := by
  induction h with
  | top child =>
    rw [Nat.zero_add]
    exact callDepth_le_depth child
  | @step s t i opened duty d _ child index step ih =>
    obtain ⟨j, hj, hpath⟩ := Site.mem_children.1 child
    rw [index, List.cons.injEq] at hpath
    obtain ⟨rfl, -⟩ := hpath
    have hbelow := callDepth_of_step step hj
    omega

/-- The depth is the least bound on the calls that are open when the walk is at a node. -/
theorem depth_le_iff {room : Nat} : depth program ≤ room ↔ ∀ s duty opened,
    ReachesUnder program s duty opened → opened + calls duty s.node ≤ room := by
  constructor
  · intro h s duty opened hreach
    have hdepth := hreach.le_depth
    have hcalls := calls_le_callDepth s.node duty
    omega
  · intro h
    -- what is open above a node, and at it and below, fits into the room
    have hbelow : ∀ (n : Node) (path : Path) (duty : Duty) (opened : Nat),
        ReachesUnder program ⟨path, n⟩ duty opened → opened + callDepth n duty ≤ room := by
      intro n
      induction n using Node.childInduction with
      | step n ih =>
        intro path duty opened hreach
        have hhere : opened + calls duty n ≤ room := h _ _ _ hreach
        have hdeepest : deepest (callDepths n.children) (Plan.of duty n).steps ≤
            room - (opened + calls duty n) := by
          refine deepest_le_iff.2 fun i d c hstep hc => ?_
          have hchild : opened + calls duty n + callDepth c d ≤ room :=
            ih c (List.mem_of_getElem? hc) (i :: path) d _
              (.step hreach (Site.mem_children.2 ⟨i, hc, rfl⟩) rfl hstep)
          omega
        rw [callDepth_eq]
        omega
    refine deepest_le_iff.2 fun i d c hstep hc => ?_
    rw [Plan.all, allFrom_eq_filterFrom] at hstep
    obtain ⟨rfl, -⟩ := of_mem_filterFrom hstep
    have hchild := hbelow c [i] .visit 0 (.top (Site.mem_children.2 ⟨i, hc, rfl⟩))
    omega

theorem ReachesUnder.opened_le {s : Site} {duty : Duty} {opened : Nat}
    (h : ReachesUnder program s duty opened) : opened + 3 ≤ 3 * s.path.length := by
  induction h with
  | top child =>
    obtain ⟨i, -, hpath⟩ := Site.mem_children.1 child
    simp [hpath, Site.root]
  | @step s t i opened duty d _ _ index _ ih =>
    have hcalls := calls_le duty s.node
    rw [index, List.length_cons]
    omega

theorem ReachesUnder.mem_sites {s : Site} {duty : Duty} {opened : Nat}
    (h : ReachesUnder program s duty opened) : s ∈ program.sites [] := by
  induction h with
  | top child => exact Site.mem_sites_of_mem_children (Site.self_mem_sites program []) child
  | step _ child _ _ ih => exact Site.mem_sites_of_mem_children ih child

/-- Three calls for every level are room enough. -/
theorem depth_le_of_levels {levels : Nat} (h : ∀ s ∈ program.sites [], s.path.length ≤ levels) :
    depth program ≤ 3 * levels := by
  refine depth_le_iff.2 fun s duty opened hreach => ?_
  have hopened := hreach.opened_le
  have hcalls := calls_le duty s.node
  have hlevels := h s hreach.mem_sites
  omega

end

/-! ### The analysis -/

section

variable {room : Nat} {program : Node}

theorem analyzeWithin_eq_ok_iff {graph : Graph} :
    analyzeWithin room program = .ok graph ↔ depth program ≤ room ∧ analyze program = graph := by
  rw [analyzeWithin]
  split
  · next h => simp [h]
  · next h => simp [h]

theorem analyzeWithin_eq_error_iff {e : Failure} :
    analyzeWithin room program = .error e ↔ e = .tooDeep ∧ room < depth program := by
  rw [analyzeWithin]
  split
  · next h => simp [Nat.not_lt.2 h]
  · next h => simp [Nat.lt_of_not_le h, eq_comm]

end

end TierSplit.Scope

import TierSplit.Proofs.Demands
import Mathlib.Data.List.Perm.Basic

/-! Blocks that may still change take what the references demand in any order, any number of times and
in any number of calls. So the blocks after classifying depend on the set of links alone, and the count
on the references as a multiset. -/

namespace TierSplit

section

variable {α β : Type} {f : β → α → β} (comm : ∀ s a b, f (f s a) b = f (f s b) a)
  (idem : ∀ s a, f (f s a) a = f s a)
include comm idem

theorem foldl_absorbs {xs : List α} {x : α} (h : x ∈ xs) (s : β) :
    f (xs.foldl f s) x = xs.foldl f s := by
  have hswap : ∀ (ys : List α) (t : β), f (ys.foldl f t) x = ys.foldl f (f t x) := by
    intro ys
    induction ys with
    | nil => exact fun _ => rfl
    | cons y rest ih =>
      intro t
      rw [List.foldl_cons, List.foldl_cons, ih, comm]
  induction xs generalizing s with
  | nil => cases h
  | cons y rest ih =>
    rcases List.mem_cons.1 h with rfl | h
    · rw [List.foldl_cons, hswap, idem]
    · exact ih h (f s y)

theorem foldl_absorbs_all {xs ys : List α} (h : ys ⊆ xs) (s : β) :
    ys.foldl f (xs.foldl f s) = xs.foldl f s := by
  induction ys with
  | nil => rfl
  | cons y rest ih =>
    rw [List.cons_subset] at h
    rw [List.foldl_cons, foldl_absorbs comm idem h.1]
    exact ih h.2

/-- Steps that commute and that do nothing the second time lead to a state that depends on the set of
steps taken. -/
theorem foldl_eq_of_mem_iff {xs ys : List α} (h : ∀ x, x ∈ xs ↔ x ∈ ys) (s : β) :
    xs.foldl f s = ys.foldl f s := by
  have hperm : (xs ++ ys).Perm (ys ++ xs) := List.perm_append_comm
  calc xs.foldl f s
      = ys.foldl f (xs.foldl f s) := (foldl_absorbs_all comm idem (fun y hy => (h y).2 hy) s).symm
    _ = (xs ++ ys).foldl f s := List.foldl_append.symm
    _ = (ys ++ xs).foldl f s := hperm.foldl_eq' (fun a _ b _ t => comm t a b) s
    _ = xs.foldl f (ys.foldl f s) := List.foldl_append
    _ = ys.foldl f s := foldl_absorbs_all comm idem (fun x hx => (h x).1 hx) s

end

namespace Block

open Scope

/-! ### Demands in any order -/

theorem Demand.meet_comm (c d : Demand) (b : Block) : c.meet (d.meet b) = d.meet (c.meet b) := by
  cases c <;> cases d <;> simp [Demand.meet, Names.insert_comm]

theorem Demand.meet_meet (d : Demand) (b : Block) : d.meet (d.meet b) = d.meet b := by
  cases d <;> simp [Demand.meet, Names.insert_insert]

theorem meetIn_comm (blocks : List Block) (c d : Nat × Demand) :
    meetIn (meetIn blocks c) d = meetIn (meetIn blocks d) c := by
  apply List.ext_getElem?
  intro i
  simp only [meetIn, List.getElem?_modify]
  cases blocks[i]? with
  | none => rfl
  | some b =>
    simp only [Option.map_eq_map, Option.map_some]
    split <;> split <;> simp [Demand.meet_comm]

theorem meetIn_meetIn (blocks : List Block) (d : Nat × Demand) :
    meetIn (meetIn blocks d) d = meetIn blocks d := by
  apply List.ext_getElem?
  intro i
  simp only [meetIn, List.getElem?_modify]
  cases blocks[i]? with
  | none => rfl
  | some b =>
    simp only [Option.map_eq_map, Option.map_some]
    split <;> simp [Demand.meet_meet]

theorem refusal?_of_unfrozen {blocks : List Block} (h : Unfrozen blocks) (i : Nat) :
    refusal? blocks i = none := by
  unfold refusal?
  split
  · next b hb => simp [h b (List.mem_of_getElem? hb)]
  · rfl

theorem meetAll_of_unfrozen {blocks : List Block} (h : Unfrozen blocks) (ds : List (Nat × Demand)) :
    meetAll ds blocks = ⟨ds.foldl meetIn blocks, none⟩ :=
  meetAll_of_admits fun d _ => refusal?_of_unfrozen h d.1

/-- Blocks that may change end up the same after the same demands. -/
theorem meetAll_eq_of_mem_iff {blocks : List Block} (h : Unfrozen blocks) {ds ds' : List (Nat × Demand)}
    (hds : ∀ d, d ∈ ds ↔ d ∈ ds') : meetAll ds blocks = meetAll ds' blocks := by
  rw [meetAll_of_unfrozen h, meetAll_of_unfrozen h, foldl_eq_of_mem_iff meetIn_comm meetIn_meetIn hds]

/-! ### Calls -/

/-- The references of one call, and which of them it leaves out. -/
structure Batch where
  references : List Reference
  excluded : Reference → Bool

/-- What a call takes into account: the block of the use, the block of the declaration, the name. -/
def Batch.links (blocks : List Block) (batch : Batch) : List Link :=
  batch.references.filterMap (link? blocks batch.excluded)

/-- One call after the other, up to the first that fails. -/
def classifyAll : List Batch → List Block → Outcome
  | [], blocks => ⟨blocks, none⟩
  | batch :: rest, blocks =>
    (classify batch.references batch.excluded blocks).outcome.andThen (classifyAll rest)

theorem classifyAll_eq (batches : List Batch) (blocks : List Block) :
    classifyAll batches blocks =
      meetAll (batches.flatMap fun b => allDemands blocks b.excluded b.references) blocks := by
  induction batches generalizing blocks with
  | nil => rfl
  | cons batch rest ih =>
    have halike := meetAll_alike (allDemands blocks batch.excluded batch.references) blocks
    rw [classifyAll, classify, classifyFrom_eq, List.flatMap_cons, meetAll_append]
    unfold Outcome.andThen
    split
    · rw [ih, List.flatMap_congr fun b _ => halike.allDemands_eq b.excluded b.references]
    · rfl

theorem mem_demands_iff {blocks : List Block} {batches : List Batch} {d : Nat × Demand} :
    (d ∈ batches.flatMap fun b => allDemands blocks b.excluded b.references) ↔
      ∃ link ∈ batches.flatMap (Batch.links blocks), d ∈ demands blocks link := by
  simp only [allDemands, Batch.links, List.mem_flatMap]
  grind

theorem Classified.ext_outcome {c c' : Classified} (h : c.outcome = c'.outcome)
    (hcount : c.count = c'.count) : c = c' := by
  cases c
  cases c'
  simp_all [Classified.outcome]

/-- On blocks that may change, no call fails; the order of the references makes no difference, neither
to the blocks nor to the count; and calls that take the same links into account, however repeated and
however divided, lead to the same blocks. -/
theorem classifying_depends_on_links {blocks : List Block} (h : Unfrozen blocks) :
    (∀ references references' excluded, references.Perm references' →
      (classify references excluded blocks).failure = none ∧
        classify references' excluded blocks = classify references excluded blocks) ∧
    ∀ batches batches' : List Batch,
      (∀ link, link ∈ batches.flatMap (Batch.links blocks) ↔
        link ∈ batches'.flatMap (Batch.links blocks)) →
      ∃ later, classifyAll batches blocks = ⟨later, none⟩ ∧
        classifyAll batches' blocks = ⟨later, none⟩ := by
  constructor
  · intro references references' excluded hperm
    have hlinks := hperm.filterMap (link? blocks excluded)
    have hfailure := (classifyFrom_takesAll h 0 excluded references).1
    have hfailure' := (classifyFrom_takesAll h 0 excluded references').1
    refine ⟨hfailure, ?_⟩
    have hds : ∀ d, d ∈ allDemands blocks excluded references' ↔
        d ∈ allDemands blocks excluded references :=
      fun d => (hlinks.flatMap_right (demands blocks)).symm.mem_iff
    have houtcome : (classify references' excluded blocks).outcome =
        (classify references excluded blocks).outcome := by
      rw [classify, classify, classifyFrom_eq, classifyFrom_eq, meetAll_eq_of_mem_iff h hds]
    have hcount : (classify references' excluded blocks).count =
        (classify references excluded blocks).count := by
      rw [classify, classify, classifyFrom_count hfailure, classifyFrom_count hfailure',
        hlinks.length_eq]
    exact Classified.ext_outcome houtcome hcount
  · intro batches batches' hlinks
    have hds : ∀ d, (d ∈ batches.flatMap fun b => allDemands blocks b.excluded b.references) ↔
        d ∈ batches'.flatMap fun b => allDemands blocks b.excluded b.references := by
      intro d
      simp only [mem_demands_iff, hlinks]
    rw [classifyAll_eq, classifyAll_eq, ← meetAll_eq_of_mem_iff h hds]
    exact ⟨_, meetAll_of_unfrozen h _, meetAll_of_unfrozen h _⟩

/-- A block for the server, one for the client that needs something already, and one for the server. -/
def threeBlocks : List Block :=
  [new 0 ⟨true, false⟩ 10 20, { new 1 ⟨false, true⟩ 30 40 with inputs := ["w"] },
    new 2 ⟨true, false⟩ 50 60]

/-- The client reads `x` of the first block, which reads `y` of the client, and the last block reads
`x` too. -/
def threeReads : List Reference :=
  [⟨⟨[1], "x", 32, 33⟩, some ⟨[0], "x", 12, 13⟩⟩, ⟨⟨[2], "y", 14, 15⟩, some ⟨[3], "y", 34, 35⟩⟩,
    ⟨⟨[4], "x", 52, 53⟩, some ⟨[0], "x", 12, 13⟩⟩]

theorem threeReads_in_any_order :
    Unfrozen threeBlocks ∧
    classify threeReads.reverse (fun _ => false) threeBlocks =
      classify threeReads (fun _ => false) threeBlocks ∧
    ∃ later, classifyAll [⟨threeReads, fun _ => false⟩] threeBlocks = ⟨later, none⟩ ∧
      classifyAll [⟨threeReads.drop 1, fun _ => false⟩, ⟨threeReads, fun r => r.use.name == "y"⟩]
        threeBlocks = ⟨later, none⟩ := by
  have h : Unfrozen threeBlocks := by
    unfold Unfrozen
    decide
  have hmain := classifying_depends_on_links h
  refine ⟨h, (hmain.1 threeReads threeReads.reverse _ (List.reverse_perm _).symm).2, hmain.2 _ _ ?_⟩
  have hfirst : [Batch.mk threeReads fun _ => false].flatMap (Batch.links threeBlocks) =
      [(1, 0, "x"), (0, 1, "y"), (2, 0, "x")] := by
    decide +kernel
  have hsecond : [Batch.mk (threeReads.drop 1) fun _ => false,
      ⟨threeReads, fun r => r.use.name == "y"⟩].flatMap (Batch.links threeBlocks) =
        [(0, 1, "y"), (2, 0, "x"), (1, 0, "x"), (2, 0, "x")] := by
    decide +kernel
  rw [hfirst, hsecond]
  grind

end Block

end TierSplit

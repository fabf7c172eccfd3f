import TierSplit.Proofs.Classification

/-! What references demand of single blocks. A link demands session state of its using block, or an
output of its declaring block and then an input of its using block, or nothing. Classifying meets the
demands of all links one after the other, up to the first one that a frozen block refuses. -/

namespace TierSplit.Block

open Scope

inductive Demand where
  | session
  | input (name : String)
  | output (name : String)
deriving Repr, DecidableEq

/-- The block with the demand met. -/
def Demand.meet : Demand → Block → Block
  | .session, b => { b with session := true }
  | .input name, b => { b with inputs := b.inputs.insert name }
  | .output name, b => { b with outputs := b.outputs.insert name }

/-- What the crossing of a name demands, and of which blocks. -/
def Crossing.demands (user declarer : Nat) (name : String) : Crossing → List (Nat × Demand)
  | .none => []
  | .session => [(user, .session)]
  | .channel => [(declarer, .output name), (user, .input name)]

def demands (blocks : List Block) : Link → List (Nat × Demand)
  | (user, declarer, name) =>
    if user = declarer then []
    else
      match blocks[user]?, blocks[declarer]? with
      | some u, some d => (crossing u d).demands user declarer name
      | _, _ => []

/-- Meets demands in order and stops where a block refuses. -/
def meetAll : List (Nat × Demand) → List Block → Outcome
  | [], blocks => ⟨blocks, none⟩
  | (i, d) :: rest, blocks => (Outcome.onBlock i (change d.meet) blocks).andThen (meetAll rest)

def allDemands (blocks : List Block) (excluded : Reference → Bool) (references : List Reference) :
    List (Nat × Demand) :=
  (references.filterMap (link? blocks excluded)).flatMap (demands blocks)

theorem andThen_of_none {o : Outcome} (h : o.failure = none) (f : List Block → Outcome) :
    o.andThen f = f o.blocks := by
  rw [Outcome.andThen, h]

theorem andThen_of_some {o : Outcome} {e : Failure} (h : o.failure = some e)
    (f : List Block → Outcome) : o.andThen f = o := by
  rw [Outcome.andThen, h]

theorem andThen_none (o : Outcome) : o.andThen (fun blocks => ⟨blocks, none⟩) = o := by
  obtain ⟨blocks, failure⟩ := o
  cases failure <;> rfl

theorem andThen_assoc (o : Outcome) (f g : List Block → Outcome) :
    (o.andThen f).andThen g = o.andThen fun blocks => (f blocks).andThen g := by
  obtain ⟨blocks, failure⟩ := o
  cases failure <;> rfl

theorem meetAll_append (first second : List (Nat × Demand)) (blocks : List Block) :
    meetAll (first ++ second) blocks = (meetAll first blocks).andThen (meetAll second) := by
  induction first generalizing blocks with
  | nil => rfl
  | cons d rest ih =>
    rw [List.cons_append, meetAll, meetAll, andThen_assoc]
    congr 1
    funext later
    exact ih later

theorem applyReference_eq (user declarer : Nat) (name : String) (blocks : List Block) :
    applyReference user declarer name blocks = meetAll (demands blocks (user, declarer, name)) blocks := by
  have hone : ∀ d : Demand, meetAll [(user, d)] = Outcome.onBlock user (change d.meet) := by
    intro d
    funext later
    exact andThen_none _
  unfold applyReference demands
  by_cases heq : user = declarer
  · simp only [if_pos heq, meetAll]
  simp only [if_neg heq]
  cases hu : blocks[user]? with
  | none => rfl
  | some u =>
    cases hd : blocks[declarer]? with
    | none => rfl
    | some d =>
      simp only
      cases crossing u d with
      | none => rfl
      | session =>
        rw [Crossing.demands, hone]
        rfl
      | channel =>
        rw [Crossing.demands, meetAll, hone]
        rfl

/-! ### What stays -/

/-- The block as it was before anything was classified. -/
def blank (b : Block) : Block := { b with inputs := [], outputs := [], session := false }

/-- Classifying may lead from the first blocks to the second: they differ in what it adds only. -/
def Alike (blocks later : List Block) : Prop := later.map blank = blocks.map blank

theorem blank_meet (d : Demand) (b : Block) : (d.meet b).blank = b.blank := by
  cases d <;> rfl

theorem Alike.getElem? {blocks later : List Block} (h : Alike blocks later) (i : Nat) :
    later[i]?.map blank = blocks[i]?.map blank := by
  rw [← List.getElem?_map, ← List.getElem?_map, h]

theorem onBlock_alike (i : Nat) (d : Demand) (blocks : List Block) :
    Alike blocks (Outcome.onBlock i (change d.meet) blocks).blocks := by
  unfold Alike Outcome.onBlock change
  split
  · rfl
  · next b hb =>
    split
    · next b' hb' =>
      split at hb'
      · cases hb'
      · cases hb'
        obtain ⟨hi, rfl⟩ := List.getElem?_eq_some_iff.1 hb
        rw [List.map_set, blank_meet, ← List.getElem_map blank (h := by simpa using hi)]
        exact List.set_getElem_self _
    · rfl

theorem meetAll_alike (ds : List (Nat × Demand)) (blocks : List Block) :
    Alike blocks (meetAll ds blocks).blocks := by
  induction ds generalizing blocks with
  | nil => rfl
  | cons d rest ih =>
    rw [meetAll]
    unfold Outcome.andThen
    split
    · exact (ih _).trans (onBlock_alike d.1 d.2 blocks)
    · exact onBlock_alike d.1 d.2 blocks

theorem demands_blank (blocks : List Block) (link : Link) :
    demands (blocks.map blank) link = demands blocks link := by
  obtain ⟨user, declarer, name⟩ := link
  simp only [demands, List.getElem?_map]
  cases blocks[user]? <;> cases blocks[declarer]? <;> rfl

section

variable {blocks later : List Block} (h : Alike blocks later)
include h

theorem Alike.demands_eq (link : Link) : demands later link = demands blocks link := by
  rw [← demands_blank later, h, demands_blank]

theorem Alike.link?_eq (excluded : Reference → Bool) (r : Reference) :
    link? later excluded r = link? blocks excluded r := by
  have hstops : later.map stop = blocks.map stop := by
    have hmap := congrArg (List.map stop) h
    rwa [List.map_map, List.map_map] at hmap
  have hlength : later.length = blocks.length := by
    simpa using congrArg List.length h
  have howner : ∀ offset, ownerIndex later offset = ownerIndex blocks offset := by
    intro offset
    rw [ownerIndex, ownerIndex, hstops]
  unfold link?
  simp only [howner, hlength]

theorem Alike.allDemands_eq (excluded : Reference → Bool) (references : List Reference) :
    allDemands later excluded references = allDemands blocks excluded references := by
  unfold allDemands
  rw [List.filterMap_congr fun r _ => h.link?_eq excluded r]
  exact List.flatMap_congr fun link _ => h.demands_eq link

end

/-! ### Classifying -/

/-- What classifying leaves, but for the count. -/
def Classified.outcome (c : Classified) : Outcome := ⟨c.blocks, c.failure⟩

theorem classifyFrom_eq (count : Nat) (blocks : List Block) (excluded : Reference → Bool)
    (references : List Reference) :
    (classifyFrom count blocks excluded references).outcome =
      meetAll (allDemands blocks excluded references) blocks := by
  induction references generalizing count blocks with
  | nil => rfl
  | cons r rest ih =>
    rw [classifyFrom]
    cases hl : link? blocks excluded r with
    | none =>
      rw [allDemands, List.filterMap_cons_none hl]
      exact ih count blocks
    | some link =>
      obtain ⟨user, declarer, name⟩ := link
      have halike := meetAll_alike (demands blocks (user, declarer, name)) blocks
      rw [allDemands, List.filterMap_cons_some hl, List.flatMap_cons, meetAll_append]
      simp only [applyReference_eq]
      cases hf : (meetAll (demands blocks (user, declarer, name)) blocks).failure with
      | none =>
        rw [andThen_of_none hf]
        simp only
        rw [ih, halike.allDemands_eq]
        rfl
      | some e =>
        rw [andThen_of_some hf]
        simp only [Classified.outcome, ← hf]

theorem classifyFrom_count {count : Nat} {blocks : List Block} {excluded : Reference → Bool}
    {references : List Reference}
    (h : (classifyFrom count blocks excluded references).failure = none) :
    (classifyFrom count blocks excluded references).count =
      count + (references.filterMap (link? blocks excluded)).length := by
  induction references generalizing count blocks with
  | nil => rfl
  | cons r rest ih =>
    rw [classifyFrom] at h ⊢
    cases hl : link? blocks excluded r with
    | none =>
      rw [hl] at h
      rw [List.filterMap_cons_none hl]
      exact ih h
    | some link =>
      obtain ⟨user, declarer, name⟩ := link
      have halike := meetAll_alike (demands blocks (user, declarer, name)) blocks
      rw [hl] at h
      rw [List.filterMap_cons_some hl, List.length_cons]
      simp only [applyReference_eq] at h ⊢
      split at h
      · rw [ih h, List.filterMap_congr fun r _ => halike.link?_eq excluded r]
        omega
      · cases h

/-! ### Refusals -/

/-- The failure of a demand on a frozen block. -/
def refusal? (blocks : List Block) (i : Nat) : Option Failure :=
  match blocks[i]? with
  | some b => if b.frozen then some (.frozenBlock b.id) else none
  | none => none

def meetIn (blocks : List Block) (d : Nat × Demand) : List Block := blocks.modify d.1 d.2.meet

theorem Alike.refusal?_eq {blocks later : List Block} (h : Alike blocks later) (i : Nat) :
    refusal? later i = refusal? blocks i := by
  have hblank : ∀ bs : List Block, refusal? bs i =
      (bs[i]?.map blank).bind fun b => if b.frozen then some (.frozenBlock b.id) else none := by
    intro bs
    unfold refusal?
    cases bs[i]? <;> rfl
  rw [hblank, hblank, h.getElem?]

theorem onBlock_of_admits {blocks : List Block} {i : Nat} (h : refusal? blocks i = none) (d : Demand) :
    Outcome.onBlock i (change d.meet) blocks = ⟨meetIn blocks (i, d), none⟩ := by
  unfold refusal? at h
  unfold Outcome.onBlock change meetIn
  cases hb : blocks[i]? with
  | none =>
    rw [List.getElem?_eq_none_iff] at hb
    rw [List.modify_eq_self hb]
  | some b =>
    simp only [hb] at h
    split at h
    · cases h
    · next hf =>
      rw [List.modify_eq_set_getElem?]
      simp [hf, hb]

theorem onBlock_of_refuses {blocks : List Block} {i : Nat} {e : Failure}
    (h : refusal? blocks i = some e) (d : Demand) :
    Outcome.onBlock i (change d.meet) blocks = ⟨blocks, some e⟩ := by
  unfold refusal? at h
  unfold Outcome.onBlock change
  cases hb : blocks[i]? with
  | none =>
    rw [hb] at h
    cases h
  | some b =>
    simp only [hb] at h
    split at h
    · next hf =>
      cases h
      simp [hf]
    · cases h

theorem meetAll_of_admits {ds : List (Nat × Demand)} {blocks : List Block}
    (h : ∀ d ∈ ds, refusal? blocks d.1 = none) :
    meetAll ds blocks = ⟨ds.foldl meetIn blocks, none⟩ := by
  induction ds generalizing blocks with
  | nil => rfl
  | cons d rest ih =>
    have hhead := onBlock_of_admits (h d List.mem_cons_self) d.2
    have halike := onBlock_alike d.1 d.2 blocks
    rw [hhead] at halike
    rw [meetAll, hhead]
    apply ih
    intro d' hd'
    rw [halike.refusal?_eq]
    exact h d' (List.mem_cons_of_mem _ hd')

/-- Where one demand is refused, those before it have been met and no other. -/
theorem meetAll_of_refuses {before : List (Nat × Demand)} {d : Nat × Demand} {blocks : List Block}
    {e : Failure} (hbefore : ∀ d ∈ before, refusal? blocks d.1 = none)
    (hd : refusal? blocks d.1 = some e) (after : List (Nat × Demand)) :
    meetAll (before ++ d :: after) blocks = ⟨before.foldl meetIn blocks, some e⟩ := by
  have hmet := meetAll_of_admits hbefore
  have halike := meetAll_alike before blocks
  rw [hmet] at halike
  rw [← halike.refusal?_eq] at hd
  rw [meetAll_append, hmet]
  simp only [Outcome.andThen]
  rw [meetAll, onBlock_of_refuses hd]
  rfl

end TierSplit.Block

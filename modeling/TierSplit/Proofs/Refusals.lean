import TierSplit.Proofs.Demands

/-! Classifying where some blocks are frozen. It fails exactly if some reference asks a frozen block to
change, and it stops at the first such reference. What the references before it brought stays; of the
reference itself, the output in the declaring block stays if only the using block is frozen. -/

namespace TierSplit.Block

open Scope

/-- No tier runs both blocks. -/
def SharesNoTier (u d : Block) : Prop := ∀ t ∈ u.tiers.toList, t ∉ d.tiers.toList

instance (u d : Block) : Decidable (SharesNoTier u d) :=
  inferInstanceAs (Decidable (∀ t ∈ u.tiers.toList, t ∉ d.tiers.toList))

/-- The reference is resolved and not left out, and leads from one block to another. -/
structure Joins (blocks : List Block) (excluded : Reference → Bool) (r : Reference)
    (user declarer : Nat) (u d : Block) : Prop where
  included : ¬excluded r = true
  use : ownerIndex blocks r.use.stop = user
  declaration : ∃ o, r.declaration = some o ∧ ownerIndex blocks o.stop = declarer
  atUse : blocks[user]? = some u
  atDeclaration : blocks[declarer]? = some d
  distinct : user ≠ declarer

/-- Between server blocks the using one has to change, and between blocks without a common tier both
have to; what has to change is frozen. -/
def Refuse (u d : Block) : Prop :=
  (.server ∈ u.tiers.toList ∧ .server ∈ d.tiers.toList ∧ u.frozen = true) ∨
    (SharesNoTier u d ∧ (u.frozen = true ∨ d.frozen = true))

instance (u d : Block) : Decidable (Refuse u d) := inferInstanceAs (Decidable (_ ∨ _))

theorem sharesNoTier_iff {u d : Block} : SharesNoTier u d ↔ crossing u d = .channel :=
  crossing_eq_channel.symm

theorem refuse_iff {u d : Block} : Refuse u d ↔ (crossing u d = .session ∧ u.frozen = true) ∨
    (crossing u d = .channel ∧ (u.frozen = true ∨ d.frozen = true)) := by
  rw [Refuse, sharesNoTier_iff, crossing_eq_session, and_assoc]

def Refused (blocks : List Block) (excluded : Reference → Bool) (r : Reference) : Prop :=
  ∃ user declarer u d, Joins blocks excluded r user declarer u d ∧ Refuse u d

section

variable {blocks : List Block} {excluded : Reference → Bool} {r : Reference} {user declarer : Nat}
  {u d : Block}

theorem Joins.link?_eq (h : Joins blocks excluded r user declarer u d) :
    link? blocks excluded r = some (user, declarer, r.use.name) := by
  obtain ⟨o, ho, hdeclarer⟩ := h.declaration
  have hu := (List.getElem?_eq_some_iff.1 h.atUse).1
  have hd := (List.getElem?_eq_some_iff.1 h.atDeclaration).1
  exact link?_eq_some.2 ⟨o, ho, h.included, rfl, ⟨h.use, hu⟩, hdeclarer, hd⟩

theorem demands_eq (hne : user ≠ declarer) (hu : blocks[user]? = some u)
    (hd : blocks[declarer]? = some d) (name : String) :
    demands blocks (user, declarer, name) = (crossing u d).demands user declarer name := by
  simp only [demands, if_neg hne, hu, hd]

theorem refusal?_eq {i : Nat} {b : Block} (hb : blocks[i]? = some b) :
    refusal? blocks i = if b.frozen then some (.frozenBlock b.id) else none := by
  rw [refusal?, hb]

theorem refusal?_frozen {i : Nat} {e : Failure} (h : refusal? blocks i = some e) :
    ∃ id, e = .frozenBlock id := by
  unfold refusal? at h
  split at h
  · split at h
    · cases h
      exact ⟨_, rfl⟩
    · cases h
  · cases h

/-- A frozen block refuses one of the demands of a reference exactly as the tiers tell. -/
theorem admits_iff (h : Joins blocks excluded r user declarer u d) (name : String) :
    (∀ c ∈ demands blocks (user, declarer, name), refusal? blocks c.1 = none) ↔ ¬Refuse u d := by
  rw [demands_eq h.distinct h.atUse h.atDeclaration, refuse_iff]
  cases crossing u d with
  | none => simp [Crossing.demands]
  | session => simp [Crossing.demands, refusal?_eq h.atUse]
  | channel => simp [Crossing.demands, refusal?_eq h.atUse, refusal?_eq h.atDeclaration, and_comm]

end

theorem not_refused_iff {blocks : List Block} {excluded : Reference → Bool} {r : Reference} :
    ¬Refused blocks excluded r ↔
      ∀ link, link? blocks excluded r = some link →
        ∀ c ∈ demands blocks link, refusal? blocks c.1 = none := by
  constructor
  · intro h link hlink
    obtain ⟨user, declarer, name⟩ := link
    obtain ⟨o, ho, hincluded, rfl, ⟨huse, hu⟩, hdeclaration, hd⟩ := link?_eq_some.1 hlink
    by_cases hne : user = declarer
    · simp [demands, hne]
    · have hjoins : Joins blocks excluded r user declarer blocks[user] blocks[declarer] :=
        ⟨hincluded, huse, ⟨o, ho, hdeclaration⟩, List.getElem?_eq_getElem hu,
          List.getElem?_eq_getElem hd, hne⟩
      rw [admits_iff hjoins]
      exact fun hrefuse => h ⟨user, declarer, _, _, hjoins, hrefuse⟩
  · rintro h ⟨user, declarer, u, d, hjoins, hrefuse⟩
    exact (admits_iff hjoins r.use.name).1 (h _ hjoins.link?_eq) hrefuse

theorem allDemands_admit_iff {blocks : List Block} {excluded : Reference → Bool}
    {references : List Reference} :
    (∀ c ∈ allDemands blocks excluded references, refusal? blocks c.1 = none) ↔
      ∀ r ∈ references, ¬Refused blocks excluded r := by
  simp only [not_refused_iff, allDemands, List.mem_flatMap, List.mem_filterMap]
  constructor
  · intro h r hr link hlink c hc
    exact h c ⟨link, ⟨r, hr, hlink⟩, hc⟩
  · rintro h c ⟨link, ⟨r, hr, hlink⟩, hc⟩
    exact h r hr link hlink c hc

theorem meetAll_failure (ds : List (Nat × Demand)) (blocks : List Block) :
    (meetAll ds blocks).failure = ds.findSome? fun c => refusal? blocks c.1 := by
  induction ds generalizing blocks with
  | nil => rfl
  | cons c rest ih =>
    have halike := onBlock_alike c.1 c.2 blocks
    rw [meetAll, List.findSome?_cons]
    cases hc : refusal? blocks c.1 with
    | none =>
      rw [onBlock_of_admits hc] at halike ⊢
      rw [andThen_of_none rfl, ih]
      simp only [halike.refusal?_eq]
    | some e => rw [onBlock_of_refuses hc, andThen_of_some rfl]

theorem classify_failure (references : List Reference) (excluded : Reference → Bool)
    (blocks : List Block) :
    (classify references excluded blocks).failure =
      (allDemands blocks excluded references).findSome? fun c => refusal? blocks c.1 := by
  rw [← meetAll_failure, ← classifyFrom_eq 0]
  rfl

/-- What the demands before a refused reference leave, and what that reference adds before it stops. -/
theorem meetAll_of_refuse {blocks : List Block} {excluded : Reference → Bool} {r : Reference}
    {user declarer : Nat} {u d : Block} (h : Joins blocks excluded r user declarer u d)
    (hrefuse : Refuse u d) {before : List (Nat × Demand)}
    (hbefore : ∀ c ∈ before, refusal? blocks c.1 = none) (name : String)
    (after : List (Nat × Demand)) :
    (meetAll (before ++ (demands blocks (user, declarer, name) ++ after)) blocks).blocks =
      if SharesNoTier u d ∧ d.frozen = false then
        (before.foldl meetIn blocks).modify declarer fun b => { b with outputs := b.outputs.insert name }
      else before.foldl meetIn blocks := by
  have hu := refusal?_eq h.atUse
  have hd := refusal?_eq h.atDeclaration
  rw [demands_eq h.distinct h.atUse h.atDeclaration]
  rcases refuse_iff.1 hrefuse with ⟨hsession, hfrozen⟩ | ⟨hchannel, hfrozen⟩
  · have hshare : ¬SharesNoTier u d := by
      rw [sharesNoTier_iff, hsession]
      nofun
    rw [if_pos hfrozen] at hu
    rw [if_neg fun hc => hshare hc.1, hsession, Crossing.demands, List.cons_append,
      meetAll_of_refuses hbefore hu]
  · rw [hchannel, Crossing.demands]
    cases hdf : d.frozen with
    | true =>
      rw [if_pos hdf] at hd
      rw [if_neg fun hc => Bool.true_eq_false.mp hc.2, List.cons_append, meetAll_of_refuses hbefore hd]
    | false =>
      -- the output is taken, and the using block refuses the input
      have hfrozen : u.frozen = true := by simpa [hdf] using hfrozen
      rw [hdf, if_neg Bool.false_ne_true] at hd
      rw [if_pos hfrozen] at hu
      have hmore : ∀ c ∈ before ++ [(declarer, Demand.output name)], refusal? blocks c.1 = none := by
        intro c hc
        rcases List.mem_append.1 hc with hc | hc
        · exact hbefore c hc
        · rw [List.mem_singleton.1 hc]
          exact hd
      have hstop := meetAll_of_refuses (d := (user, .input name)) hmore hu after
      rw [if_pos ⟨sharesNoTier_iff.2 hchannel, rfl⟩, List.cons_append, List.singleton_append,
        List.append_cons, hstop, List.foldl_append]
      rfl

/-- Classifying fails exactly if some reference is refused, and then as a frozen block fails. It leaves
what the references before the first one that is refused leave; only where the two blocks of that one
share no tier and the declaring block may change, that block has gained the name as an output. -/
theorem classifying_stops_at_refusal (blocks : List Block) (excluded : Reference → Bool)
    (references : List Reference) :
    ((∃ id, (classify references excluded blocks).failure = some (.frozenBlock id)) ↔
      ∃ r ∈ references, Refused blocks excluded r) ∧
    ((classify references excluded blocks).failure = none ↔
      ∀ r ∈ references, ¬Refused blocks excluded r) ∧
    ∀ before r after user declarer u d, references = before ++ r :: after →
      (∀ r' ∈ before, ¬Refused blocks excluded r') → Joins blocks excluded r user declarer u d →
      Refuse u d →
      (classify before excluded blocks).failure = none ∧
      (classify references excluded blocks).blocks =
        if SharesNoTier u d ∧ d.frozen = false then
          (classify before excluded blocks).blocks.modify declarer fun b =>
            { b with outputs := b.outputs.insert r.use.name }
        else (classify before excluded blocks).blocks := by
  have hnone : (classify references excluded blocks).failure = none ↔
      ∀ r ∈ references, ¬Refused blocks excluded r := by
    rw [classify_failure, List.findSome?_eq_none_iff]
    exact allDemands_admit_iff
  refine ⟨?_, hnone, ?_⟩
  · constructor
    · rintro ⟨id, hid⟩
      by_contra hall
      rw [hnone.2 (by simpa using hall)] at hid
      cases hid
    · rintro ⟨r, hr, hrefused⟩
      cases hf : (classify references excluded blocks).failure with
      | none => exact absurd hrefused (hnone.1 hf r hr)
      | some e =>
        rw [classify_failure] at hf
        obtain ⟨c, -, hc⟩ := List.exists_of_findSome?_eq_some hf
        obtain ⟨id, rfl⟩ := refusal?_frozen hc
        exact ⟨id, rfl⟩
  · rintro before r after user declarer u d rfl hbefore hjoins hrefuse
    have hadmits := allDemands_admit_iff.2 hbefore
    have hleft : (classify before excluded blocks).outcome =
        ⟨(allDemands blocks excluded before).foldl meetIn blocks, none⟩ := by
      rw [classify, classifyFrom_eq, meetAll_of_admits hadmits]
    have hall : (classify (before ++ r :: after) excluded blocks).outcome =
        meetAll (allDemands blocks excluded before ++ (demands blocks (user, declarer, r.use.name) ++
          allDemands blocks excluded after)) blocks := by
      rw [classify, classifyFrom_eq, allDemands, List.filterMap_append,
        List.filterMap_cons_some hjoins.link?_eq, List.flatMap_append, List.flatMap_cons]
      rfl
    have hblocks : (classify before excluded blocks).blocks =
        (allDemands blocks excluded before).foldl meetIn blocks := congrArg Outcome.blocks hleft
    refine ⟨congrArg Outcome.failure hleft, ?_⟩
    rw [hblocks, ← meetAll_of_refuse hjoins hrefuse hadmits, ← hall]
    rfl

/-- Two blocks for the server, the second of them frozen. -/
def serverPair : List Block := [new 0 ⟨true, false⟩ 10 20, freeze (new 1 ⟨true, false⟩ 30 40)]

/-- The frozen block reads a name of the other one. -/
def serverRead : Reference := ⟨⟨[1], "x", 35, 36⟩, some ⟨[0], "x", 15, 16⟩⟩

/-- Session state is refused before anything is changed: the declaring block, which may change, gains no
output. -/
theorem refused_session_adds_no_output :
    Joins serverPair (fun _ => false) serverRead 1 0 (freeze (new 1 ⟨true, false⟩ 30 40))
        (new 0 ⟨true, false⟩ 10 20) ∧
      Refuse (freeze (new 1 ⟨true, false⟩ 30 40)) (new 0 ⟨true, false⟩ 10 20) ∧
      (new 0 ⟨true, false⟩ 10 20).frozen = false ∧
      (classify [serverRead] (fun _ => false) serverPair).failure = some (.frozenBlock 1) ∧
      (classify [serverRead] (fun _ => false) serverPair).blocks ≠
        (classify [] (fun _ => false) serverPair).blocks.modify 0 fun b =>
          { b with outputs := b.outputs.insert "x" } := by
  refine ⟨⟨by decide, by decide +kernel, ⟨_, rfl, by decide +kernel⟩, rfl, rfl, by decide⟩, ?_⟩
  decide +kernel

end TierSplit.Block

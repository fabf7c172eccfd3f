import TierSplit.Block.Crossing
import TierSplit.Proofs.Names
import Mathlib.Data.List.Basic

/-! What classifying references does to the blocks. Each reference that counts is a link from a using
block to a declaring block. Blocks take exactly what the links bring: a block gains an input, an
output or session state if and only if some link brings it, in whatever order the links come. -/

namespace TierSplit

theorem TierSet.mem_toList (s : TierSet) (t : Tier) : t ∈ s.toList ↔ s.has t = true := by
  obtain ⟨server, client⟩ := s
  cases t <;> cases server <;> cases client <;> decide

namespace Block

open Scope

/-- The using block, the declaring block and the name. -/
abbrev Link := Nat × Nat × String

/-- Two different blocks, and how a name crosses from one to the other. -/
def Crosses (c : Crossing) (blocks : List Block) (user declarer : Nat) : Prop :=
  user ≠ declarer ∧ ∃ u d, blocks[user]? = some u ∧ blocks[declarer]? = some d ∧ crossing u d = c

theorem crossing_eq_session {u d : Block} :
    u.crossing d = .session ↔ .server ∈ u.tiers.toList ∧ .server ∈ d.tiers.toList := by
  rw [TierSet.mem_toList, TierSet.mem_toList, ← Bool.and_eq_true]
  unfold crossing
  split
  · next hs => exact ⟨fun _ => hs, fun _ => rfl⟩
  · next hs =>
    refine ⟨fun h => ?_, fun h => absurd h hs⟩
    split at h <;> cases h

theorem crossing_eq_channel {u d : Block} :
    u.crossing d = .channel ↔ ∀ t ∈ u.tiers.toList, t ∉ d.tiers.toList := by
  simp only [TierSet.mem_toList]
  unfold crossing
  split
  · next hs =>
    rw [Bool.and_eq_true] at hs
    exact ⟨nofun, fun h => absurd hs.2 (h .server hs.1)⟩
  split
  · next hc =>
    rw [Bool.and_eq_true] at hc
    exact ⟨nofun, fun h => absurd hc.2 (h .client hc.1)⟩
  · next hs hc =>
    rw [Bool.and_eq_true] at hs hc
    refine ⟨fun _ t hu hd => ?_, fun _ => rfl⟩
    cases t with
    | server => exact hs ⟨hu, hd⟩
    | client => exact hc ⟨hu, hd⟩

/-- What classifying never changes. -/
structure Kept (b later : Block) : Prop where
  id : later.id = b.id
  tiers : later.tiers = b.tiers
  start : later.start = b.start
  stop : later.stop = b.stop
  frozen : later.frozen = b.frozen

theorem Kept.refl (b : Block) : Kept b b := ⟨rfl, rfl, rfl, rfl, rfl⟩

theorem Kept.trans {a b c : Block} (hab : Kept a b) (hbc : Kept b c) : Kept a c :=
  ⟨hbc.id.trans hab.id, hbc.tiers.trans hab.tiers, hbc.start.trans hab.start,
    hbc.stop.trans hab.stop, hbc.frozen.trans hab.frozen⟩

/-- Block `i` before and after taking what the links bring. -/
structure Takes (blocks : List Block) (links : List Link) (i : Nat) (b later : Block) : Prop where
  kept : Kept b later
  inputs : ∀ n, n ∈ later.inputs ↔
    n ∈ b.inputs ∨ ∃ d, (i, d, n) ∈ links ∧ Crosses .channel blocks i d
  outputs : ∀ n, n ∈ later.outputs ↔
    n ∈ b.outputs ∨ ∃ u, (u, i, n) ∈ links ∧ Crosses .channel blocks u i
  session : later.session = true ↔
    b.session = true ∨ ∃ d n, (i, d, n) ∈ links ∧ Crosses .session blocks i d

def TakesAll (blocks : List Block) (links : List Link) (later : List Block) : Prop :=
  later.length = blocks.length ∧
    ∀ i b, blocks[i]? = some b → ∃ b', later[i]? = some b' ∧ Takes blocks links i b b'

theorem crossing_kept {u u' d d' : Block} (hu : Kept u u') (hd : Kept d d') :
    crossing u' d' = crossing u d := by
  unfold crossing isServer isClient
  rw [hu.tiers, hd.tiers]

theorem TakesAll.exists_before {blocks later : List Block} {links : List Link}
    (h : TakesAll blocks links later) {i : Nat} {b' : Block} (hb' : later[i]? = some b') :
    ∃ b, blocks[i]? = some b ∧ Takes blocks links i b b' := by
  have hi := (List.getElem?_eq_some_iff.1 hb').1
  rw [h.1] at hi
  have hb := List.getElem?_eq_getElem hi
  obtain ⟨b'', hb'', ht⟩ := h.2 i _ hb
  rw [hb'] at hb''
  cases hb''
  exact ⟨_, hb, ht⟩

theorem TakesAll.crosses_iff {blocks later : List Block} {links : List Link}
    (h : TakesAll blocks links later) (c : Crossing) (user declarer : Nat) :
    Crosses c later user declarer ↔ Crosses c blocks user declarer := by
  unfold Crosses
  refine and_congr_right fun _ => ⟨?_, ?_⟩
  · rintro ⟨u', d', hu', hd', hc⟩
    obtain ⟨u, hu, htu⟩ := h.exists_before hu'
    obtain ⟨d, hd, htd⟩ := h.exists_before hd'
    exact ⟨u, d, hu, hd, (crossing_kept htu.kept htd.kept).symm.trans hc⟩
  · rintro ⟨u, d, hu, hd, hc⟩
    obtain ⟨u', hu', htu⟩ := h.2 _ u hu
    obtain ⟨d', hd', htd⟩ := h.2 _ d hd
    exact ⟨u', d', hu', hd', (crossing_kept htu.kept htd.kept).trans hc⟩

theorem TakesAll.trans {a b c : List Block} {first second : List Link} (hab : TakesAll a first b)
    (hbc : TakesAll b second c) : TakesAll a (first ++ second) c := by
  refine ⟨hbc.1.trans hab.1, fun i x hx => ?_⟩
  obtain ⟨y, hy, hxy⟩ := hab.2 i x hx
  obtain ⟨z, hz, hyz⟩ := hbc.2 i y hy
  refine ⟨z, hz, hxy.kept.trans hyz.kept, fun n => ?_, fun n => ?_, ?_⟩
  · rw [hyz.inputs, hxy.inputs, or_assoc]
    simp only [hab.crosses_iff, List.mem_append, or_and_right, exists_or]
  · rw [hyz.outputs, hxy.outputs, or_assoc]
    simp only [hab.crosses_iff, List.mem_append, or_and_right, exists_or]
  · rw [hyz.session, hxy.session, or_assoc]
    simp only [hab.crosses_iff, List.mem_append, or_and_right, exists_or]

/-! ### One reference -/

section

variable {blocks : List Block} {user declarer : Nat} {name : String}

theorem link_from_iff (c : Crossing) (i : Nat) (n : String) :
    (∃ d, (i, d, n) ∈ [(user, declarer, name)] ∧ Crosses c blocks i d) ↔
      i = user ∧ n = name ∧ Crosses c blocks user declarer := by
  simp only [List.mem_singleton, Prod.mk.injEq]
  constructor
  · rintro ⟨d, ⟨rfl, rfl, rfl⟩, h⟩
    exact ⟨rfl, rfl, h⟩
  · rintro ⟨rfl, rfl, h⟩
    exact ⟨declarer, ⟨rfl, rfl, rfl⟩, h⟩

theorem link_to_iff (c : Crossing) (i : Nat) (n : String) :
    (∃ u, (u, i, n) ∈ [(user, declarer, name)] ∧ Crosses c blocks u i) ↔
      i = declarer ∧ n = name ∧ Crosses c blocks user declarer := by
  simp only [List.mem_singleton, Prod.mk.injEq]
  constructor
  · rintro ⟨u, ⟨rfl, rfl, rfl⟩, h⟩
    exact ⟨rfl, rfl, h⟩
  · rintro ⟨rfl, rfl, h⟩
    exact ⟨user, ⟨rfl, rfl, rfl⟩, h⟩

/-- What one link brings to a block, told by the three things a block can gain. -/
theorem takes_link {i : Nat} {b later : Block} (kept : Kept b later)
    (inputs : ∀ n, n ∈ later.inputs ↔
      n ∈ b.inputs ∨ (i = user ∧ n = name ∧ Crosses .channel blocks user declarer))
    (outputs : ∀ n, n ∈ later.outputs ↔
      n ∈ b.outputs ∨ (i = declarer ∧ n = name ∧ Crosses .channel blocks user declarer))
    (session : later.session = true ↔
      b.session = true ∨ (i = user ∧ Crosses .session blocks user declarer)) :
    Takes blocks [(user, declarer, name)] i b later := by
  refine ⟨kept, fun n => ?_, fun n => ?_, ?_⟩
  · rw [inputs, link_from_iff]
  · rw [outputs, link_to_iff]
  · rw [session, exists_comm]
    simp only [link_from_iff, exists_eq_left, exists_and_left]

theorem takesAll_idle (hs : ¬Crosses .session blocks user declarer)
    (hc : ¬Crosses .channel blocks user declarer) :
    TakesAll blocks [(user, declarer, name)] blocks :=
  ⟨rfl, fun i b hb => ⟨b, hb, takes_link (Kept.refl b) (by simp [hc]) (by simp [hc]) (by simp [hs])⟩⟩

theorem takesAll_session {u : Block} (hu : blocks[user]? = some u)
    (hs : Crosses .session blocks user declarer) (hc : ¬Crosses .channel blocks user declarer) :
    TakesAll blocks [(user, declarer, name)] (blocks.set user { u with session := true }) := by
  have hlt := (List.getElem?_eq_some_iff.1 hu).1
  refine ⟨List.length_set, fun i b hb => ?_⟩
  by_cases hi : user = i
  · subst hi
    rw [hu] at hb
    cases hb
    refine ⟨{ u with session := true }, List.getElem?_set_self hlt,
      takes_link ⟨rfl, rfl, rfl, rfl, rfl⟩ ?_ ?_ ?_⟩
    · simp [hc]
    · simp [hc]
    · simp [hs]
  · refine ⟨b, by rw [List.getElem?_set_ne hi, hb], takes_link (Kept.refl b) ?_ ?_ ?_⟩
    · simp [hc]
    · simp [hc]
    · simp [Ne.symm hi]

theorem takesAll_channel {u d : Block} (hu : blocks[user]? = some u) (hd : blocks[declarer]? = some d)
    (hc : Crosses .channel blocks user declarer) (hs : ¬Crosses .session blocks user declarer) :
    TakesAll blocks [(user, declarer, name)]
      ((blocks.set declarer { d with outputs := d.outputs.insert name }).set user
        { u with inputs := u.inputs.insert name }) := by
  have hltu := (List.getElem?_eq_some_iff.1 hu).1
  have hltd := (List.getElem?_eq_some_iff.1 hd).1
  have hne := hc.1
  refine ⟨by simp, fun i b hb => ?_⟩
  by_cases hi : user = i
  · subst hi
    rw [hu] at hb
    cases hb
    refine ⟨{ u with inputs := u.inputs.insert name }, List.getElem?_set_self (by simpa using hltu),
      takes_link ⟨rfl, rfl, rfl, rfl, rfl⟩ ?_ ?_ ?_⟩
    · simp [Names.mem_insert, hc, or_comm]
    · simp [hne]
    · simp [hs]
  by_cases hj : declarer = i
  · subst hj
    rw [hd] at hb
    cases hb
    refine ⟨{ d with outputs := d.outputs.insert name },
      by rw [List.getElem?_set_ne hi, List.getElem?_set_self hltd],
      takes_link ⟨rfl, rfl, rfl, rfl, rfl⟩ ?_ ?_ ?_⟩
    · simp [hne.symm]
    · simp [Names.mem_insert, hc, or_comm]
    · simp [hs]
  · refine ⟨b, by rw [List.getElem?_set_ne hi, List.getElem?_set_ne hj, hb],
      takes_link (Kept.refl b) ?_ ?_ ?_⟩
    · simp [Ne.symm hi]
    · simp [Ne.symm hj]
    · simp [hs]

end

theorem onBlock_change {blocks : List Block} {i : Nat} {b : Block} (hb : blocks[i]? = some b)
    (hf : b.frozen = false) (f : Block → Block) :
    Outcome.onBlock i (change f) blocks = ⟨blocks.set i (f b), none⟩ := by
  simp [Outcome.onBlock, hb, change, hf]

def Unfrozen (blocks : List Block) : Prop := ∀ b ∈ blocks, b.frozen = false

theorem TakesAll.unfrozen {blocks later : List Block} {links : List Link}
    (h : TakesAll blocks links later) (hf : Unfrozen blocks) : Unfrozen later := by
  intro b' hb'
  obtain ⟨i, hi⟩ := List.getElem?_of_mem hb'
  obtain ⟨b, hb, ht⟩ := h.exists_before hi
  rw [ht.kept.frozen]
  exact hf b (List.mem_of_getElem? hb)

theorem crosses_unique {blocks : List Block} {user declarer : Nat} {u d : Block}
    (hu : blocks[user]? = some u) (hd : blocks[declarer]? = some d) {c : Crossing} :
    Crosses c blocks user declarer ↔ user ≠ declarer ∧ crossing u d = c := by
  simp [Crosses, hu, hd]

theorem applyReference_takesAll {blocks : List Block} (hf : Unfrozen blocks) {user declarer : Nat}
    (hu : user < blocks.length) (hd : declarer < blocks.length) (name : String) :
    ∃ later, applyReference user declarer name blocks = ⟨later, none⟩ ∧
      TakesAll blocks [(user, declarer, name)] later := by
  have hu' := List.getElem?_eq_getElem hu
  have hd' := List.getElem?_eq_getElem hd
  have hfu := hf _ (List.getElem_mem hu)
  have hfd := hf _ (List.getElem_mem hd)
  have hcross : ∀ {c : Crossing}, Crosses c blocks user declarer ↔ user ≠ declarer ∧
      crossing blocks[user] blocks[declarer] = c := crosses_unique hu' hd'
  unfold applyReference
  by_cases heq : user = declarer
  · rw [if_pos heq]
    exact ⟨blocks, rfl, takesAll_idle (fun h => h.1 heq) fun h => h.1 heq⟩
  rw [if_neg heq, hu', hd']
  simp only
  cases hk : crossing blocks[user] blocks[declarer] with
  | none =>
    exact ⟨blocks, rfl, takesAll_idle (by simp [hcross, hk]) (by simp [hcross, hk])⟩
  | session =>
    refine ⟨_, onBlock_change hu' hfu _, takesAll_session hu' ?_ ?_⟩
    · exact hcross.2 ⟨heq, hk⟩
    · simp [hcross, hk]
  | channel =>
    have hset : (blocks.set declarer
        { blocks[declarer] with outputs := blocks[declarer].outputs.insert name })[user]? =
          some blocks[user] := by
      rw [List.getElem?_set_ne (Ne.symm heq), hu']
    refine ⟨_, ?_, takesAll_channel hu' hd' (hcross.2 ⟨heq, hk⟩) (by simp [hcross, hk])⟩
    simp only [addOutput, addInput, onBlock_change hd' hfd, Outcome.andThen]
    exact onBlock_change hset hfu _

/-! ### All references -/

theorem TakesAll.map_eq {α : Type} {f : Block → α} (hf : ∀ b b', Kept b b' → f b' = f b)
    {blocks later : List Block} {links : List Link} (h : TakesAll blocks links later) :
    later.map f = blocks.map f := by
  refine List.ext_getElem? fun i => ?_
  rw [List.getElem?_map, List.getElem?_map]
  cases hb : blocks[i]? with
  | none =>
    rw [List.getElem?_eq_none_iff] at hb
    rw [List.getElem?_eq_none (by rw [h.1]; exact hb)]
  | some b =>
    obtain ⟨b', hb', ht⟩ := h.2 i b hb
    rw [hb', Option.map_some, Option.map_some, hf b b' ht.kept]

theorem TakesAll.map_stop {blocks later : List Block} {links : List Link}
    (h : TakesAll blocks links later) : later.map Block.stop = blocks.map Block.stop :=
  h.map_eq fun _ _ hk => hk.stop

theorem TakesAll.link?_eq {blocks later : List Block} {links : List Link}
    (h : TakesAll blocks links later) (excluded : Reference → Bool) (r : Reference) :
    link? later excluded r = link? blocks excluded r := by
  have howner : ∀ offset, ownerIndex later offset = ownerIndex blocks offset := by
    intro offset
    rw [ownerIndex, ownerIndex, h.map_stop]
  unfold link?
  simp only [howner, h.1]

theorem link?_eq_some {blocks : List Block} {excluded : Reference → Bool} {r : Reference}
    {i j : Nat} {name : String} :
    link? blocks excluded r = some (i, j, name) ↔
      ∃ d, r.declaration = some d ∧ ¬excluded r = true ∧ r.use.name = name ∧
        (ownerIndex blocks r.use.stop = i ∧ i < blocks.length) ∧
        (ownerIndex blocks d.stop = j ∧ j < blocks.length) := by
  unfold link?
  cases hd : r.declaration with
  | none => simp
  | some d =>
    simp only [Option.some.injEq, exists_eq_left']
    split
    · next he => simp [he]
    · next he =>
      split
      · next hlt =>
        simp only [Option.some.injEq, Prod.mk.injEq]
        constructor
        · rintro ⟨rfl, rfl, rfl⟩
          exact ⟨he, rfl, ⟨rfl, hlt.1⟩, rfl, hlt.2⟩
        · rintro ⟨-, rfl, ⟨rfl, -⟩, rfl, -⟩
          exact ⟨rfl, rfl, rfl⟩
      · next hlt =>
        refine ⟨nofun, ?_⟩
        rintro ⟨-, -, ⟨rfl, hi⟩, rfl, hj⟩
        exact absurd ⟨hi, hj⟩ hlt

/-- Classifying never fails on blocks that may change, and the blocks take what the links bring. -/
theorem classifyFrom_takesAll {blocks : List Block} (hf : Unfrozen blocks) (count : Nat)
    (excluded : Reference → Bool) (references : List Reference) :
    (classifyFrom count blocks excluded references).failure = none ∧
      TakesAll blocks (references.filterMap (link? blocks excluded))
        (classifyFrom count blocks excluded references).blocks := by
  induction references generalizing count blocks with
  | nil =>
    refine ⟨rfl, rfl, fun i b hb => ⟨b, hb, Kept.refl b, ?_, ?_, ?_⟩⟩ <;> simp
  | cons r rest ih =>
    rw [classifyFrom]
    cases hl : link? blocks excluded r with
    | none =>
      rw [List.filterMap_cons_none hl]
      exact ih hf count
    | some link =>
      obtain ⟨user, declarer, name⟩ := link
      obtain ⟨d, -, -, -, ⟨-, hu⟩, -, hd⟩ := link?_eq_some.1 hl
      obtain ⟨later, happ, htake⟩ := applyReference_takesAll hf hu hd name
      obtain ⟨hfail, hrest⟩ := ih (htake.unfrozen hf) (count + 1)
      rw [List.filterMap_cons_some hl]
      simp only [happ]
      refine ⟨hfail, ?_⟩
      have hlinks : rest.filterMap (link? later excluded) = rest.filterMap (link? blocks excluded) :=
        List.filterMap_congr fun r _ => htake.link?_eq excluded r
      rw [hlinks] at hrest
      exact htake.trans hrest

end Block

end TierSplit

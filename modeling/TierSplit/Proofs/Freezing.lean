import TierSplit.Block.Operation
import TierSplit.Proofs.Classification
import TierSplit.Proofs.Fragments

/-! Frozen blocks. Whatever is done to a list of blocks, failures included, a block keeps its id, its
tiers and its span, it only gains names and the need of session state, and once frozen it stays as it
is. An operation leaves the blocks alone that it does not name, and rendering changes none. -/

namespace TierSplit.Block

/-- The later block is the same one, with more names and more needs. -/
structure Gains (b later : Block) : Prop where
  id : later.id = b.id
  tiers : later.tiers = b.tiers
  start : later.start = b.start
  stop : later.stop = b.stop
  inputs : b.inputs ⊆ later.inputs
  outputs : b.outputs ⊆ later.outputs
  session : b.session = true → later.session = true

/-- A block before and after some operations. -/
structure Evolves (b later : Block) : Prop extends Gains b later where
  frozen : b.frozen = true → later = b

theorem Gains.refl (b : Block) : Gains b b :=
  ⟨rfl, rfl, rfl, rfl, List.Subset.refl _, List.Subset.refl _, fun h => h⟩

theorem Gains.trans {a b c : Block} (hab : Gains a b) (hbc : Gains b c) : Gains a c :=
  ⟨hbc.id.trans hab.id, hbc.tiers.trans hab.tiers, hbc.start.trans hab.start,
    hbc.stop.trans hab.stop, List.Subset.trans hab.inputs hbc.inputs,
    List.Subset.trans hab.outputs hbc.outputs,
    fun h => hbc.session (hab.session h)⟩

theorem Evolves.refl (b : Block) : Evolves b b := ⟨.refl b, fun _ => rfl⟩

theorem Evolves.trans {a b c : Block} (hab : Evolves a b) (hbc : Evolves b c) : Evolves a c := by
  refine ⟨hab.toGains.trans hbc.toGains, ?_⟩
  intro hf
  obtain rfl := hab.frozen hf
  exact hbc.frozen hf

/-! ### One block -/

theorem change_frozen {b : Block} (h : b.frozen = true) (f : Block → Block) :
    change f b = .error (.frozenBlock b.id) := by
  rw [change, if_pos h]

theorem change_evolves {f : Block → Block} (hf : ∀ b, Gains b (f b)) {b later : Block}
    (h : change f b = .ok later) : Evolves b later := by
  unfold change at h
  split at h
  · cases h
  · next hfrozen =>
    cases h
    exact ⟨hf b, fun h => absurd h hfrozen⟩

theorem subset_insert (names : Names) (name : String) : names ⊆ names.insert name := by
  intro n hn
  rw [Names.mem_insert]
  exact .inr hn

theorem addInput_evolves {name : String} {b later : Block} (h : addInput name b = .ok later) :
    Evolves b later := by
  have hgains : ∀ b : Block, Gains b { b with inputs := b.inputs.insert name } :=
    fun b => { Gains.refl b with inputs := subset_insert b.inputs name }
  exact change_evolves hgains h

theorem addOutput_evolves {name : String} {b later : Block} (h : addOutput name b = .ok later) :
    Evolves b later := by
  have hgains : ∀ b : Block, Gains b { b with outputs := b.outputs.insert name } :=
    fun b => { Gains.refl b with outputs := subset_insert b.outputs name }
  exact change_evolves hgains h

theorem requireSession_evolves {b later : Block} (h : requireSession b = .ok later) :
    Evolves b later := by
  have hgains : ∀ b : Block, Gains b { b with session := true } :=
    fun b => { Gains.refl b with session := fun _ => rfl }
  exact change_evolves hgains h

theorem freeze_evolves (b : Block) : Evolves b b.freeze := by
  refine ⟨{ Gains.refl b with }, fun h => ?_⟩
  cases b
  subst h
  rfl

/-! ### All blocks -/

/-- Every block has evolved, and those that are not named are as they were. -/
def Touches (named : List Nat) (blocks later : List Block) : Prop :=
  later.length = blocks.length ∧
    ∀ i b, blocks[i]? = some b → ∃ b', later[i]? = some b' ∧ Evolves b b' ∧ (i ∉ named → b' = b)

theorem Touches.refl (named : List Nat) (blocks : List Block) : Touches named blocks blocks :=
  ⟨rfl, fun _ b hb => ⟨b, hb, .refl b, fun _ => rfl⟩⟩

theorem Touches.trans {named : List Nat} {a b c : List Block} (hab : Touches named a b)
    (hbc : Touches named b c) : Touches named a c := by
  refine ⟨hbc.1.trans hab.1, ?_⟩
  intro i x hx
  obtain ⟨y, hy, hxy, hyx⟩ := hab.2 i x hx
  obtain ⟨z, hz, hyz, hzy⟩ := hbc.2 i y hy
  exact ⟨z, hz, hxy.trans hyz, fun hi => (hzy hi).trans (hyx hi)⟩

theorem Touches.mono {named named' : List Nat} (h : named ⊆ named') {blocks later : List Block}
    (ht : Touches named blocks later) : Touches named' blocks later := by
  refine ⟨ht.1, ?_⟩
  intro i b hb
  obtain ⟨b', hb', hevolves, hsame⟩ := ht.2 i b hb
  exact ⟨b', hb', hevolves, fun hi => hsame fun hmem => hi (h hmem)⟩

theorem onBlock_touches {f : Block → Except Failure Block}
    (hf : ∀ b later, f b = .ok later → Evolves b later) {named : List Nat} {i : Nat} (hi : i ∈ named)
    (blocks : List Block) : Touches named blocks (Outcome.onBlock i f blocks).blocks := by
  unfold Outcome.onBlock
  split
  · exact .refl named blocks
  · next b hb =>
    split
    · next b' hb' =>
      have hlt := (List.getElem?_eq_some_iff.1 hb).1
      refine ⟨List.length_set, ?_⟩
      intro j c hc
      by_cases hij : i = j
      · subst hij
        rw [hb] at hc
        cases hc
        exact ⟨b', List.getElem?_set_self hlt, hf b b' hb', fun hj => absurd hi hj⟩
      · exact ⟨c, by rw [List.getElem?_set_ne hij, hc], .refl c, fun _ => rfl⟩
    · exact .refl named blocks

theorem andThen_touches {named : List Nat} {blocks : List Block} {o : Outcome}
    {f : List Block → Outcome} (ho : Touches named blocks o.blocks)
    (hf : ∀ bs, Touches named bs (f bs).blocks) : Touches named blocks (o.andThen f).blocks := by
  unfold Outcome.andThen
  split
  · exact ho.trans (hf o.blocks)
  · exact ho

/-- A reference touches its two blocks only, also where it fails after the first of them. -/
theorem applyReference_touches (user declarer : Nat) (name : String) (blocks : List Block) :
    Touches [user, declarer] blocks (applyReference user declarer name blocks).blocks := by
  unfold applyReference
  split
  · exact .refl _ blocks
  split
  · split
    · exact .refl _ blocks
    · exact onBlock_touches (fun _ _ => requireSession_evolves) (by simp) blocks
    · apply andThen_touches
      · exact onBlock_touches (fun _ _ => addOutput_evolves) (by simp) blocks
      · intro bs
        exact onBlock_touches (fun _ _ => addInput_evolves) (by simp) bs
  · exact .refl _ blocks

/-! ### Operations -/

def Operation.named : Operation → List Nat
  | .addInput i _ => [i]
  | .addOutput i _ => [i]
  | .requireSession i => [i]
  | .freeze i => [i]
  | .reference user declarer _ => [user, declarer]
  | .generate _ _ => []

theorem run_touches (op : Operation) (blocks : List Block) :
    Touches op.named blocks (op.run blocks).blocks := by
  cases op with
  | addInput i name =>
    exact onBlock_touches (fun _ _ => addInput_evolves) (List.mem_singleton_self i) blocks
  | addOutput i name =>
    exact onBlock_touches (fun _ _ => addOutput_evolves) (List.mem_singleton_self i) blocks
  | requireSession i =>
    exact onBlock_touches (fun _ _ => requireSession_evolves) (List.mem_singleton_self i) blocks
  | freeze i =>
    apply onBlock_touches ?_ (List.mem_singleton_self i)
    intro b later h
    cases h
    exact freeze_evolves b
  | reference user declarer name => exact applyReference_touches user declarer name blocks
  | generate bytes channels => exact .refl _ blocks

theorem runAll_touches (operations : List Operation) (blocks : List Block) :
    Touches (operations.flatMap Operation.named) blocks (runAll operations blocks) := by
  induction operations generalizing blocks with
  | nil => exact .refl _ blocks
  | cons op rest ih =>
    have hfirst := (run_touches op blocks).mono
      (List.subset_append_left op.named (rest.flatMap Operation.named))
    have hrest := (ih (op.run blocks).blocks).mono
      (List.subset_append_right op.named (rest.flatMap Operation.named))
    exact hfirst.trans hrest

theorem runAll_append (first second : List Operation) (blocks : List Block) :
    runAll (first ++ second) blocks = runAll second (runAll first blocks) :=
  List.foldl_append

/-! ### Rendering -/

/-- The failure is that of a server block which is not frozen; without such a block there is none. -/
def FailsOnUnfrozen (blocks : List Block) (failure : Option Failure) : Prop :=
  (failure = none ↔ ∀ b ∈ blocks, b.isServer = true → b.frozen = true) ∧
    ∀ e, failure = some e →
      ∃ b ∈ blocks, b.isServer = true ∧ b.frozen = false ∧ e = .unfrozenBlock b.id

section

variable {bytes : ByteArray} {channels : Channels}

theorem generate_failsOnUnfrozen {blocks : List Block}
    (hs : ∀ b ∈ blocks, b.isServer = true → ∃ piece, Source.slice bytes b.start b.stop = .ok piece) :
    FailsOnUnfrozen blocks (failureOf (Fragment.generate bytes channels blocks)) := by
  rw [Fragment.generate_eq_mapM]
  cases hg : (blocks.filter isServer).mapM (Fragment.ofBlock bytes channels) with
  | ok fragments =>
    refine ⟨⟨fun _ b hb hserver => ?_, fun _ => rfl⟩, fun e he => by cases he⟩
    obtain ⟨f, -, hf⟩ := exists_of_mem_right (mapM_eq_ok_iff.1 hg).flip
      (List.mem_filter.2 ⟨hb, hserver⟩)
    by_contra hfrozen
    rw [Fragment.ofBlock_unfrozen (Bool.eq_false_iff.2 hfrozen)] at hf
    cases hf
  | error e =>
    obtain ⟨b, hb, hbe⟩ := exists_of_mapM_eq_error hg
    obtain ⟨hb, hserver⟩ := List.mem_filter.1 hb
    obtain ⟨hfrozen, rfl⟩ := Fragment.ofBlock_fails (hs b hb hserver) hbe
    refine ⟨⟨nofun, fun hall => ?_⟩, fun e' he' => ?_⟩
    · rw [hall b hb hserver] at hfrozen
      cases hfrozen
    · cases he'
      exact ⟨b, hb, hserver, hfrozen, rfl⟩

end

/-! ### Whole sequences -/

theorem onBlock_frozen {blocks : List Block} {i : Nat} {b : Block} (hb : blocks[i]? = some b)
    (hf : b.frozen = true) (f : Block → Block) :
    Outcome.onBlock i (change f) blocks = ⟨blocks, some (.frozenBlock b.id)⟩ := by
  unfold Outcome.onBlock
  simp only [hb, change_frozen hf]

/-- After any operations, more of them let blocks only evolve, and only those that are named. A frozen
block refuses every change. Rendering changes no block and fails exactly where one that runs on the
server is not frozen. -/
theorem blocks_evolve (blocks : List Block) (earlier later : List Operation) :
    let reached := runAll earlier blocks
    Touches (later.flatMap Operation.named) reached (runAll (earlier ++ later) blocks) ∧
      (∀ i b, reached[i]? = some b → b.frozen = true →
        (∀ name, (Operation.addInput i name).run reached = ⟨reached, some (.frozenBlock b.id)⟩ ∧
          (Operation.addOutput i name).run reached = ⟨reached, some (.frozenBlock b.id)⟩) ∧
        (Operation.requireSession i).run reached = ⟨reached, some (.frozenBlock b.id)⟩) ∧
      ∀ bytes channels, ((Operation.generate bytes channels).run reached).blocks = reached ∧
        ((∀ b ∈ reached, b.isServer = true → ∃ piece, Source.slice bytes b.start b.stop = .ok piece) →
          FailsOnUnfrozen reached ((Operation.generate bytes channels).run reached).failure) := by
  intro reached
  refine ⟨?_, ?_, ?_⟩
  · rw [runAll_append]
    exact runAll_touches later reached
  · intro i b hb hf
    exact ⟨fun name => ⟨onBlock_frozen hb hf _, onBlock_frozen hb hf _⟩, onBlock_frozen hb hf _⟩
  · intro bytes channels
    exact ⟨rfl, fun hs => generate_failsOnUnfrozen hs⟩

/-- A reference into a frozen block stops halfway: the block of the declaration has its output. -/
example :
    let a := new 0 ⟨true, false⟩ 0 4
    let b := freeze (new 1 ⟨false, true⟩ 8 12)
    (Operation.reference 1 0 "x").run [a, b] =
      ⟨[{ a with outputs := ["x"] }, b], some (.frozenBlock 1)⟩ := by
  decide

end TierSplit.Block

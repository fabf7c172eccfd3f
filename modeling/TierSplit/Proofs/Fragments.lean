import TierSplit.Proofs.Fallible
import TierSplit.Result

/-! What a fragment says of its block. There is one fragment for each server block, in order; it shows
what crosses the border of the block, and its code is the block's piece of the text between the line
that takes the inputs and the line that gives the outputs. -/

namespace TierSplit

/-- The fragment and the block tell the same about what crosses. -/
structure Fragment.Shows (f : Fragment) (b : Block) : Prop where
  id : f.id = b.id
  session : f.session = b.session
  inputs : f.inputs = b.inputs
  outputs : f.outputs = b.outputs

/-- The fragment holds the code of the block that is summarized. -/
structure Fragment.Renders (bytes : ByteArray) (channels : Channels) (f : Fragment) (b : Summary) :
    Prop where
  id : f.id = b.id
  inputs : f.inputs = b.inputs
  outputs : f.outputs = b.outputs
  code : ∃ piece, Source.slice bytes b.start b.stop = .ok piece ∧
    f.code = "\n".intercalate
      (Fragment.inputLine channels b.inputs ++ [piece, Fragment.outputLine channels b.outputs])

namespace Fragment

variable {bytes : ByteArray} {channels : Channels}

theorem render_eq_ok {b : Block} {code : String} (h : render bytes channels b = .ok code) :
    ∃ piece, Source.slice bytes b.start b.stop = .ok piece ∧
      code = "\n".intercalate (inputLine channels b.inputs ++ [piece, outputLine channels b.outputs]) := by
  unfold render at h
  cases hs : Source.slice bytes b.start b.stop with
  | error e => rw [hs] at h; cases h
  | ok piece => rw [hs] at h; cases h; exact ⟨piece, rfl, rfl⟩

theorem ofBlock_eq_ok {b : Block} {f : Fragment} (h : ofBlock bytes channels b = .ok f) :
    f.Shows b ∧ f.Renders bytes channels (.ofBlock b) := by
  unfold ofBlock at h
  split at h
  · cases hr : render bytes channels b with
    | error e => rw [hr] at h; cases h
    | ok code =>
      rw [hr] at h
      cases h
      exact ⟨⟨rfl, rfl, rfl, rfl⟩, rfl, rfl, rfl, render_eq_ok hr⟩
  · cases h

theorem ofBlock_unfrozen {b : Block} (h : b.frozen = false) :
    ofBlock bytes channels b = .error (.unfrozenBlock b.id) := by
  rw [ofBlock, h]
  rfl

theorem exists_ofBlock {b : Block} (h : b.frozen = true) {piece : String}
    (hs : Source.slice bytes b.start b.stop = .ok piece) :
    ∃ f, ofBlock bytes channels b = .ok f := by
  rw [ofBlock, if_pos h, render, hs]
  exact ⟨_, rfl⟩

theorem ofBlock_fails {b : Block} {e : Failure}
    (hs : ∃ piece, Source.slice bytes b.start b.stop = .ok piece)
    (h : ofBlock bytes channels b = .error e) : b.frozen = false ∧ e = .unfrozenBlock b.id := by
  cases hf : b.frozen with
  | false =>
    rw [ofBlock_unfrozen hf] at h
    cases h
    exact ⟨rfl, rfl⟩
  | true =>
    obtain ⟨piece, hpiece⟩ := hs
    obtain ⟨f, hok⟩ := exists_ofBlock hf hpiece
    rw [hok] at h
    cases h

theorem generate_eq_mapM (blocks : List Block) :
    generate bytes channels blocks = (blocks.filter Block.isServer).mapM (ofBlock bytes channels) := by
  induction blocks with
  | nil => rfl
  | cons b rest ih =>
    rw [generate]
    split
    · next hs =>
      rw [List.filter_cons_of_pos hs, List.mapM_cons, ih]
      cases ofBlock bytes channels b with
      | error e => rfl
      | ok f => cases (rest.filter Block.isServer).mapM (ofBlock bytes channels) <;> rfl
    · next hs => rw [List.filter_cons_of_neg hs, ih]

theorem generate_eq_ok {blocks : List Block} {fragments : List Fragment}
    (h : generate bytes channels blocks = .ok fragments) :
    List.Forall₂ (fun f b => ofBlock bytes channels b = .ok f) fragments
      (blocks.filter Block.isServer) := by
  rw [generate_eq_mapM, mapM_eq_ok_iff] at h
  exact h.flip

/-- A fragment that has inputs opens with the line that takes them from the channel. -/
theorem Renders.opening {f : Fragment} {b : Summary} (h : f.Renders bytes channels b)
    (hne : b.inputs ≠ []) :
    ∃ rest, f.code = ";const " ++ bag f.inputs ++ " = " ++ channels.input ++ ";" ++ "\n" ++ rest := by
  obtain ⟨piece, -, hcode⟩ := h.code
  have hempty : ¬b.inputs.isEmpty = true := by simpa using hne
  rw [inputLine, if_neg hempty, ← h.inputs] at hcode
  refine ⟨"\n".intercalate [piece, outputLine channels b.outputs], ?_⟩
  rw [hcode, List.singleton_append, String.intercalate_cons_cons]

end Fragment

end TierSplit

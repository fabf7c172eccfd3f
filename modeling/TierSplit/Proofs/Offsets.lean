import TierSplit.Proofs.Slices

/-! What a slice by byte offsets is. Any two integers are offsets: each means one position of the text,
and the slice between the two is either the characters encoded between them or, where a position lies
inside the encoding of a character, a failure. -/

namespace TierSplit.Source

/-- The position that an offset means in a text of `size` bytes. -/
inductive Means (size : Nat) : Int → Nat → Prop
  | inside {position : Nat} : position ≤ size → Means size position position
  | behind {offset : Int} : size < offset → Means size offset size
  | fromEnd {back : Nat} : 0 < back → back ≤ size → Means size (-back) (size - back)
  | before {offset : Int} : offset < -size → Means size offset 0

/-- The position lies strictly inside the encoding of a character. -/
def InsideCharacter (text : String) (position : Nat) : Prop :=
  ∃ (before : String) (c : Char) (after : String), text = before ++ String.singleton c ++ after ∧
    before.utf8ByteSize < position ∧ position < before.utf8ByteSize + c.utf8Size

/-- The piece is what the text has between two positions; nothing if the second is not behind the
first. -/
def Between (text : String) (lo hi : Nat) (piece : String) : Prop :=
  if lo < hi then
    ∃ before after, text = before ++ piece ++ after ∧ before.utf8ByteSize = lo ∧
      (before ++ piece).utf8ByteSize = hi
  else piece = ""

/-! ### Positions -/

theorem means_position (size : Nat) (offset : Int) : Means size offset (position size offset) := by
  unfold position
  split
  · next hneg =>
    by_cases hfar : offset < -size
    · rw [Int.toNat_of_nonpos (by omega)]
      exact .before hfar
    · obtain ⟨back, rfl⟩ : ∃ back : Nat, offset = -back := ⟨offset.natAbs, by omega⟩
      rw [show (-(back : Int) + size).toNat = size - back by omega]
      exact .fromEnd (by omega) (by omega)
  · by_cases hfar : size < offset
    · rw [Nat.min_eq_right (by omega)]
      exact .behind hfar
    · obtain ⟨position, rfl⟩ : ∃ position : Nat, offset = position := ⟨offset.toNat, by omega⟩
      rw [Int.toNat_natCast, Nat.min_eq_left (by omega)]
      exact .inside (by omega)

theorem Means.eq_position {size p : Nat} {offset : Int} (h : Means size offset p) :
    p = position size offset := by
  unfold position
  cases h <;> split <;> omega

theorem means_zero (size : Nat) : Means size 0 0 := .inside (Nat.zero_le size)

theorem Means.le_size {size p : Nat} {offset : Int} (h : Means size offset p) : p ≤ size :=
  h.eq_position ▸ position_le size offset

theorem existsUnique_means (size : Nat) (offset : Int) :
    ∃ p, Means size offset p ∧ ∀ q, Means size offset q → q = p :=
  ⟨_, means_position size offset, fun _ hq => hq.eq_position⟩

/-! ### Inside a character -/

theorem Boundary.cons {rest : String} {p : Nat} (c : Char) (h : Boundary rest p) :
    Boundary (String.singleton c ++ rest) (c.utf8Size + p : Nat) := by
  obtain ⟨before, after, rfl, hp⟩ := h
  refine ⟨String.singleton c ++ before, after, String.append_assoc.symm, ?_⟩
  rw [String.utf8ByteSize_append, String.utf8ByteSize_singleton]
  omega

theorem InsideCharacter.cons {rest : String} {p : Nat} (c : Char) (h : InsideCharacter rest p) :
    InsideCharacter (String.singleton c ++ rest) (c.utf8Size + p) := by
  obtain ⟨before, d, after, rfl, hlo, hhi⟩ := h
  refine ⟨String.singleton c ++ before, d, after, by simp only [String.append_assoc], ?_⟩
  rw [String.utf8ByteSize_append, String.utf8ByteSize_singleton]
  omega

/-- A position lies at the border of a character or inside one. -/
theorem boundary_or_inside (cs : List Char) {p : Nat} (h : p ≤ (String.ofList cs).utf8ByteSize) :
    Boundary (String.ofList cs) p ∨ InsideCharacter (String.ofList cs) p := by
  induction cs generalizing p with
  | nil =>
    obtain rfl : p = 0 := Nat.le_zero.1 h
    exact .inl (boundary_zero _)
  | cons c rest ih =>
    rw [String.ofList_cons] at h ⊢
    rw [String.utf8ByteSize_append, String.utf8ByteSize_singleton] at h
    rcases Nat.lt_or_ge p c.utf8Size with hlt | hge
    · rcases Nat.eq_zero_or_pos p with rfl | hpos
      · exact .inl (boundary_zero _)
      · exact .inr ⟨"", c, String.ofList rest, by simp, by simpa using hpos, by simpa using hlt⟩
    · obtain ⟨q, rfl⟩ := Nat.exists_eq_add_of_le hge
      rcases ih (p := q) (by omega) with hq | hq
      · exact .inl (hq.cons c)
      · exact .inr (hq.cons c)

theorem InsideCharacter.not_boundary {text : String} {p : Nat} (h : InsideCharacter text p) :
    ¬Boundary text p := by
  rintro ⟨front, back, hsplit, hp⟩
  obtain ⟨before, c, after, rfl, hlo, hhi⟩ := h
  have hlists : before.toList ++ c :: after.toList = front.toList ++ back.toList := by
    simpa [String.toList_append] using congrArg String.toList hsplit
  -- of two beginnings of one text the shorter one begins the other
  rcases List.append_eq_append_iff.1 hlists with ⟨more, hfront, hmore⟩ | ⟨more, hbefore, -⟩
  · cases more with
    | nil =>
      obtain rfl : front = before := String.toList_inj.1 (by simpa using hfront)
      omega
    | cons d more =>
      obtain ⟨rfl, -⟩ := List.cons.inj hmore
      obtain rfl : front = before ++ String.singleton c ++ String.ofList more :=
        String.toList_inj.1 (by simpa using hfront)
      rw [String.utf8ByteSize_append, String.utf8ByteSize_append,
        String.utf8ByteSize_singleton] at hp
      omega
  · obtain rfl : before = front ++ String.ofList more :=
      String.toList_inj.1 (by simpa using hbefore)
    rw [String.utf8ByteSize_append] at hlo
    omega

theorem not_boundary_iff {text : String} {p : Nat} (h : p ≤ text.utf8ByteSize) :
    ¬Boundary text p ↔ InsideCharacter text p := by
  constructor
  · intro hp
    rw [← String.ofList_toList (s := text)] at h hp ⊢
    exact (boundary_or_inside _ h).resolve_left hp
  · exact InsideCharacter.not_boundary

theorem Boundary.of_plain {text : String} {p : Nat} (hplain : ∀ c ∈ text.toList, c.utf8Size = 1)
    (hp : p ≤ text.utf8ByteSize) : Boundary text p := by
  refine Classical.byContradiction fun hb => ?_
  obtain ⟨before, c, after, rfl, hlo, hhi⟩ := (not_boundary_iff hp).1 hb
  have hc := hplain c (by simp)
  omega

/-! ### Slices -/

theorem extract_middle (before piece after : String) :
    (before ++ piece ++ after).toByteArray.extract before.utf8ByteSize
      (before ++ piece).utf8ByteSize = piece.toByteArray := by
  rw [String.toByteArray_append, ← String.size_toByteArray, ← String.size_toByteArray,
    ByteArray.extract_append_size_left, String.toByteArray_append]
  exact ByteArray.extract_append_eq_right rfl ByteArray.size_append

section

variable {text : String} {start stop : Int} {lo hi : Nat}
  (hlo : Means text.utf8ByteSize start lo) (hhi : Means text.utf8ByteSize stop hi)
include hlo hhi

theorem cut_eq : cut text.toUTF8 start stop = text.toByteArray.extract lo hi := by
  rw [cut, String.toUTF8_eq_toByteArray, String.size_toByteArray, ← hlo.eq_position,
    ← hhi.eq_position]

theorem splitsCharacter_iff :
    SplitsCharacter text start stop ↔
      lo < hi ∧ (InsideCharacter text lo ∨ InsideCharacter text hi) := by
  rw [SplitsCharacter, ← hlo.eq_position, ← hhi.eq_position, Classical.not_and_iff_not_or_not,
    not_boundary_iff hlo.le_size, not_boundary_iff hhi.le_size]

theorem boundaries_of_slice (hlt : lo < hi) {piece : String}
    (h : slice text.toUTF8 start stop = .ok piece) : Boundary text lo ∧ Boundary text hi := by
  have hwhole : ¬SplitsCharacter text start stop := by
    intro hsplits
    rw [slice_eq_error_iff.2 ⟨rfl, hsplits⟩] at h
    cases h
  rw [SplitsCharacter, ← hlo.eq_position, ← hhi.eq_position] at hwhole
  exact Classical.not_not.1 fun hnot => hwhole ⟨hlt, hnot⟩

theorem splits_of_slice (hlt : lo < hi) {piece : String}
    (h : slice text.toUTF8 start stop = .ok piece) :
    ∃ before after, text = before ++ piece ++ after ∧ before.utf8ByteSize = lo ∧
      (before ++ piece).utf8ByteSize = hi := by
  obtain ⟨hlower, hupper⟩ := boundaries_of_slice hlo hhi hlt h
  -- what lies before the piece and what lies behind it are slices, too
  obtain ⟨before, hbefore⟩ := (boundary_zero text).exists_slice hlower
  obtain ⟨after, hafter⟩ := hupper.exists_slice (boundary_size text)
  rw [slice_eq_ok_iff, cut_eq (means_zero _) (.inside hlo.le_size)] at hbefore
  rw [slice_eq_ok_iff, cut_eq hlo hhi] at h
  rw [slice_eq_ok_iff, cut_eq (.inside hhi.le_size) (.inside (Nat.le_refl _))] at hafter
  have hsizeb := congrArg ByteArray.size hbefore
  have hsizep := congrArg ByteArray.size h
  have hle := hhi.le_size
  simp only [ByteArray.size_extract, String.size_toByteArray] at hsizeb hsizep
  refine ⟨before, after, ?_, by omega, ?_⟩
  · rw [← String.toByteArray_inj, String.toByteArray_append, String.toByteArray_append, hbefore, h,
      hafter, ← ByteArray.extract_eq_extract_append_extract lo (Nat.zero_le _) (by omega),
      ← ByteArray.extract_eq_extract_append_extract hi (Nat.zero_le _) hle]
    exact ByteArray.extract_zero_size.symm
  · rw [String.utf8ByteSize_append]
    omega

theorem slice_eq_ok_iff_between {piece : String} :
    slice text.toUTF8 start stop = .ok piece ↔ Between text lo hi piece := by
  rw [Between]
  split
  · next hlt =>
    constructor
    · exact splits_of_slice hlo hhi hlt
    · rintro ⟨before, after, rfl, rfl, rfl⟩
      rw [slice_eq_ok_iff, cut_eq hlo hhi, extract_middle]
  · next hle =>
    -- nothing lies between the positions
    rw [slice_eq_ok_iff, cut_eq hlo hhi, ByteArray.extract_eq_empty_iff.2 (by omega)]
    exact String.toByteArray_inj (t := "")

end

/-- A slice holds exactly the characters between the positions that its offsets mean. It fails exactly if
there are bytes between them and one of them lies inside a character. Slices that follow each other make
up the slice over both, and the slice over all bytes is the text. -/
theorem slices_exact (source : Source) :
    (Encoding.encode? .utf8 source.text = some source.bytes ∧ source.size = source.bytes.size) ∧
    (∀ offset, ∃ p, Means source.size offset p ∧ ∀ q, Means source.size offset q → q = p) ∧
    (∀ start stop lo hi, Means source.size start lo → Means source.size stop hi →
      (slice source.bytes start stop = .error .cutCharacter ↔
        lo < hi ∧ (InsideCharacter source.text lo ∨ InsideCharacter source.text hi)) ∧
      (∀ e, slice source.bytes start stop = .error e → e = .cutCharacter) ∧
      ∀ piece, slice source.bytes start stop = .ok piece ↔ Between source.text lo hi piece) ∧
    (∀ a b c, Boundary source.text a → Boundary source.text b → Boundary source.text c → a ≤ b →
      b ≤ c → ∃ first second, slice source.bytes a b = .ok first ∧
        slice source.bytes b c = .ok second ∧ slice source.bytes a c = .ok (first ++ second)) ∧
    slice source.bytes 0 source.size = .ok source.text := by
  refine ⟨⟨rfl, rfl⟩, existsUnique_means _, ?_, ?_, slice_whole _⟩
  · intro start stop lo hi hlo hhi
    refine ⟨?_, ?_, ?_⟩
    · rw [← splitsCharacter_iff hlo hhi]
      exact slice_eq_error_iff.trans (and_iff_right rfl)
    · intro e he
      exact (slice_eq_error_iff.1 he).1
    · intro piece
      exact slice_eq_ok_iff_between hlo hhi
  · intro a b c ha hb hc hab hbc
    obtain ⟨first, hfirst⟩ := ha.exists_slice hb
    obtain ⟨second, hsecond⟩ := hb.exists_slice hc
    exact ⟨first, second, hfirst, hsecond, slice_append ha.nonneg hab hbc hfirst hsecond⟩

/-- Characters of one, two, three and four bytes. -/
def mixedSource : Source := ⟨"mixed", "aé€𝄞", "javascript"⟩

theorem mixedSource_sliced :
    Means mixedSource.size (-7) 3 ∧ Means mixedSource.size 99 10 ∧
      slice mixedSource.bytes (-7) 99 = .ok "€𝄞" ∧
      InsideCharacter mixedSource.text 2 ∧ slice mixedSource.bytes 2 6 = .error .cutCharacter ∧
      Boundary mixedSource.text 1 ∧ Boundary mixedSource.text 3 ∧ Boundary mixedSource.text 6 ∧
      ∃ first second, slice mixedSource.bytes 1 3 = .ok first ∧
        slice mixedSource.bytes 3 6 = .ok second ∧ slice mixedSource.bytes 1 6 = .ok (first ++ second) := by
  obtain ⟨-, -, hslice, happend, -⟩ := slices_exact mixedSource
  have hfront : Means mixedSource.size (-7) 3 := @Means.fromEnd _ 7 (by decide) (by decide)
  have hend : Means mixedSource.size 99 10 := .behind (by decide)
  have htwo : Means mixedSource.size 2 2 := @Means.inside _ 2 (by decide)
  have hsix : Means mixedSource.size 6 6 := @Means.inside _ 6 (by decide)
  have hinside : InsideCharacter mixedSource.text 2 := ⟨"a", 'é', "€𝄞", by decide, by decide, by decide⟩
  have hone : Boundary mixedSource.text 1 := by decide +kernel
  have hthree : Boundary mixedSource.text 3 := by decide +kernel
  have hlast : Boundary mixedSource.text 6 := by decide +kernel
  refine ⟨hfront, hend, ?_, hinside, ?_, hone, hthree, hlast, ?_⟩
  · exact ((hslice _ _ _ _ hfront hend).2.2 "€𝄞").2 ⟨"aé", "", by decide, by decide, by decide⟩
  · exact (hslice _ _ _ _ htwo hsix).1.2 ⟨by decide, .inl hinside⟩
  · exact happend 1 3 6 hone hthree hlast (by decide) (by decide)

end TierSplit.Source

import TierSplit.Source

/-! Slices of a text. Cutting at the bounds of characters never fails, and the slices between
consecutive offsets, put together, are the slice over all of them. -/

namespace TierSplit.Source

/-- The offset lies between two characters of the text, or at one of its ends. -/
def Boundary (text : String) (offset : Int) : Prop :=
  ∃ before after : String, text = before ++ after ∧ offset = before.utf8ByteSize

theorem boundary_iff (text : String) (offset : Int) :
    Boundary text offset ↔ 0 ≤ offset ∧ String.Pos.Raw.isValid text ⟨offset.toNat⟩ = true := by
  rw [String.Pos.Raw.isValid_eq_true_iff, String.Pos.Raw.isValid_iff_exists_append]
  constructor
  · rintro ⟨before, after, htext, rfl⟩
    exact ⟨Int.natCast_nonneg _, before, after, htext, by simp [String.Pos.Raw.ext_iff]⟩
  · rintro ⟨hnonneg, before, after, htext, hpos⟩
    refine ⟨before, after, htext, ?_⟩
    have hsize : offset.toNat = before.utf8ByteSize := congrArg String.Pos.Raw.byteIdx hpos
    omega

instance (text : String) (offset : Int) : Decidable (Boundary text offset) :=
  decidable_of_iff _ (boundary_iff text offset).symm

@[simp] theorem boundary_zero (text : String) : Boundary text 0 := ⟨"", text, by simp, by simp⟩

@[simp] theorem boundary_size (text : String) : Boundary text text.utf8ByteSize := ⟨text, "", by simp, rfl⟩

section

variable {text : String} {offset : Int} (h : Boundary text offset)
include h

theorem Boundary.nonneg : 0 ≤ offset := ((boundary_iff text offset).1 h).1

theorem Boundary.isValid : String.Pos.Raw.IsValid text ⟨offset.toNat⟩ :=
  String.Pos.Raw.isValid_eq_true_iff.1 ((boundary_iff text offset).1 h).2

theorem Boundary.le_size : offset ≤ text.utf8ByteSize := by
  have hle : offset.toNat ≤ text.utf8ByteSize := h.isValid.le_utf8ByteSize
  omega

theorem Boundary.position_eq : position text.utf8ByteSize offset = offset.toNat := by
  have hnonneg := h.nonneg
  have hle := h.le_size
  rw [position, if_neg (by omega)]
  omega

end

/-! ### Decoding -/

theorem decode?_utf8_eq_some_iff {bytes : ByteArray} {s : String} :
    Encoding.decode? .utf8 bytes = some s ↔ s.toByteArray = bytes := by
  rw [Encoding.decode?]
  constructor
  · intro h
    unfold String.fromUTF8? at h
    split at h
    · cases h
      rfl
    · cases h
  · rintro rfl
    unfold String.fromUTF8?
    rw [dif_pos s.isValidUTF8]
    rfl

theorem slice_eq_ok_iff {bytes : ByteArray} {start stop : Int} {piece : String} :
    slice bytes start stop = .ok piece ↔ piece.toByteArray = cut bytes start stop := by
  rw [← decode?_utf8_eq_some_iff]
  unfold slice sliceIn
  cases Encoding.decode? .utf8 (cut bytes start stop) <;> simp

theorem position_le (size : Nat) (offset : Int) : position size offset ≤ size := by
  unfold position
  split <;> omega

theorem boundary_natCast_iff (text : String) (offset : Nat) :
    Boundary text offset ↔ String.Pos.Raw.IsValid text ⟨offset⟩ := by
  rw [boundary_iff, String.Pos.Raw.isValid_eq_true_iff]
  exact and_iff_right (Int.natCast_nonneg offset)

/-- The span holds some bytes, and begins or ends inside a character. -/
def SplitsCharacter (text : String) (start stop : Int) : Prop :=
  position text.utf8ByteSize start < position text.utf8ByteSize stop ∧
    ¬(Boundary text (position text.utf8ByteSize start) ∧
      Boundary text (position text.utf8ByteSize stop))

theorem isValidUTF8_cut_iff {text : String} {start stop : Int} :
    (cut text.toUTF8 start stop).IsValidUTF8 ↔ ¬SplitsCharacter text start stop := by
  rw [cut, SplitsCharacter, String.toUTF8_eq_toByteArray, String.size_toByteArray,
    boundary_natCast_iff, boundary_natCast_iff]
  have hstop := position_le text.utf8ByteSize stop
  generalize position text.utf8ByteSize start = lo at *
  generalize position text.utf8ByteSize stop = hi at *
  rcases Nat.lt_or_ge lo hi with hlt | hle
  · rw [String.Pos.Raw.isValidUTF8_extract_iff ⟨lo⟩ ⟨hi⟩ (Nat.le_of_lt hlt) hstop]
    simp [hlt, Nat.ne_of_lt hlt]
  · -- nothing is cut out
    rw [ByteArray.extract_eq_empty_iff.2 (by omega)]
    simp [ByteArray.isValidUTF8_empty, Nat.not_lt.2 hle]

theorem slice_eq_error_iff {text : String} {start stop : Int} {e : Failure} :
    slice text.toUTF8 start stop = .error e ↔
      e = .cutCharacter ∧ SplitsCharacter text start stop := by
  rw [← Classical.not_not (a := SplitsCharacter text start stop), ← isValidUTF8_cut_iff]
  unfold slice sliceIn Encoding.decode? String.fromUTF8?
  generalize cut text.toUTF8 start stop = piece
  by_cases hvalid : piece.IsValidUTF8
  · simp [hvalid]
  · simp [hvalid, eq_comm]

theorem Boundary.exists_slice {text : String} {start stop : Int} (hstart : Boundary text start)
    (hstop : Boundary text stop) : ∃ piece, slice text.toUTF8 start stop = .ok piece := by
  cases hslice : slice text.toUTF8 start stop with
  | ok piece => exact ⟨piece, rfl⟩
  | error e =>
    obtain ⟨-, -, hsplit⟩ := slice_eq_error_iff.1 hslice
    rw [hstart.position_eq, hstop.position_eq, Int.toNat_of_nonneg hstart.nonneg,
      Int.toNat_of_nonneg hstop.nonneg] at hsplit
    exact absurd ⟨hstart, hstop⟩ hsplit

/-- The bytes of a slice between two bounds of characters are those of the text. -/
theorem Boundary.toUTF8_of_slice {text : String} {start stop : Int} (hstart : Boundary text start)
    (hstop : Boundary text stop) {piece : String} (h : slice text.toUTF8 start stop = .ok piece) :
    piece.toUTF8 = text.toUTF8.extract start.toNat stop.toNat := by
  rw [slice_eq_ok_iff, cut, String.toUTF8_eq_toByteArray, String.size_toByteArray,
    hstart.position_eq, hstop.position_eq] at h
  exact h

@[simp] theorem slice_self (bytes : ByteArray) (offset : Int) : slice bytes offset offset = .ok "" := by
  rw [slice_eq_ok_iff, cut, ByteArray.extract_eq_empty_iff.2 (by omega)]
  rfl

theorem cut_append {bytes : ByteArray} {lo mid hi : Int} (hlo : 0 ≤ lo) (hmid : lo ≤ mid)
    (hhi : mid ≤ hi) : cut bytes lo mid ++ cut bytes mid hi = cut bytes lo hi := by
  unfold cut position
  rw [if_neg (by omega), if_neg (by omega), if_neg (by omega)]
  exact (ByteArray.extract_eq_extract_append_extract _ (by omega) (by omega)).symm

/-- Slices that follow each other, put together. -/
theorem slice_append {bytes : ByteArray} {lo mid hi : Int} (hlo : 0 ≤ lo) (hmid : lo ≤ mid)
    (hhi : mid ≤ hi) {first second : String} (hfirst : slice bytes lo mid = .ok first)
    (hsecond : slice bytes mid hi = .ok second) :
    slice bytes lo hi = .ok (first ++ second) := by
  rw [slice_eq_ok_iff] at hfirst hsecond ⊢
  rw [String.toByteArray_append, hfirst, hsecond, cut_append hlo hmid hhi]

@[simp] theorem slice_whole (text : String) : slice text.toUTF8 0 text.utf8ByteSize = .ok text := by
  rw [slice_eq_ok_iff, cut, String.toUTF8_eq_toByteArray, String.size_toByteArray,
    (boundary_zero text).position_eq, (boundary_size text).position_eq]
  exact ByteArray.extract_zero_size.symm

end TierSplit.Source

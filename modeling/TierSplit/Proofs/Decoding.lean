import TierSplit.Component.Resource

/-! Decoding the pieces of a query. Nothing becomes longer: a byte yields at most one character, and an
escape is three characters for one byte. So the texts that decoding leaves alone are exactly those that
have neither an escape nor a plus sign. -/

namespace TierSplit.Resource

def IsHexDigit (c : Char) : Prop := c.isDigit = true ∨ ('a' ≤ c ∧ c ≤ 'f') ∨ ('A' ≤ c ∧ c ≤ 'F')

/-- Somewhere a percent sign stands before two hexadecimal digits. -/
def HasEscape (cs : List Char) : Prop :=
  ∃ before a b after, cs = before ++ '%' :: a :: b :: after ∧ IsHexDigit a ∧ IsHexDigit b

/-- A character that is being read may still yield one. -/
def outstanding : Option Partial → Nat
  | none => 0
  | some _ => 1

theorem length_startChar_le (b : UInt8) :
    (startChar b).1.length + outstanding (startChar b).2 ≤ 1 := by
  unfold startChar
  split
  · exact Nat.le_refl _
  · split <;> exact Nat.le_refl _

theorem length_continueChar_le (p : Partial) (b : UInt8) :
    (continueChar p b).1.length + outstanding (continueChar p b).2 ≤ 2 := by
  unfold continueChar
  split
  · split <;> exact Nat.le_succ 1
  · have hfresh := length_startChar_le b
    dsimp only [List.length_cons]
    omega

theorem length_decodeFrom_le (state : Option Partial) (us : List Unescaped) :
    (decodeFrom state us).length ≤ us.length + outstanding state := by
  induction us generalizing state with
  | nil => cases state <;> simp [decodeFrom, outstanding]
  | cons u rest ih =>
    cases u with
    | plain c =>
      have hrest := ih none
      cases state <;> simp only [decodeFrom, List.length_cons, outstanding] at hrest ⊢ <;> omega
    | byte b =>
      cases state with
      | none =>
        have hread := length_startChar_le b
        have hrest := ih (startChar b).2
        simp only [decodeFrom, List.length_append, List.length_cons, outstanding]
        omega
      | some p =>
        have hread := length_continueChar_le p b
        have hrest := ih (continueChar p b).2
        simp only [decodeFrom, List.length_append, List.length_cons, outstanding]
        omega

theorem isSome_hexValue? (c : Char) : (Text.hexValue? c).isSome = true ↔ IsHexDigit c := by
  unfold Text.hexValue? IsHexDigit
  split
  · simp [*]
  · split
    · simp [*]
    · split <;> simp [*]

theorem isSome_percentByte? (a b : Char) :
    (percentByte? a b).isSome = true ↔ IsHexDigit a ∧ IsHexDigit b := by
  rw [← isSome_hexValue?, ← isSome_hexValue?]
  unfold percentByte?
  cases Text.hexValue? a <;> cases Text.hexValue? b <;> simp

theorem hasEscape_cons {c : Char} {rest : List Char} :
    HasEscape (c :: rest) ↔
      (∃ a b after, c = '%' ∧ rest = a :: b :: after ∧ (percentByte? a b).isSome = true) ∨
        HasEscape rest := by
  simp only [isSome_percentByte?]
  constructor
  · rintro ⟨before, a, b, after, hsplit, hhex⟩
    cases before with
    | nil =>
      obtain ⟨rfl, rfl⟩ := List.cons.inj hsplit
      exact .inl ⟨a, b, after, rfl, rfl, hhex⟩
    | cons d before =>
      obtain ⟨-, rfl⟩ := List.cons.inj hsplit
      exact .inr ⟨before, a, b, after, rfl, hhex⟩
  · rintro (⟨a, b, after, rfl, rfl, hhex⟩ | ⟨before, a, b, after, rfl, hhex⟩)
    · exact ⟨[], a, b, after, rfl, hhex⟩
    · exact ⟨c :: before, a, b, after, rfl, hhex⟩

theorem length_unescape_le (cs : List Char) : (unescape cs).length ≤ cs.length := by
  fun_induction unescape cs with
  | case1 a b rest byte hbyte ih => simp only [List.length_cons]; omega
  | case2 a b rest hnone ih => simp only [List.length_cons] at ih ⊢; omega
  | case3 c rest hshape ih => simp only [List.length_cons]; omega
  | case4 => exact Nat.le_refl _

theorem length_unescape_lt {cs : List Char} (h : HasEscape cs) : (unescape cs).length < cs.length := by
  fun_induction unescape cs with
  | case1 a b rest byte hbyte ih =>
    have hrest := length_unescape_le rest
    simp only [List.length_cons]
    omega
  | case2 a b rest hnone ih =>
    rcases hasEscape_cons.1 h with ⟨a', b', after, -, hab, hsome⟩ | hrest
    · cases hab
      rw [hnone] at hsome
      cases hsome
    · have hlt := ih hrest
      simp only [List.length_cons] at hlt ⊢
      omega
  | case3 c rest hshape ih =>
    rcases hasEscape_cons.1 h with ⟨a, b, after, hc, hab, -⟩ | hrest
    · exact (hshape a b after hc hab).elim
    · have hlt := ih hrest
      simp only [List.length_cons]
      omega
  | case4 =>
    obtain ⟨before, a, b, after, hsplit, -⟩ := h
    cases before <;> cases hsplit

theorem unescape_of_no_escape {cs : List Char} (h : ¬HasEscape cs) :
    unescape cs = cs.map .plain := by
  fun_induction unescape cs with
  | case1 a b rest byte hbyte ih =>
    exact absurd (hasEscape_cons.2 (.inl ⟨a, b, rest, rfl, rfl, by rw [hbyte]; rfl⟩)) h
  | case2 a b rest hnone ih =>
    rw [ih fun hrest => h (hasEscape_cons.2 (.inr hrest))]
    rfl
  | case3 c rest hshape ih => rw [ih fun hrest => h (hasEscape_cons.2 (.inr hrest)), List.map_cons]
  | case4 => rfl

theorem hasEscape_iff (cs : List Char) : HasEscape cs ↔ (unescape cs).length < cs.length := by
  constructor
  · exact length_unescape_lt
  · intro hlt
    apply Classical.byContradiction
    intro hescape
    rw [unescape_of_no_escape hescape, List.length_map] at hlt
    exact Nat.lt_irrefl _ hlt

instance (cs : List Char) : Decidable (HasEscape cs) := decidable_of_iff _ (hasEscape_iff cs).symm

theorem decodeFrom_plain (cs : List Char) : decodeFrom none (cs.map .plain) = cs := by
  induction cs with
  | nil => rfl
  | cons c rest ih => rw [List.map_cons, decodeFrom, ih]

theorem length_decode_le (cs : List Char) : (decode cs).toList.length ≤ cs.length := by
  have hbytes := length_decodeFrom_le none (unescape (cs.map fun c => if c = '+' then ' ' else c))
  have hescapes := length_unescape_le (cs.map fun c => if c = '+' then ' ' else c)
  rw [List.length_map] at hescapes
  rw [decode, String.toList_ofList]
  exact Nat.le_trans hbytes hescapes

theorem map_plus_eq_self {cs : List Char} :
    (cs.map fun c => if c = '+' then ' ' else c) = cs ↔ '+' ∉ cs := by
  induction cs with
  | nil => simp
  | cons c rest ih =>
    rw [List.map_cons, List.cons.injEq, ih, List.mem_cons, not_or]
    apply and_congr_left
    intro _
    by_cases hc : c = '+'
    · rw [if_pos hc, hc]
      decide
    · rw [if_neg hc]
      exact iff_of_true rfl (Ne.symm hc)

/-- Decoding leaves exactly those texts alone that have neither a plus sign nor an escape. -/
theorem decode_eq_self_iff {cs : List Char} :
    decode cs = String.ofList cs ↔ '+' ∉ cs ∧ ¬HasEscape cs := by
  rw [decode, String.ofList_inj]
  constructor
  · intro h
    have hescape : ¬HasEscape (cs.map fun c => if c = '+' then ' ' else c) := by
      intro hescape
      have hlt := length_unescape_lt hescape
      have hle := length_decodeFrom_le none (unescape (cs.map fun c => if c = '+' then ' ' else c))
      rw [h] at hle
      rw [List.length_map] at hlt
      exact Nat.lt_irrefl _ (Nat.lt_of_le_of_lt hle hlt)
    rw [unescape_of_no_escape hescape, decodeFrom_plain] at h
    exact ⟨map_plus_eq_self.1 h, h ▸ hescape⟩
  · rintro ⟨hplus, hescape⟩
    rw [map_plus_eq_self.2 hplus, unescape_of_no_escape hescape, decodeFrom_plain]

end TierSplit.Resource

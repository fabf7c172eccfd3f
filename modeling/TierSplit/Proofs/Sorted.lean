import TierSplit.Ordered
import Mathlib.Data.List.Sort

/-! Stable sorting by a key: the result holds the same elements, in order of the key, and
elements of one key stay in their order. -/

namespace TierSplit

variable {α κ : Type}

theorem insertBy_eq_orderedInsert (le : α → α → Bool) (a : α) (l : List α) :
    insertBy le a l = l.orderedInsert (fun a b => le a b = true) a := by
  induction l with
  | nil => rfl
  | cons b rest ih => rw [insertBy, List.orderedInsert_cons, ih]

theorem sortBy_eq_insertionSort (le : α → α → Bool) (l : List α) :
    sortBy le l = l.insertionSort fun a b => le a b = true := by
  induction l with
  | nil => rfl
  | cons a rest ih => rw [sortBy, List.insertionSort_cons, ih, insertBy_eq_orderedInsert]

theorem sortBy_perm (le : α → α → Bool) (l : List α) : (sortBy le l).Perm l := by
  rw [sortBy_eq_insertionSort]
  exact List.perm_insertionSort _ l

theorem sortBy_eq_self {le : α → α → Bool} {l : List α} (h : l.Pairwise fun a b => le a b = true) :
    sortBy le l = l := by
  rw [sortBy_eq_insertionSort]
  exact h.insertionSort_eq

theorem sortBy_map {β : Type} {le : α → α → Bool} {le' : β → β → Bool} {g : β → α}
    (h : ∀ a b, le (g a) (g b) = le' a b) (l : List β) :
    sortBy le (l.map g) = (sortBy le' l).map g := by
  have hinsert : ∀ a l, insertBy le (g a) (l.map g) = (insertBy le' a l).map g := by
    intro a l
    induction l with
    | nil => rfl
    | cons b rest ih =>
      rw [List.map_cons, insertBy, insertBy, h, ih]
      split <;> rfl
  induction l with
  | nil => rfl
  | cons a rest ih => rw [List.map_cons, sortBy, sortBy, ih, hinsert]

variable [LinearOrder κ]

/-- What a stable sort by a key makes of a list. -/
structure StablySorted (key : α → κ) (l sorted : List α) : Prop where
  perm : sorted.Perm l
  ordered : sorted.Pairwise fun a b => key a ≤ key b
  stable : ∀ k, sorted.filter (key · == k) = l.filter (key · == k)

theorem sortBy_stablySorted (key : α → κ) (l : List α) :
    StablySorted key l (sortBy (fun a b => key a ≤ key b) l) := by
  have hsort : sortBy (fun a b => key a ≤ key b) l = l.insertionSort fun a b => key a ≤ key b := by
    rw [sortBy_eq_insertionSort]
    simp only [decide_eq_true_eq]
  have htotal : Std.Total fun a b : α => key a ≤ key b := ⟨fun a b => le_total _ _⟩
  have htrans : IsTrans α fun a b : α => key a ≤ key b := ⟨fun a b c => le_trans⟩
  rw [hsort]
  refine ⟨List.perm_insertionSort _ l, List.pairwise_insertionSort _ l, fun k => ?_⟩
  -- elements of one key are already in order, so sorting keeps them as a sublist
  have hkey : (l.filter (key · == k)).Pairwise fun a b => key a ≤ key b := by
    rw [List.pairwise_filter]
    refine List.pairwise_of_forall fun a b ha hb => ?_
    rw [beq_iff_eq] at ha hb
    rw [ha, hb]
  have hsub := (List.sublist_insertionSort hkey List.filter_sublist).filter (key · == k)
  rw [List.filter_filter] at hsub
  simp only [Bool.and_self] at hsub
  refine (hsub.eq_of_length ?_).symm
  exact ((List.perm_insertionSort _ l).filter _).length_eq.symm

/-- A list in strict order of a key is the only arrangement of its elements in order of the key. -/
theorem eq_of_perm_of_strict {key : α → κ} {l sorted : List α} (hp : sorted.Perm l)
    (hs : sorted.Pairwise fun a b => key a ≤ key b) (hl : l.Pairwise fun a b => key a < key b) :
    sorted = l := by
  have hnodup : (l.map key).Nodup := List.pairwise_map.2 (hl.imp ne_of_lt)
  refine hp.eq_of_pairwise ?_ hs (hl.imp le_of_lt)
  intro a b ha hb hab hba
  exact List.inj_on_of_nodup_map hnodup (hp.mem_iff.1 ha) hb (le_antisymm hab hba)

end TierSplit

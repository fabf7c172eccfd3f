import TierSplit.Ordered
import Mathlib.Data.List.Perm.Basic

/-! Sets of names. Inserting adds just the name, in whatever order and however often names are inserted,
and a set has one list. -/

namespace TierSplit.Names

@[simp] theorem mem_insert (names : Names) (name n : String) :
    n ∈ names.insert name ↔ n = name ∨ n ∈ names := by
  induction names with
  | nil => simp [Names.insert]
  | cons head rest ih =>
    rw [Names.insert]
    split
    · simp
    · split
      · next heq => simp [heq]
      · rw [List.mem_cons, ih, List.mem_cons]
        tauto

theorem lt_of_not_lt {a b : String} (h : ¬a < b) (hne : a ≠ b) : b < a := by
  by_contra hba
  exact hne (String.le_antisymm hba h)

/-- Each name is placed by itself, also in a list that is in no order. -/
theorem insert_comm (names : Names) (a b : String) :
    (names.insert a).insert b = (names.insert b).insert a := by
  induction names with
  | nil =>
    simp only [insert]
    grind [lt_of_not_lt, String.lt_asymm]
  | cons head rest ih =>
    simp only [insert]
    grind [insert, lt_of_not_lt, String.lt_trans, String.lt_asymm]

theorem insert_insert (names : Names) (a : String) : (names.insert a).insert a = names.insert a := by
  induction names with
  | nil => rw [insert, insert, if_neg (String.lt_irrefl a), if_pos rfl]
  | cons head rest ih =>
    rw [insert]
    split
    · rw [insert, if_neg (String.lt_irrefl a), if_pos rfl]
    · next hlt =>
      split
      · next heq => rw [insert, if_neg hlt, if_pos heq]
      · next hne => rw [insert, if_neg hlt, if_neg hne, ih]

@[simp] theorem mem_ofList {names : List String} {n : String} : n ∈ ofList names ↔ n ∈ names := by
  have hfold : ∀ acc : Names, n ∈ names.foldl (fun acc n => acc.insert n) acc ↔
      n ∈ acc ∨ n ∈ names := by
    induction names with
    | nil => simp
    | cons head rest ih =>
      intro acc
      rw [List.foldl_cons, ih, mem_insert, List.mem_cons]
      tauto
  simpa [ofList] using hfold []

/-- The list of a set: in order and without repetition. -/
def Increasing (names : Names) : Prop := names.Pairwise (· < ·)

theorem Increasing.insert {names : Names} (h : names.Increasing) (name : String) :
    (names.insert name).Increasing := by
  induction h with
  | nil => exact List.pairwise_singleton _ _
  | @cons head rest hhead hrest ih =>
    rw [Names.insert]
    split
    · next hlt =>
      refine .cons ?_ (.cons hhead hrest)
      intro n hn
      rcases List.mem_cons.1 hn with rfl | hn
      · exact hlt
      · exact String.lt_trans hlt (hhead n hn)
    · next hlt =>
      split
      · exact .cons hhead hrest
      · next hne =>
        refine .cons ?_ ih
        intro n hn
        rcases (mem_insert rest name n).1 hn with rfl | hn
        · exact lt_of_not_lt hlt hne
        · exact hhead n hn

theorem increasing_ofList (names : List String) : (ofList names).Increasing := by
  have hfold : ∀ acc : Names, acc.Increasing →
      (names.foldl (fun acc n => acc.insert n) acc).Increasing := by
    induction names with
    | nil => exact fun _ h => h
    | cons head rest ih => exact fun acc h => ih _ (h.insert head)
  exact hfold [] .nil

/-- A set of names has one list. -/
theorem Increasing.ext {a b : Names} (ha : a.Increasing) (hb : b.Increasing)
    (h : ∀ n, n ∈ a ↔ n ∈ b) : a = b := by
  have hnodup : ∀ {l : Names}, l.Increasing → l.Nodup := by
    intro l hl
    apply hl.imp
    rintro x y hlt rfl
    exact String.lt_irrefl x hlt
  have hperm : a.Perm b := (List.perm_ext_iff_of_nodup (hnodup ha) (hnodup hb)).2 h
  refine hperm.eq_of_pairwise ?_ ha hb
  intro x y _ _ hxy hyx
  exact absurd hyx (String.lt_asymm hxy)

end TierSplit.Names

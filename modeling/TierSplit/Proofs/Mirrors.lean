import TierSplit.Proofs.Environments
import Mathlib.Data.List.Forall2

/-! Two modules that say the same about the rest of them. Their items correspond one to one, but for
the insides of some functions, which are not compared, and for some uses that only the second one has.
A function keeps to itself what is bound in it, and a use binds nothing, so the tables of the other
scopes correspond, and with them all other references. -/

namespace TierSplit.Scope

open Syntax

/-- All the item does is to use veiled occurrences. -/
def Item.OnlyUses (veiled : Occurrence → Bool) (item : Item) : Prop :=
  ∀ leaf ∈ item.leaves, ∃ o, leaf = .use o ∧ veiled o = true

/-- Items of two modules that correspond, the occurrences in them by `R`. What is veiled in either one
is left out of the comparison. -/
inductive Mirrors (R : Occurrence → Occurrence → Prop) (veiled veiled' : Occurrence → Bool) :
    List Item → List Item → Prop
  | nil : Mirrors R veiled veiled' [] []
  | use {o o' : Occurrence} {a b : List Item} (related : R o o')
      (rest : Mirrors R veiled veiled' a b) : Mirrors R veiled veiled' (.use o :: a) (.use o' :: b)
  | bind {o o' : Occurrence} {hoisted : Bool} {a b : List Item} (related : R o o')
      (rest : Mirrors R veiled veiled' a b) :
      Mirrors R veiled veiled' (.bind hoisted o :: a) (.bind hoisted o' :: b)
  | scope {kind : Kind} {items items' a b : List Item} (inside : Mirrors R veiled veiled' items items')
      (rest : Mirrors R veiled veiled' a b) :
      Mirrors R veiled veiled' (.scope kind items :: a) (.scope kind items' :: b)
  /-- The insides of two functions are not compared. -/
  | function {items items' a b : List Item}
      (inside : ∀ o, .use o ∈ leavesOf items → veiled o = true)
      (inside' : ∀ o, .use o ∈ leavesOf items' → veiled' o = true)
      (rest : Mirrors R veiled veiled' a b) :
      Mirrors R veiled veiled' (.scope .function items :: a) (.scope .function items' :: b)
  /-- The second module may have further uses. -/
  | more {item : Item} {a b : List Item} (added : item.OnlyUses veiled')
      (rest : Mirrors R veiled veiled' a b) : Mirrors R veiled veiled' a (item :: b)

/-- The relation compares names, and nothing that is veiled. -/
structure Faithful (R : Occurrence → Occurrence → Prop) (veiled veiled' : Occurrence → Bool) :
    Prop where
  name : ∀ o o', R o o' → o.name = o'.name
  plain : ∀ o o', R o o' → veiled o = false
  plain' : ∀ o o', R o o' → veiled' o' = false

def Reference.Match (R : Occurrence → Occurrence → Prop) (r r' : Reference) : Prop :=
  R r.use r'.use ∧ Option.Rel R r.declaration r'.declaration

section

variable {R : Occurrence → Occurrence → Prop} {veiled veiled' : Occurrence → Bool} {a b : List Item}

/-! ### Building -/

theorem Mirrors.append {c d : List Item} (h : Mirrors R veiled veiled' a b)
    (h' : Mirrors R veiled veiled' c d) : Mirrors R veiled veiled' (a ++ c) (b ++ d) := by
  induction h with
  | nil => exact h'
  | use related _ ih => exact .use related ih
  | bind related _ ih => exact .bind related ih
  | scope inside _ _ ih => exact .scope inside ih
  | function inside inside' _ ih => exact .function inside inside' ih
  | more added _ ih => exact .more added ih

theorem Mirrors.uses {o o' : Option Occurrence} (h : Option.Rel R o o') :
    Mirrors R veiled veiled' (o.toList.map .use) (o'.toList.map .use) := by
  cases h with
  | none => exact .nil
  | some related => exact .use related .nil

theorem Mirrors.binds {o o' : Option Occurrence} {hoisted : Bool} (h : Option.Rel R o o') :
    Mirrors R veiled veiled' (o.toList.map (.bind hoisted)) (o'.toList.map (.bind hoisted)) := by
  cases h with
  | none => exact .nil
  | some related => exact .bind related .nil

/-- What only uses veiled occurrences may be there or not. -/
theorem Mirrors.of_onlyUses (h : ∀ item ∈ b, item.OnlyUses veiled') : Mirrors R veiled veiled' [] b := by
  induction b with
  | nil => exact .nil
  | cons item rest ih =>
    exact .more (h item List.mem_cons_self) (ih fun i hi => h i (List.mem_cons_of_mem _ hi))

/-! ### Tables -/

theorem Item.OnlyUses.lands_eq_nil {item : Item} (h : item.OnlyUses veiled') (kind : Kind) :
    item.lands kind = [] := by
  refine List.eq_nil_iff_forall_not_mem.2 fun d hd => ?_
  have hland : d ∈ landing kind [item] := by rwa [landing, List.flatMap_singleton]
  obtain ⟨hoisted, hbind⟩ := bind_mem_of_landing hland
  rw [leavesOf, leavesOf, List.append_nil] at hbind
  obtain ⟨o, ho, -⟩ := h _ hbind
  cases ho

theorem Item.OnlyUses.hoisted_eq_nil {item : Item} (h : item.OnlyUses veiled') :
    item.hoisted = [] := by
  refine List.eq_nil_iff_forall_not_mem.2 fun d hd => ?_
  obtain ⟨o, ho, -⟩ := h _ (item.bind_mem_of_hoisted hd)
  cases ho

theorem Mirrors.hoisted (h : Mirrors R veiled veiled' a b) :
    List.Forall₂ R (hoistedOf a) (hoistedOf b) := by
  induction h with
  | nil => exact .nil
  | use _ _ ih => exact ih
  | @bind _ _ hoisted _ _ related _ ih =>
    cases hoisted with
    | true => exact .cons related ih
    | false => exact ih
  | @scope kind _ _ _ _ _ _ inside ih =>
    simp only [hoistedOf, Item.hoisted]
    split
    · exact ih
    · exact List.rel_append inside ih
  | function _ _ _ ih => exact ih
  | more added _ ih =>
    rw [hoistedOf, added.hoisted_eq_nil]
    exact ih

theorem Mirrors.landing (h : Mirrors R veiled veiled' a b) (kind : Kind) :
    List.Forall₂ R (landing kind a) (landing kind b) := by
  induction h with
  | nil => exact .nil
  | use _ _ ih => exact ih
  | bind related _ ih =>
    simp only [landing_cons, Item.lands]
    split
    · exact ih
    · exact .cons related ih
  | @scope inner _ _ _ _ inside _ _ ih =>
    simp only [landing_cons, Item.lands, Item.hoisted]
    split_ifs
    · exact ih
    · exact List.rel_append inside.hoisted ih
    · exact ih
  | function _ _ _ ih =>
    simp only [landing_cons, Item.lands, Item.hoisted]
    split <;> exact ih
  | more added _ ih =>
    rw [landing_cons, added.lands_eq_nil]
    exact ih

theorem find?_related (hf : Faithful R veiled veiled') {t t' : Table} (h : List.Forall₂ R t t')
    (name : String) :
    Option.Rel R (t.find? fun o => o.name = name) (t'.find? fun o => o.name = name) := by
  induction h with
  | nil => exact .none
  | cons related _ ih =>
    rw [List.find?_cons, List.find?_cons, ← hf.name _ _ related]
    split
    · exact .some related
    · exact ih

theorem read_related (hf : Faithful R veiled veiled') {tables tables' : List Table}
    (h : List.Forall₂ (List.Forall₂ R) tables tables') (name : String) :
    Option.Rel R (read tables name) (read tables' name) := by
  induction h with
  | nil => exact .none
  | cons htable _ ih =>
    rw [read, read, List.findSome?_cons, List.findSome?_cons]
    have hfind := find?_related hf htable name
    revert hfind
    generalize List.find? _ _ = x
    generalize List.find? _ _ = y
    intro hfind
    cases hfind with
    | some related => exact .some related
    | none => exact ih

/-! ### References -/

def unveiled (veiled : Occurrence → Bool) (rs : List Reference) : List Reference :=
  rs.filter fun r => !veiled r.use

@[simp] theorem unveiled_append (rs rs' : List Reference) :
    unveiled veiled (rs ++ rs') = unveiled veiled rs ++ unveiled veiled rs' := List.filter_append ..

theorem unveiled_eq_nil {tables : List Table} {items : List Item}
    (h : ∀ o, .use o ∈ leavesOf items → veiled o = true) :
    unveiled veiled (referencesOf tables items) = [] := by
  refine List.filter_eq_nil_iff.2 fun r hr => ?_
  rw [h _ (of_mem_referencesOf items hr).1]
  decide

/-- Where the tables around them correspond, so do the references. -/
theorem Mirrors.references (hf : Faithful R veiled veiled') (h : Mirrors R veiled veiled' a b)
    {tables tables' : List Table} (ht : List.Forall₂ (List.Forall₂ R) tables tables') :
    List.Forall₂ (Reference.Match R) (unveiled veiled (referencesOf tables a))
      (unveiled veiled' (referencesOf tables' b)) := by
  induction h generalizing tables tables' with
  | nil => exact .nil
  | @use o o' _ _ related _ ih =>
    have hread := read_related hf ht o.name
    rw [hf.name _ _ related] at hread
    rw [referencesOf, referencesOf, unveiled_append, unveiled_append]
    refine List.rel_append ?_ (ih ht)
    simp only [Item.references, unveiled, List.filter_cons, List.filter_nil, hf.plain _ _ related,
      hf.plain' _ _ related, hf.name _ _ related, Bool.not_false, if_true]
    exact .cons ⟨related, hread⟩ .nil
  | bind _ _ ih => exact ih ht
  | @scope kind _ _ _ _ inside _ ihinside ih =>
    rw [referencesOf, referencesOf, unveiled_append, unveiled_append]
    exact List.rel_append (ihinside (.cons (inside.landing kind) ht)) (ih ht)
  | function inside inside' _ ih =>
    rw [referencesOf, referencesOf, unveiled_append, unveiled_append, Item.references,
      Item.references, unveiled_eq_nil inside, unveiled_eq_nil inside']
    exact ih ht
  | @more item _ _ added _ ih =>
    have hnone : unveiled veiled' (item.references tables') = [] := by
      refine List.filter_eq_nil_iff.2 fun r hr => ?_
      obtain ⟨o, ho, hveil⟩ := added _ (item.of_mem_references hr).1
      cases ho
      rw [hveil]
      decide
    rw [referencesOf, unveiled_append, hnone]
    exact ih ht

end

theorem moduleReferences_match {R : Occurrence → Occurrence → Prop}
    {veiled veiled' : Occurrence → Bool} (hf : Faithful R veiled veiled') {program program' : Node}
    (h : Mirrors R veiled veiled' (outline program) (outline program')) :
    List.Forall₂ (Reference.Match R) (unveiled veiled (moduleReferences program))
      (unveiled veiled' (moduleReferences program')) :=
  h.references hf (.cons (h.landing .module) .nil)

end TierSplit.Scope

import TierSplit.Proofs.Mentions

/-! Name resolution without scope numbers. What lands in a scope can be read off the items in it: its
own bindings, and the hoisted ones that no function inside it keeps. A use then looks its name up in
the tables of the scopes around it, innermost first. The references found that way are those of the
numbered scopes. -/

namespace TierSplit.Scope

open Syntax

/-! ### Tables -/

mutual

/-- The hoisted bindings that leave an item. -/
def Item.hoisted : Item → List Occurrence
  | .use _ => []
  | .bind hoisted o => if hoisted then [o] else []
  | .scope kind items => if kind.holdsVariables then [] else hoistedOf items

def hoistedOf : List Item → List Occurrence
  | [] => []
  | item :: rest => item.hoisted ++ hoistedOf rest

end

/-- What an item declares in a scope of the kind right around it. -/
def Item.lands (kind : Kind) : Item → List Occurrence
  | .use _ => []
  | .bind hoisted o => if hoisted && !kind.holdsVariables then [] else [o]
  | .scope inner items => if kind.holdsVariables then (Item.scope inner items).hoisted else []

/-- All declarations of a scope, in visiting order. -/
abbrev Table := List Occurrence

/-- The table of a scope of the kind that holds the items. -/
def landing (kind : Kind) (items : List Item) : Table := items.flatMap (Item.lands kind)

/-- The first declaration of the name in the innermost table that has one. -/
def read (tables : List Table) (name : String) : Option Occurrence :=
  tables.findSome? fun t => t.find? fun o => o.name = name

mutual

/-- The references of an item under the tables of the scopes around it, innermost first. -/
def Item.references (tables : List Table) : Item → List Reference
  | .use o => [⟨o, read tables o.name⟩]
  | .bind _ _ => []
  | .scope kind items => referencesOf (landing kind items :: tables) items

def referencesOf (tables : List Table) : List Item → List Reference
  | [] => []
  | item :: rest => item.references tables ++ referencesOf tables rest

end

attribute [simp] Item.references referencesOf

@[simp] theorem referencesOf_append (tables : List Table) (a b : List Item) :
    referencesOf tables (a ++ b) = referencesOf tables a ++ referencesOf tables b := by
  induction a with
  | nil => rfl
  | cons item rest ih => rw [List.cons_append, referencesOf, referencesOf, ih, List.append_assoc]

mutual

theorem Item.bind_mem_of_hoisted {d : Occurrence} :
    (item : Item) → d ∈ item.hoisted → .bind true d ∈ item.leaves
  | .use _, h => by cases h
  | .bind hoisted o, h => by
    cases hoisted with
    | false => cases h
    | true =>
      rw [Item.hoisted, if_pos rfl, List.mem_singleton] at h
      exact h ▸ List.mem_singleton_self _
  | .scope kind items, h => by
    rw [Item.hoisted] at h
    split at h
    · cases h
    · exact bind_mem_of_hoistedOf items h

theorem bind_mem_of_hoistedOf {d : Occurrence} :
    (items : List Item) → d ∈ hoistedOf items → .bind true d ∈ leavesOf items
  | [], h => by cases h
  | item :: rest, h => by
    rw [hoistedOf, List.mem_append] at h
    rw [leavesOf, List.mem_append]
    exact h.imp (item.bind_mem_of_hoisted ·) (bind_mem_of_hoistedOf rest ·)

end

theorem bind_mem_of_landing {kind : Kind} {items : List Item} {d : Occurrence}
    (h : d ∈ landing kind items) : ∃ hoisted, .bind hoisted d ∈ leavesOf items := by
  obtain ⟨item, hitem, hd⟩ := List.mem_flatMap.1 h
  rw [leavesOf_eq]
  suffices hleaf : ∃ hoisted, .bind hoisted d ∈ item.leaves by
    obtain ⟨hoisted, hleaf⟩ := hleaf
    exact ⟨hoisted, List.mem_flatMap_of_mem hitem hleaf⟩
  cases item with
  | use o => cases hd
  | bind hoisted o =>
    rw [Item.lands] at hd
    split at hd
    · cases hd
    · rw [List.mem_singleton] at hd
      exact ⟨hoisted, hd ▸ List.mem_singleton_self _⟩
  | scope inner items =>
    rw [Item.lands] at hd
    split at hd
    · exact ⟨true, Item.bind_mem_of_hoisted _ hd⟩
    · cases hd

@[simp] theorem landing_cons (kind : Kind) (item : Item) (rest : List Item) :
    landing kind (item :: rest) = item.lands kind ++ landing kind rest := rfl

@[simp] theorem landing_append (kind : Kind) (a b : List Item) :
    landing kind (a ++ b) = landing kind a ++ landing kind b := List.flatMap_append

/-! ### Numbered scopes -/

/-- The occurrences that the facts declare in the scope of the number. -/
def declaredIn (k : Nat) (facts : List Fact) : Table :=
  ((facts.filterMap Fact.declaration?).filter (·.scope = k)).map Declaration.occurrence

@[simp] theorem declaredIn_append (k : Nat) (a b : List Fact) :
    declaredIn k (a ++ b) = declaredIn k a ++ declaredIn k b := by
  simp only [declaredIn, List.filterMap_append, List.filter_append, List.map_append]

@[simp] theorem declaredIn_declared (k scope : Nat) (o : Occurrence) :
    declaredIn k [.declared scope o] = if scope = k then [o] else [] := by
  by_cases h : scope = k <;> simp [declaredIn, Fact.declaration?, h]

theorem declaredIn_eq_nil {k : Nat} {facts : List Fact} (h : ∀ o, .declared k o ∉ facts) :
    declaredIn k facts = [] := by
  rw [declaredIn, List.map_eq_nil_iff, List.filter_eq_nil_iff]
  intro d hd
  obtain ⟨fact, hf, hfd⟩ := List.mem_filterMap.1 hd
  cases fact with
  | used scopes o => cases hfd
  | declared scope o =>
    cases hfd
    rw [decide_eq_true_eq]
    rintro rfl
    exact h o hf

theorem find?_declares (k : Nat) (name : String) (facts : List Fact) :
    ((facts.filterMap Fact.declaration?).find? (Declares k name ·)).map Declaration.occurrence =
      (declaredIn k facts).find? fun o => o.name = name := by
  rw [declaredIn, List.find?_map, List.find?_filter]
  congr 2
  funext d
  rw [Bool.eq_iff_iff, decide_eq_true_iff]
  simp [Declares]

theorem resolution_eq_read (facts : List Fact) (scopes : Chain) (name : String) :
    resolution (facts.filterMap Fact.declaration?) scopes name =
      read (scopes.map fun f => declaredIn f.number facts) name := by
  rw [resolution, read, List.findSome?_map]
  simp only [find?_declares, Function.comp_def]

mutual

/-- In a scope further out only hoisted bindings land, and only if it is their target. -/
theorem Item.declaredIn_outer {k next : Nat} {f : Frame} {rest : Chain} (hne : f.number ≠ k)
    (hk : k < next) : (item : Item) →
      declaredIn k (item.facts (f :: rest) next) =
        if (target true (f :: rest)).map Frame.number = some k then item.hoisted else []
  | .use o => by
    rw [Item.facts, Item.hoisted, ite_self]
    rfl
  | .bind false o => by
    rw [Item.facts, Item.hoisted, if_neg Bool.false_ne_true, ite_self]
    exact (declaredIn_declared _ _ _).trans (if_neg hne)
  | .bind true o => by
    rw [Item.facts, Item.hoisted, if_pos rfl]
    cases ht : target true (f :: rest) with
    | none => rfl
    | some g => simp
  | .scope kind items => by
    rw [Item.facts, declaredIn_factsOf_outer (by simpa using Nat.ne_of_gt hk) (by omega) items,
      target_true_cons, Item.hoisted]
    by_cases hkind : kind.holdsVariables
    · simp [hkind, Nat.ne_of_gt hk]
    · simp [hkind]

theorem declaredIn_factsOf_outer {k next : Nat} {f : Frame} {rest : Chain} (hne : f.number ≠ k)
    (hk : k < next) : (items : List Item) →
      declaredIn k (factsOf (f :: rest) next items) =
        if (target true (f :: rest)).map Frame.number = some k then hoistedOf items else []
  | [] => by
    rw [factsOf, hoistedOf, ite_self]
    rfl
  | item :: items => by
    rw [factsOf, declaredIn_append, Item.declaredIn_outer hne hk item,
      declaredIn_factsOf_outer hne (Nat.lt_add_right _ hk) items, hoistedOf]
    split <;> rfl

end

theorem Item.declaredIn_own {next : Nat} {f : Frame} {rest : Chain} (hk : f.number < next)
    (hrest : ∀ g ∈ rest, g.number ≠ f.number) (item : Item) :
    declaredIn f.number (item.facts (f :: rest) next) = item.lands f.kind := by
  have htarget : (target true (f :: rest)).map Frame.number = some f.number ↔
      f.kind.holdsVariables = true := by
    rw [target_true_cons]
    split
    · next h => simp [h]
    · next h =>
      refine iff_of_false (fun heq => ?_) h
      obtain ⟨g, hg, hgn⟩ := Option.map_eq_some_iff.1 heq
      exact hrest g (mem_of_target_true hg) hgn
  cases item with
  | use o => rfl
  | bind hoisted o =>
    cases hoisted with
    | false => exact (declaredIn_declared _ _ _).trans (if_pos rfl)
    | true =>
      rw [Item.facts, Item.lands]
      cases ht : target true (f :: rest) with
      | none =>
        rw [ht] at htarget
        simp at htarget
        simp [htarget, declaredIn]
      | some g =>
        rw [ht] at htarget
        simp only [Option.map_some, Option.some.injEq] at htarget
        rw [Option.toList_some, List.map_singleton, declaredIn_declared]
        cases hkind : f.kind.holdsVariables <;> simp [htarget, hkind]
  | scope kind items =>
    rw [Item.facts, declaredIn_factsOf_outer (by simpa using Nat.ne_of_gt hk) (by omega),
      target_true_cons, Item.lands, Item.hoisted]
    by_cases hkind : kind.holdsVariables
    · simp [hkind, Nat.ne_of_gt hk]
    · simp [hkind, htarget]

/-- The table of a scope is what its facts declare in it. -/
theorem declaredIn_own {next : Nat} {f : Frame} {rest : Chain} (hk : f.number < next)
    (hrest : ∀ g ∈ rest, g.number ≠ f.number) (items : List Item) :
    declaredIn f.number (factsOf (f :: rest) next items) = landing f.kind items := by
  induction items generalizing next with
  | nil => rfl
  | cons item items ih =>
    rw [factsOf, declaredIn_append, Item.declaredIn_own hk hrest, ih (Nat.lt_add_right _ hk),
      landing_cons]

mutual

theorem Item.scope_of_declared {scopes : Chain} {next k : Nat} {o : Occurrence} :
    (item : Item) → .declared k o ∈ item.facts scopes next →
      (∃ f ∈ scopes, f.number = k) ∨ (next ≤ k ∧ k < next + item.count)
  | .use _, h => by
    rw [Item.facts, List.mem_singleton] at h
    cases h
  | .bind hoisted _, h => by
    rw [Item.facts, List.mem_map] at h
    obtain ⟨f, hf, heq⟩ := h
    cases heq
    refine .inl ⟨f, ?_, rfl⟩
    rw [Option.mem_toList] at hf
    cases hoisted with
    | true => exact mem_of_target_true hf
    | false => exact List.mem_of_mem_head? hf
  | .scope kind items, h => by
    rw [Item.facts] at h
    rw [Item.count]
    rcases scope_of_declaredOf items h with ⟨f, hf, rfl⟩ | hr
    · rcases List.mem_cons.1 hf with rfl | hf
      · exact .inr ⟨Nat.le_refl _, by simp⟩
      · exact .inl ⟨f, hf, rfl⟩
    · exact .inr (by omega)

theorem scope_of_declaredOf {scopes : Chain} {next k : Nat} {o : Occurrence} :
    (items : List Item) → .declared k o ∈ factsOf scopes next items →
      (∃ f ∈ scopes, f.number = k) ∨ (next ≤ k ∧ k < next + countAll items)
  | [], h => by cases h
  | item :: items, h => by
    rw [factsOf, List.mem_append] at h
    rw [countAll]
    rcases h with h | h
    · exact (item.scope_of_declared h).imp_right (by omega)
    · exact (scope_of_declaredOf items h).imp_right (by omega)

end

/-! ### References -/

/-- What a use reads, all facts being known. -/
def referenceOf (facts : List Fact) (u : Use) : Reference :=
  ⟨u.occurrence, resolution (facts.filterMap Fact.declaration?) u.scopes u.occurrence.name⟩

/-- The facts before and after some items say nothing about the scopes that the items open. -/
structure Framed (scopes : Chain) (next count : Nat) (before after : List Fact) : Prop where
  older : ∀ f ∈ scopes, f.number < next
  before : ∀ k o, next ≤ k → .declared k o ∉ before
  after : ∀ k o, next ≤ k → k < next + count → .declared k o ∉ after

theorem Framed.scope {scopes : Chain} {next : Nat} {items : List Item} {kind : Kind}
    {before after : List Fact} (h : Framed scopes next (countAll items + 1) before after) :
    Framed (⟨next, kind⟩ :: scopes) (next + 1) (countAll items) before after where
  older := by
    intro f hf
    rcases List.mem_cons.1 hf with rfl | hf
    · exact Nat.lt_succ_self _
    · exact Nat.lt_succ_of_lt (h.older f hf)
  before := fun k o hk => h.before k o (by omega)
  after := fun k o hk hlt => h.after k o (by omega) (by omega)

theorem Framed.head {scopes : Chain} {next : Nat} {item : Item} {items : List Item}
    {before after : List Fact}
    (h : Framed scopes next (item.count + countAll items) before after) :
    Framed scopes next item.count before
      (factsOf scopes (next + item.count) items ++ after) where
  older := h.older
  before := h.before
  after := by
    intro k o hk hlt hmem
    rcases List.mem_append.1 hmem with hmem | hmem
    · rcases scope_of_declaredOf items hmem with ⟨f, hf, rfl⟩ | hr
      · exact Nat.not_lt.2 hk (h.older f hf)
      · omega
    · exact h.after k o hk (by omega) hmem

theorem Framed.tail {scopes : Chain} {next : Nat} {item : Item} {items : List Item}
    {before after : List Fact}
    (h : Framed scopes next (item.count + countAll items) before after) :
    Framed scopes (next + item.count) (countAll items) (before ++ item.facts scopes next) after where
  older := fun f hf => Nat.lt_add_right _ (h.older f hf)
  before := by
    intro k o hk hmem
    rcases List.mem_append.1 hmem with hmem | hmem
    · exact h.before k o (by omega) hmem
    · rcases item.scope_of_declared hmem with ⟨f, hf, rfl⟩ | hr
      · exact absurd (h.older f hf) (by omega)
      · omega
  after := fun k o hk hlt => h.after k o (by omega) (by omega)

mutual

theorem Item.references_eq {whole before after : List Fact} {scopes : Chain} {next : Nat} :
    (item : Item) → Framed scopes next item.count before after →
      whole = before ++ (item.facts scopes next ++ after) →
      ((item.facts scopes next).filterMap Fact.use?).map (referenceOf whole) =
        item.references (scopes.map fun f => declaredIn f.number whole)
  | .use o, _, _ => by
    rw [Item.references, ← resolution_eq_read]
    rfl
  | .bind hoisted o, _, _ => by
    rw [Item.facts, Item.references]
    cases target hoisted scopes <;> rfl
  | .scope kind items, h, hwhole => by
    -- the facts around say nothing about the new scope, so its table is complete
    have htable : declaredIn next whole = landing kind items := by
      have hlast : next < next + (Item.scope kind items).count := by simp [Item.count]
      rw [hwhole, declaredIn_append, declaredIn_append,
        declaredIn_eq_nil fun o => h.before next o (Nat.le_refl _),
        declaredIn_eq_nil fun o => h.after next o (Nat.le_refl _) hlast, Item.facts,
        List.nil_append, List.append_nil]
      exact declaredIn_own (f := ⟨next, kind⟩) (Nat.lt_succ_self _)
        (fun g hg => Nat.ne_of_lt (h.older g hg)) items
    rw [Item.facts, referencesOf_eq items h.scope (by rw [hwhole, Item.facts]), Item.references,
      List.map_cons, htable]

theorem referencesOf_eq {whole before after : List Fact} {scopes : Chain} {next : Nat} :
    (items : List Item) → Framed scopes next (countAll items) before after →
      whole = before ++ (factsOf scopes next items ++ after) →
      ((factsOf scopes next items).filterMap Fact.use?).map (referenceOf whole) =
        referencesOf (scopes.map fun f => declaredIn f.number whole) items
  | [], _, _ => rfl
  | item :: items, h, hwhole => by
    rw [factsOf, List.append_assoc] at hwhole
    rw [factsOf, List.filterMap_append, List.map_append, item.references_eq h.head hwhole,
      referencesOf_eq items h.tail (by rw [hwhole, List.append_assoc]), referencesOf]

end

def moduleReferences (program : Node) : List Reference :=
  referencesOf [landing .module (outline program)] (outline program)

theorem references_perm (program : Node) :
    (analyze program).references.Perm (moduleReferences program) := by
  have hframed : Framed [⟨0, .module⟩] 1 (countAll (moduleItems program)) [] [] := by
    refine ⟨fun f hf => ?_, nofun, nofun⟩
    rw [List.mem_singleton.1 hf]
    exact Nat.one_pos
  have htable : declaredIn 0 (moduleFacts program) = landing .module (moduleItems program) :=
    declaredIn_own (f := ⟨0, .module⟩) Nat.one_pos (fun _ hg => absurd hg List.not_mem_nil) _
  have hwhole : moduleFacts program =
      [] ++ (factsOf [⟨0, .module⟩] 1 (moduleItems program) ++ []) := by
    rw [List.append_nil, List.nil_append, moduleFacts]
  have heq := referencesOf_eq (moduleItems program) hframed hwhole
  rw [List.map_singleton, htable] at heq
  rw [TierSplit.Scope.references_eq, moduleReferences, outline_eq_moduleItems, ← heq]
  exact (sortBy_perm _ _).map _

theorem first_or_read {t : Table} {tables : List Table} {name : String} {d : Occurrence}
    (h : read (t :: tables) name = some d) :
    t.find? (fun o => o.name = name) = some d ∨ read tables name = some d := by
  rw [read, List.findSome?_cons] at h
  split at h
  · next o ho =>
    cases h
    exact .inl ho
  · exact .inr h

mutual

/-- A reference is that of a use in the item, and reads a declaration from around the item or in it. -/
theorem Item.of_mem_references {tables : List Table} {r : Reference} :
    (item : Item) → r ∈ item.references tables → .use r.use ∈ item.leaves ∧
      ∀ d, r.declaration = some d → read tables r.use.name = some d ∨
        ∃ hoisted, .bind hoisted d ∈ item.leaves
  | .use o, h => by
    rw [Item.references, List.mem_singleton] at h
    subst h
    exact ⟨List.mem_singleton_self _, fun d hd => .inl hd⟩
  | .bind _ _, h => by cases h
  | .scope kind items, h => by
    rw [Item.references] at h
    obtain ⟨huse, hdecl⟩ := of_mem_referencesOf items h
    refine ⟨huse, fun d hd => ?_⟩
    rcases hdecl d hd with hread | hmem
    · rcases first_or_read hread with hfirst | hread
      · exact .inr (bind_mem_of_landing (List.mem_of_find?_eq_some hfirst))
      · exact .inl hread
    · exact .inr hmem

theorem of_mem_referencesOf {tables : List Table} {r : Reference} :
    (items : List Item) → r ∈ referencesOf tables items → .use r.use ∈ leavesOf items ∧
      ∀ d, r.declaration = some d → read tables r.use.name = some d ∨
        ∃ hoisted, .bind hoisted d ∈ leavesOf items
  | [], h => by cases h
  | item :: items, h => by
    rw [referencesOf, List.mem_append] at h
    rw [leavesOf]
    rcases h with h | h
    · obtain ⟨huse, hdecl⟩ := item.of_mem_references h
      exact ⟨List.mem_append_left _ huse, fun d hd =>
        (hdecl d hd).imp_right fun ⟨hoisted, hm⟩ => ⟨hoisted, List.mem_append_left _ hm⟩⟩
    · obtain ⟨huse, hdecl⟩ := of_mem_referencesOf items h
      exact ⟨List.mem_append_right _ huse, fun d hd =>
        (hdecl d hd).imp_right fun ⟨hoisted, hm⟩ => ⟨hoisted, List.mem_append_right _ hm⟩⟩

end

end TierSplit.Scope

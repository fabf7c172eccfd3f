import TierSplit.Proofs.Resolution

/-! What was done to a store of scopes decides what it answers. Parents are older than their scopes, so
the way up from a scope ends. A name is found in the nearest scope on this way in which it was ever
declared, and there the earliest declaration counts; a declaration made later is found only from where
it is the first on the way. -/

namespace TierSplit.Scope

open Syntax

/-! ### Climbing scope by scope -/

namespace Store

variable {α : Type} {store : Store α}

/-- The search for a name from a scope upwards. It ends where the name is bound, or at a scope without
a parent. -/
inductive Finds (store : Store α) (name : String) : Nat → Option α → Prop
  | here {s : Nat} {a : α} (bound : store.binding? s name = some a) : Finds store name s (some a)
  | above {s p : Nat} {e : Entry α} {found : Option α} (unbound : store.binding? s name = none)
      (entry : store.entries[s]? = some e) (parent : e.parent = some p)
      (rest : Finds store name p found) : Finds store name s found
  | nowhere {s : Nat} {e : Entry α} (unbound : store.binding? s name = none)
      (entry : store.entries[s]? = some e) (parent : e.parent = none) : Finds store name s none

/-- The search for the scope that variables land in. It ends at a function or module scope, or at a
scope without a parent. -/
inductive Lands (store : Store α) : Nat → Nat → Prop
  | here {s : Nat} {e : Entry α} (entry : store.entries[s]? = some e)
      (stops : e.kind.holdsVariables = true ∨ e.parent = none) : Lands store s s
  | above {s p v : Nat} {e : Entry α} (entry : store.entries[s]? = some e)
      (passes : e.kind.holdsVariables = false) (parent : e.parent = some p)
      (rest : Lands store p v) : Lands store s v

theorem Finds.unique {name : String} {s : Nat} {found found' : Option α}
    (h : store.Finds name s found) (h' : store.Finds name s found') : found = found' := by
  induction h with
  | here bound =>
    cases h' with
    | here bound' => rw [← bound, bound']
    | above unbound => rw [bound] at unbound; cases unbound
    | nowhere unbound => rw [bound] at unbound; cases unbound
  | above unbound entry parent _ ih =>
    cases h' with
    | here bound => rw [unbound] at bound; cases bound
    | above _ entry' parent' rest' =>
      cases entry.symm.trans entry'
      cases parent.symm.trans parent'
      exact ih rest'
    | nowhere _ entry' parent' =>
      cases entry.symm.trans entry'
      cases parent.symm.trans parent'
  | nowhere unbound entry parent =>
    cases h' with
    | here bound => rw [unbound] at bound; cases bound
    | above _ entry' parent' =>
      cases entry.symm.trans entry'
      cases parent.symm.trans parent'
    | nowhere => rfl

theorem Lands.unique {s v v' : Nat} (h : store.Lands s v) (h' : store.Lands s v') : v = v' := by
  induction h with
  | here entry stops =>
    cases h' with
    | here => rfl
    | above entry' passes parent =>
      cases entry.symm.trans entry'
      rcases stops with holds | root
      · rw [passes] at holds; cases holds
      · rw [parent] at root; cases root
  | above entry passes parent _ ih =>
    cases h' with
    | here entry' stops =>
      cases entry.symm.trans entry'
      rcases stops with holds | root
      · rw [passes] at holds; cases holds
      · rw [parent] at root; cases root
    | above entry' _ parent' rest' =>
      cases entry.symm.trans entry'
      cases parent.symm.trans parent'
      exact ih rest'

/-- Where a search for a variable scope ends, another one starts and ends. -/
theorem Lands.again {s v : Nat} (h : store.Lands s v) : store.Lands v v := by
  induction h with
  | here entry stops => exact .here entry stops
  | above _ _ _ _ ih => exact ih

theorem Climbs.finds {scopes : Chain} (h : store.Climbs scopes) (name : String) {f : Frame}
    (hf : f ∈ scopes) : store.Finds name f.number (store.lookup? f.number name) := by
  induction h generalizing f with
  | root entry kind parent =>
    obtain rfl := List.mem_singleton.1 hf
    rw [lookup?, (Climbs.root entry kind parent).chain_eq, List.map_singleton,
      List.findSome?_singleton]
    cases hb : store.binding? f.number name with
    | some a => exact .here hb
    | none => exact .nowhere hb entry parent
  | inner entry kind parent older outer ih =>
    rcases List.mem_cons.1 hf with rfl | hf
    · have habove := ih List.mem_cons_self
      rw [lookup?, outer.chain_eq] at habove
      rw [lookup?, (Climbs.inner entry kind parent older outer).chain_eq, List.map_cons,
        List.findSome?_cons]
      cases hb : store.binding? f.number name with
      | some a => exact .here hb
      | none => exact .above hb entry parent habove
    · exact ih hf

theorem Climbs.lands {scopes : Chain} (h : store.Climbs scopes) {f : Frame} (hf : f ∈ scopes) :
    store.Lands f.number (store.variableScope f.number) := by
  induction h generalizing f with
  | root entry kind parent =>
    obtain rfl := List.mem_singleton.1 hf
    have hscope := (Climbs.root entry kind parent).variableScope_eq
    rw [target_true_cons, target, if_pos rfl, List.find?_nil, List.getLast?_singleton] at hscope
    have hself : f.number = store.variableScope f.number := by
      split at hscope <;> exact Option.some.inj hscope
    rw [← hself]
    exact .here entry (.inr parent)
  | inner entry kind parent older outer ih =>
    rcases List.mem_cons.1 hf with rfl | hf
    · have hscope := (Climbs.inner entry kind parent older outer).variableScope_eq
      rw [target_true_cons, ← kind, List.getLast?_cons_cons] at hscope
      split at hscope
      · next hk =>
        rw [← Option.some.inj hscope]
        exact .here entry (.inl hk)
      · next hk =>
        rw [outer.variableScope_eq] at hscope
        rw [← Option.some.inj hscope]
        exact .above entry (Bool.eq_false_of_not_eq_true hk) parent (ih List.mem_cons_self)
    · exact ih hf

theorem Climbs.variableScope_again {f : Frame} {rest : Chain} (h : store.Climbs (f :: rest)) :
    store.variableScope (store.variableScope f.number) = store.variableScope f.number := by
  obtain ⟨g, hg, hnumber⟩ := Option.map_eq_some_iff.1 h.variableScope_eq
  have hmem : g ∈ f :: rest := by
    rcases Option.or_eq_some_iff.1 hg with hg | ⟨-, hg⟩
    · exact mem_of_target_true hg
    · exact List.mem_of_getLast? hg
  have hlands := h.lands hmem
  rw [hnumber] at hlands
  exact hlands.unique (h.lands List.mem_cons_self).again

end Store

/-! ### Histories -/

/-- What was done to a store that has come to hold `n` scopes. A scope is created under an existing one or
under none, and declarations are made in existing scopes. -/
inductive History : Nat → Type
  | start : History 0
  | create {n : Nat} (h : History n) (kind : Kind) (parent : Option (Fin n)) : History (n + 1)
  | declare {n : Nat} (h : History n) (scope : Fin n) (o : Occurrence) : History n

namespace History

def store : {n : Nat} → History n → Store Occurrence
  | _, start => .empty
  | _, create h kind parent => (h.store.create kind (parent.map Fin.val)).2
  | _, declare h scope o => h.store.declare scope o.name o

def declarations : {n : Nat} → History n → List Declaration
  | _, start => []
  | _, create h _ _ => h.declarations
  | _, declare h scope o => h.declarations ++ [⟨scope, o⟩]

/-- A scope, the scope it was created under, and so on. -/
def chain : {n : Nat} → History n → Nat → Chain
  | _, start, _ => []
  | _, @create n h kind parent, s =>
    if s = n then ⟨n, kind⟩ :: parent.elim [] fun p => h.chain p else h.chain s
  | _, declare h _ _, s => h.chain s

variable {n : Nat}

theorem size_store (h : History n) : h.store.entries.size = n := by
  induction h with
  | start => rfl
  | create h kind parent ih => simp [store, Store.create, ih]
  | declare h scope o ih => simp [store, Store.declare, ih]

theorem grows_store_create (h : History n) (kind : Kind) (parent : Option (Fin n)) :
    h.store.Grows (h.create kind parent).store := Store.grows_create _ _ _

theorem chain_create_new (h : History n) (kind : Kind) (parent : Option (Fin n)) :
    (h.create kind parent).chain n = ⟨n, kind⟩ :: parent.elim [] fun p => h.chain p := by
  rw [chain, if_pos rfl]

theorem chain_create_old (h : History n) (kind : Kind) (parent : Option (Fin n)) (s : Fin n) :
    (h.create kind parent).chain s = h.chain s := by
  rw [chain, if_neg (Nat.ne_of_lt s.isLt)]

theorem climbs (h : History n) (s : Fin n) :
    ∃ f rest, h.chain s = f :: rest ∧ f.number = s ∧ h.store.Climbs (h.chain s) := by
  induction h with
  | start => exact s.elim0
  | declare h scope o ih =>
    obtain ⟨f, rest, hchain, hf, hclimbs⟩ := ih s
    exact ⟨f, rest, hchain, hf, hclimbs.mono (Store.grows_declare _ _ _ _)⟩
  | @create n h kind parent ih =>
    rcases Nat.lt_or_eq_of_le (Nat.le_of_lt_succ s.isLt) with hlt | heq
    · obtain ⟨f, rest, hchain, hf, hclimbs⟩ := ih ⟨s, hlt⟩
      rw [chain_create_old h kind parent ⟨s, hlt⟩]
      exact ⟨f, rest, hchain, hf, hclimbs.mono (h.grows_store_create kind parent)⟩
    · have entry : (h.create kind parent).store.entries[h.store.entries.size]? =
          some ⟨kind, parent.map Fin.val, []⟩ := Array.getElem?_push_size
      rw [h.size_store] at entry
      rw [heq, chain_create_new]
      refine ⟨_, _, rfl, rfl, ?_⟩
      cases parent with
      | none => exact .root entry rfl rfl
      | some p =>
        obtain ⟨g, rest, hchain, hg, hclimbs⟩ := ih p
        rw [Option.elim, hchain]
        rw [hchain] at hclimbs
        refine .inner entry rfl (by rw [hg]; rfl) ?_ (hclimbs.mono (h.grows_store_create kind _))
        rw [hg]
        exact p.isLt

/-- A scope binds a name to the earliest declaration of the name in it. -/
theorem binding?_store (h : History n) (k : Nat) (name : String) :
    h.store.binding? k name =
      (h.declarations.find? (Declares k name ·)).map Declaration.occurrence := by
  induction h with
  | start => rfl
  | create h kind parent ih => rw [store, Store.binding?_create, ih, declarations]
  | declare h scope o ih =>
    have hlt : (scope : Nat) < h.store.entries.size := by
      rw [h.size_store]
      exact scope.isLt
    rw [store, Store.binding?_declare (Array.getElem?_eq_getElem hlt), ih, declarations,
      List.find?_append, Option.map_or, map_find?_declares_singleton]

theorem lookup?_store (h : History n) (s : Fin n) (name : String) :
    h.store.lookup? s name = resolution h.declarations (h.chain s) name := by
  obtain ⟨f, rest, hchain, hf, hclimbs⟩ := h.climbs s
  rw [hchain] at hclimbs ⊢
  rw [← hf]
  exact hclimbs.lookup?_eq fun k => h.binding?_store k name

end History

/-! ### One more declaration -/

/-- Scope `t` lies on the chain, and neither it nor a scope nearer than it declares the name. -/
def Exposed (ds : List Declaration) (scopes : Chain) (t : Nat) (name : String) : Prop :=
  ∃ inner f outer, scopes = inner ++ f :: outer ∧ f.number = t ∧
    (∀ d ∈ ds, ¬Declares t name d) ∧ ∀ g ∈ inner, ∀ d ∈ ds, ¬Declares g.number name d

theorem resolution_cons (ds : List Declaration) (f : Frame) (rest : Chain) (name : String) :
    resolution ds (f :: rest) name =
      ((ds.find? (Declares f.number name ·)).map Declaration.occurrence).or
        (resolution ds rest name) := by
  rw [resolution, List.findSome?_cons]
  cases (ds.find? (Declares f.number name ·)).map Declaration.occurrence <;> rfl

theorem map_find?_declares_append (ds : List Declaration) (t : Nat) (o : Occurrence) (k : Nat)
    (name : String) :
    ((ds ++ [Declaration.mk t o]).find? (Declares k name ·)).map Declaration.occurrence =
      ((ds.find? (Declares k name ·)).map Declaration.occurrence).or
        (if t = k ∧ o.name = name then some o else none) := by
  rw [List.find?_append, Option.map_or, map_find?_declares_singleton]

theorem Exposed.cons {ds : List Declaration} {scopes : Chain} {t : Nat} {name : String}
    (h : Exposed ds scopes t name) {f : Frame} (hf : ∀ d ∈ ds, ¬Declares f.number name d) :
    Exposed ds (f :: scopes) t name := by
  obtain ⟨inner, g, outer, rfl, hg, hnew, hinner⟩ := h
  exact ⟨f :: inner, g, outer, rfl, hg, hnew, List.forall_mem_cons.2 ⟨hf, hinner⟩⟩

theorem resolution_of_exposed {ds : List Declaration} {scopes : Chain} {t : Nat} {o : Occurrence}
    (h : Exposed ds scopes t o.name) : resolution (ds ++ [⟨t, o⟩]) scopes o.name = some o := by
  obtain ⟨inner, f, outer, rfl, rfl, hnew, hinner⟩ := h
  induction inner with
  | nil =>
    rw [List.nil_append, resolution_cons, map_find?_declares_append, find?_declares_eq_none.2 hnew]
    simp
  | cons g inner ih =>
    obtain ⟨hg, hinner⟩ := List.forall_mem_cons.1 hinner
    rw [List.cons_append, resolution_cons, map_find?_declares_append, find?_declares_eq_none.2 hg,
      ih hinner]
    split <;> rfl

theorem resolution_of_not_exposed {ds : List Declaration} {scopes : Chain} {t : Nat} {o : Occurrence}
    {name : String} (h : ¬(o.name = name ∧ Exposed ds scopes t name)) :
    resolution (ds ++ [⟨t, o⟩]) scopes name = resolution ds scopes name := by
  induction scopes with
  | nil => rfl
  | cons f rest ih =>
    rw [resolution_cons, resolution_cons, map_find?_declares_append]
    cases hd : ds.find? (Declares f.number name ·) with
    | some d => rfl
    | none =>
      have hf := find?_declares_eq_none.1 hd
      have hhere : ¬(t = f.number ∧ o.name = name) := by
        rintro ⟨rfl, hname⟩
        exact h ⟨hname, [], f, rest, rfl, rfl, hf, by simp⟩
      rw [if_neg hhere, ih fun hrest => h ⟨hrest.1, hrest.2.cons hf⟩]
      rfl

/-- Every lookup ends and finds the earliest declaration of the name in the nearest scope on the way up
that ever declared it, or nothing if none did. One more declaration changes a lookup only if it is of the
name looked up, in a scope on the way up that had none, with none nearer; then it is found. A new scope
changes no lookup. Every search for a variable scope ends at the nearest function or module scope, or else
at the root, and a search from there finds it again. -/
theorem lookups_follow_history {n : Nat} (h : History n) :
    (∀ (s : Fin n) (name : String),
      (∀ found, h.store.Finds name s found ↔ found = h.store.lookup? s name) ∧
      Resolves h.declarations (h.chain s) name (h.store.lookup? s name) ∧
      (h.store.lookup? s name = none ↔
        ∀ f ∈ h.chain s, ∀ d ∈ h.declarations, ¬Declares f.number name d)) ∧
    (∀ (t : Fin n) (o : Occurrence) (s : Fin n) (name : String),
      ((h.declare t o).store.lookup? s name ≠ h.store.lookup? s name →
        name = o.name ∧ Exposed h.declarations (h.chain s) t name) ∧
      (Exposed h.declarations (h.chain s) t o.name →
        (h.declare t o).store.lookup? s o.name = some o)) ∧
    (∀ kind parent (s : Fin n) (name : String),
      (h.create kind parent).store.lookup? s name = h.store.lookup? s name) ∧
    ∀ s : Fin n,
      (∀ v, h.store.Lands s v ↔ v = h.store.variableScope s) ∧
      ((target true (h.chain s)).or (h.chain s).getLast?).map Frame.number =
        some (h.store.variableScope s) ∧
      h.store.variableScope (h.store.variableScope s) = h.store.variableScope s := by
  refine ⟨fun s name => ⟨?_, ?_, ?_⟩, fun t o s name => ⟨fun hne => ?_, fun he => ?_⟩,
    fun kind parent s name => ?_, fun s => ?_⟩
  · obtain ⟨f, rest, hchain, hf, hclimbs⟩ := h.climbs s
    rw [hchain] at hclimbs
    have hfinds := hf ▸ hclimbs.finds name List.mem_cons_self
    exact fun found => ⟨fun hr => hr.unique hfinds, fun hr => hr ▸ hfinds⟩
  · rw [h.lookup?_store]
    exact resolves_resolution _ _ _
  · rw [h.lookup?_store, resolution, List.findSome?_eq_none_iff]
    simp only [Option.map_eq_none_iff, find?_declares_eq_none]
  · by_contra hnot
    refine hne ?_
    rw [History.lookup?_store, History.lookup?_store]
    exact resolution_of_not_exposed fun he => hnot ⟨he.1.symm, he.2⟩
  · rw [History.lookup?_store]
    exact resolution_of_exposed he
  · have hnew := (h.create kind parent).lookup?_store s.castSucc name
    rw [Fin.val_castSucc, History.chain_create_old] at hnew
    rw [hnew, h.lookup?_store]
    rfl
  · obtain ⟨f, rest, hchain, hf, hclimbs⟩ := h.climbs s
    rw [hchain] at hclimbs ⊢
    rw [← hf]
    have hlands := hclimbs.lands List.mem_cons_self
    exact ⟨fun v => ⟨fun hv => hv.unique hlands, fun hv => hv ▸ hlands⟩, hclimbs.variableScope_eq,
      hclimbs.variableScope_again⟩

/-- A module, a function in it and a block in that; the module declares `x`, and then once more. -/
def nestedHistory : History 3 :=
  (((((History.start.create .module none).create .function (some 0)).create .block (some 1)).declare
    0 ⟨[0], "x", 4, 5⟩).declare 0 ⟨[1], "x", 11, 12⟩)

/-- The block finds the first `x` of the module, until the function declares one too. -/
theorem nestedHistory_looked_up :
    nestedHistory.store.Finds "x" 2 (some ⟨[0], "x", 4, 5⟩) ∧
    (nestedHistory.declare 1 ⟨[2], "x", 20, 21⟩).store.lookup? 2 "x" = some ⟨[2], "x", 20, 21⟩ ∧
    nestedHistory.store.variableScope (nestedHistory.store.variableScope 2) = 1 := by
  obtain ⟨hlookup, hdeclare, -, hscope⟩ := lookups_follow_history nestedHistory
  refine ⟨((hlookup 2 "x").1 _).2 (by decide +kernel), ?_, ?_⟩
  · exact (hdeclare 1 ⟨[2], "x", 20, 21⟩ 2 "x").2
      ⟨[⟨2, .block⟩], ⟨1, .function⟩, [⟨0, .module⟩], rfl, rfl, by decide, by decide⟩
  · exact (hscope 2).2.2.trans (by decide +kernel)

end TierSplit.Scope

import TierSplit.Scope.Graph
import TierSplit.Proofs.ScopeAgreement
import TierSplit.Proofs.Sorted
import Mathlib.Data.List.Find
import Mathlib.Data.Prod.Lex

/-! Name resolution. What a module holds is first read as facts: which occurrence is declared in which
scope, and which is used under which chain of scopes. A use reads the first declaration of its name in
the innermost scope of its chain that declares the name at all, wherever in the module that is. -/

namespace TierSplit.Scope

open Syntax

/-- A scope: its number among the scopes of a module, in order of opening, and its kind. -/
structure Frame where
  number : Nat
  kind : Kind
deriving Repr, DecidableEq

/-- A scope and the scopes around it, innermost first. -/
abbrev Chain := List Frame

inductive Fact where
  | declared (scope : Nat) (o : Occurrence)
  | used (scopes : Chain) (o : Occurrence)
deriving Repr, DecidableEq

/-- Where a binding lands: hoisted, in the nearest function or module scope; else, right here. -/
def target (hoisted : Bool) (scopes : Chain) : Option Frame :=
  if hoisted then scopes.find? fun f => f.kind = .function ∨ f.kind = .module else scopes.head?

theorem target_true_cons (f : Frame) (rest : Chain) :
    target true (f :: rest) = if f.kind.holdsVariables then some f else target true rest := by
  obtain ⟨number, kind⟩ := f
  cases kind <;> simp [target, Kind.holdsVariables]

theorem mem_of_target_true {scopes : Chain} {f : Frame} (h : target true scopes = some f) :
    f ∈ scopes := List.mem_of_find?_eq_some (by simpa [target] using h)

mutual

/-- How many scopes an item opens. -/
def Item.count : Item → Nat
  | .use _ => 0
  | .bind _ _ => 0
  | .scope _ items => countAll items + 1

def countAll : List Item → Nat
  | [] => 0
  | item :: rest => item.count + countAll rest

end

mutual

/-- The facts of an item under a chain of scopes, the next scope to be opened getting a number. -/
def Item.facts (scopes : Chain) (next : Nat) : Item → List Fact
  | .use o => [.used scopes o]
  | .bind hoisted o => (target hoisted scopes).toList.map fun f => .declared f.number o
  | .scope kind items => factsOf (⟨next, kind⟩ :: scopes) (next + 1) items

def factsOf (scopes : Chain) (next : Nat) : List Item → List Fact
  | [] => []
  | item :: rest => item.facts scopes next ++ factsOf scopes (next + item.count) rest

end

structure Declaration where
  scope : Nat
  occurrence : Occurrence
deriving Repr, DecidableEq

structure Use where
  scopes : Chain
  occurrence : Occurrence
deriving Repr, DecidableEq

def Fact.declaration? : Fact → Option Declaration
  | .declared scope o => some ⟨scope, o⟩
  | .used _ _ => none

def Fact.use? : Fact → Option Use
  | .declared _ _ => none
  | .used scopes o => some ⟨scopes, o⟩

def moduleFacts (program : Node) : List Fact := factsOf [⟨0, .module⟩] 1 (moduleItems program)

def declarations (program : Node) : List Declaration :=
  (moduleFacts program).filterMap Fact.declaration?

def uses (program : Node) : List Use := (moduleFacts program).filterMap Fact.use?

def Declares (scope : Nat) (name : String) (d : Declaration) : Prop :=
  d.scope = scope ∧ d.occurrence.name = name

instance (scope : Nat) (name : String) (d : Declaration) : Decidable (Declares scope name d) :=
  inferInstanceAs (Decidable (_ ∧ _))

theorem find?_declares_eq_none {ds : List Declaration} {scope : Nat} {name : String} :
    ds.find? (Declares scope name ·) = none ↔ ∀ d ∈ ds, ¬Declares scope name d := by
  rw [List.find?_eq_none]
  simp only [decide_eq_true_eq]

theorem map_find?_declares_singleton (d : Declaration) (scope : Nat) (name : String) :
    ([d].find? (Declares scope name ·)).map Declaration.occurrence =
      if d.scope = scope ∧ d.occurrence.name = name then some d.occurrence else none := by
  rw [List.find?_singleton]
  by_cases hd : Declares scope name d
  · rw [decide_eq_true hd]
    exact (if_pos hd).symm
  · rw [decide_eq_false hd]
    exact (if_neg hd).symm

/-- Nothing is read where no scope of the chain declares the name. Else the innermost scope that
declares it is read, and of that scope the first declaration. -/
def Resolves (ds : List Declaration) (scopes : Chain) (name : String) : Option Occurrence → Prop
  | none => ∀ f ∈ scopes, ∀ d ∈ ds, ¬Declares f.number name d
  | some o => ∃ inner f outer earlier later,
      scopes = inner ++ f :: outer ∧ (∀ g ∈ inner, ∀ d ∈ ds, ¬Declares g.number name d) ∧
      ds = earlier ++ ⟨f.number, o⟩ :: later ∧ o.name = name ∧
      ∀ d ∈ earlier, ¬Declares f.number name d

/-! ### The store -/

namespace Store

variable {α : Type}

def Grows (store later : Store α) : Prop :=
  ∀ (k : Nat) (e : Entry α), store.entries[k]? = some e →
    ∃ e' : Entry α, later.entries[k]? = some e' ∧ e'.kind = e.kind ∧ e'.parent = e.parent

theorem Grows.refl (store : Store α) : store.Grows store := fun _ e h => ⟨e, h, rfl, rfl⟩

theorem Grows.trans {a b c : Store α} (hab : a.Grows b) (hbc : b.Grows c) : a.Grows c := by
  intro k e h
  obtain ⟨e', h', hk', hp'⟩ := hab k e h
  obtain ⟨e'', h'', hk'', hp''⟩ := hbc k e' h'
  exact ⟨e'', h'', hk''.trans hk', hp''.trans hp'⟩

theorem grows_create (store : Store α) (kind : Kind) (parent : Option Nat) :
    store.Grows (store.create kind parent).2 := by
  intro k e h
  refine ⟨e, ?_, rfl, rfl⟩
  obtain ⟨hk, rfl⟩ := Array.getElem?_eq_some_iff.1 h
  simp [create, Array.getElem?_push, hk, Nat.ne_of_lt hk]

theorem grows_declare (store : Store α) (scope : Nat) (name : String) (a : α) :
    store.Grows (store.declare scope name a) := by
  intro k e h
  simp only [declare, Array.getElem?_modify, h]
  split <;> exact ⟨_, rfl, rfl, rfl⟩

theorem binding?_create (store : Store α) (kind : Kind) (parent : Option Nat) (k : Nat)
    (name : String) : (store.create kind parent).2.binding? k name = store.binding? k name := by
  unfold binding? create
  by_cases hk : k = store.entries.size
  · subst hk
    simp
  · simp only [Array.getElem?_push, if_neg hk]

theorem find?_bindIn (bindings : List (String × α)) (name other : String) (a : α) :
    ((bindIn bindings name a).find? (·.1 == other)).map (·.2) =
      ((bindings.find? (·.1 == other)).map (·.2)).or (if name = other then some a else none) := by
  unfold bindIn
  split
  · rename_i hany
    split
    · rename_i he
      subst he
      obtain ⟨b, hb, hbn⟩ := List.any_eq_true.1 hany
      have : (bindings.find? (·.1 == name)).isSome := List.find?_isSome.2 ⟨b, hb, hbn⟩
      obtain ⟨c, hc⟩ := Option.isSome_iff_exists.1 this
      simp [hc]
    · simp
  · rw [List.find?_append, List.find?_singleton]
    cases List.find? (·.1 == other) bindings <;> by_cases he : name = other <;> simp [he]

theorem binding?_declare {store : Store α} {scope : Nat} {e : Entry α}
    (h : store.entries[scope]? = some e) (name : String) (a : α) (k : Nat) (other : String) :
    (store.declare scope name a).binding? k other =
      (store.binding? k other).or (if scope = k ∧ name = other then some a else none) := by
  unfold binding? declare
  rw [Array.getElem?_modify]
  by_cases hk : scope = k
  · subst hk
    simp only [h, if_true, Option.map_some, true_and]
    exact find?_bindIn e.bindings name other a
  · simp [hk]

/-- The store has a chain: each scope has its kind and names the next one, which is older, as its
parent, and the last one has no parent. -/
inductive Climbs (store : Store α) : Chain → Prop
  | root {f : Frame} {e : Entry α} (entry : store.entries[f.number]? = some e)
      (kind : e.kind = f.kind) (parent : e.parent = none) : Climbs store [f]
  | inner {f g : Frame} {rest : Chain} {e : Entry α} (entry : store.entries[f.number]? = some e)
      (kind : e.kind = f.kind) (parent : e.parent = some g.number) (older : g.number < f.number)
      (outer : Climbs store (g :: rest)) : Climbs store (f :: g :: rest)

/-- The store holds a chain: each scope has its kind and names the next one as its parent, and the
last one is a module scope without a parent. -/
inductive Holds (store : Store α) : Chain → Prop
  | root {f : Frame} {e : Entry α} (entry : store.entries[f.number]? = some e)
      (kind : e.kind = f.kind) (parent : e.parent = none) (top : f.kind = .module) :
      Holds store [f]
  | inner {f g : Frame} {rest : Chain} {e : Entry α} (entry : store.entries[f.number]? = some e)
      (kind : e.kind = f.kind) (parent : e.parent = some g.number) (older : g.number < f.number)
      (outer : Holds store (g :: rest)) : Holds store (f :: g :: rest)

variable {store : Store α}

theorem Climbs.mono {later : Store α} (hg : store.Grows later) {scopes : Chain}
    (h : store.Climbs scopes) : later.Climbs scopes := by
  induction h with
  | root entry kind parent =>
    obtain ⟨e', h', hk, hp⟩ := hg _ _ entry
    exact .root h' (hk.trans kind) (hp.trans parent)
  | inner entry kind parent older _ ih =>
    obtain ⟨e', h', hk, hp⟩ := hg _ _ entry
    exact .inner h' (hk.trans kind) (hp.trans parent) older ih

theorem Climbs.entry_of_mem {scopes : Chain} (h : store.Climbs scopes) {f : Frame} (hf : f ∈ scopes) :
    ∃ e : Entry α, store.entries[f.number]? = some e ∧ e.kind = f.kind := by
  induction h with
  | root entry kind =>
    rw [List.mem_singleton] at hf
    exact hf ▸ ⟨_, entry, kind⟩
  | inner entry kind _ _ _ ih =>
    rcases List.mem_cons.1 hf with rfl | hf
    · exact ⟨_, entry, kind⟩
    · exact ih hf

theorem Climbs.chain_eq {f : Frame} {rest : Chain} (h : store.Climbs (f :: rest)) :
    store.chain f.number = (f :: rest).map Frame.number := by
  generalize hs : f :: rest = scopes at h
  induction h generalizing f rest with
  | root entry _ parent =>
    cases hs
    rw [chain, entry]
    simp only [parent, List.map_cons, List.map_nil]
  | inner entry _ parent older _ ih =>
    cases hs
    rw [chain, entry]
    simp only [parent, if_pos older, List.map_cons, ih rfl]

/-- The variable scope is the nearest function or module scope of the chain, or else its root. -/
theorem Climbs.variableScope_eq {f : Frame} {rest : Chain} (h : store.Climbs (f :: rest)) :
    ((target true (f :: rest)).or (f :: rest).getLast?).map Frame.number =
      some (store.variableScope f.number) := by
  have hcongr : ∀ k ∈ f :: rest, (store.holdsVariables ∘ Frame.number) k =
      decide (k.kind = .function ∨ k.kind = .module) := by
    intro k hk
    obtain ⟨e, he, hkind⟩ := h.entry_of_mem hk
    simp only [Function.comp_apply, holdsVariables, he, hkind]
    cases k.kind <;> rfl
  have hfind : ((f :: rest).map Frame.number).find? store.holdsVariables =
      (target true (f :: rest)).map Frame.number := by
    rw [List.find?_map, List.find?_congr hcongr]
    rfl
  rw [variableScope, h.chain_eq, hfind, List.getLast?_map]
  cases target true (f :: rest) with
  | some g => rfl
  | none => simp [List.getLast?_cons]

theorem Holds.climbs {scopes : Chain} (h : store.Holds scopes) : store.Climbs scopes := by
  induction h with
  | root entry kind parent _ => exact .root entry kind parent
  | inner entry kind parent older _ ih => exact .inner entry kind parent older ih

theorem Holds.mono {later : Store α} (hg : store.Grows later) {scopes : Chain}
    (h : store.Holds scopes) : later.Holds scopes := by
  induction h with
  | root entry kind parent top =>
    obtain ⟨e', h', hk, hp⟩ := hg _ _ entry
    exact .root h' (hk.trans kind) (hp.trans parent) top
  | inner entry kind parent older _ ih =>
    obtain ⟨e', h', hk, hp⟩ := hg _ _ entry
    exact .inner h' (hk.trans kind) (hp.trans parent) older ih

theorem Holds.exists_target {scopes : Chain} (h : store.Holds scopes) (hoisted : Bool) :
    ∃ f ∈ scopes, target hoisted scopes = some f := by
  unfold target
  split
  · -- the module scope at the end of the chain is a target at the latest
    have hmod : ∃ f ∈ scopes, f.kind = .module := by
      induction h with
      | root _ _ _ top => exact ⟨_, List.mem_cons_self, top⟩
      | inner _ _ _ _ _ ih =>
        obtain ⟨f, hf, hk⟩ := ih
        exact ⟨f, List.mem_cons_of_mem _ hf, hk⟩
    obtain ⟨f, hf, hk⟩ := hmod
    have hsome : (scopes.find? fun f => f.kind = .function ∨ f.kind = .module).isSome :=
      List.find?_isSome.2 ⟨f, hf, by simp [hk]⟩
    obtain ⟨g, hg⟩ := Option.isSome_iff_exists.1 hsome
    exact ⟨g, List.mem_of_find?_eq_some hg, hg⟩
  · cases h with
    | root => exact ⟨_, List.mem_cons_self, rfl⟩
    | inner => exact ⟨_, List.mem_cons_self, rfl⟩

end Store

/-! ### Replaying -/

def Use.entry (u : Use) : Occurrence × Nat := (u.occurrence, (u.scopes.head?.map Frame.number).getD 0)

/-- The second record has taken up the facts after the first. -/
structure Record.Follows (r later : Record) (facts : List Fact) : Prop where
  grows : r.store.Grows later.store
  uses : later.uses.reverse = r.uses.reverse ++ (facts.filterMap Fact.use?).map Use.entry
  held : ∀ u ∈ facts.filterMap Fact.use?, later.store.Holds u.scopes
  declarations : later.declarations.reverse =
    r.declarations.reverse ++ (facts.filterMap Fact.declaration?).map Declaration.occurrence
  bindings : ∀ k name, later.store.binding? k name = (r.store.binding? k name).or
    (((facts.filterMap Fact.declaration?).find? (Declares k name ·)).map Declaration.occurrence)

theorem Record.Follows.trans {a b c : Record} {first second : List Fact} (hab : a.Follows b first)
    (hbc : b.Follows c second) : a.Follows c (first ++ second) where
  grows := hab.grows.trans hbc.grows
  uses := by
    rw [hbc.uses, hab.uses, List.filterMap_append, List.map_append, List.append_assoc]
  held := by
    intro u hu
    rw [List.filterMap_append, List.mem_append] at hu
    rcases hu with hu | hu
    · exact (hab.held u hu).mono hbc.grows
    · exact hbc.held u hu
  declarations := by
    rw [hbc.declarations, hab.declarations, List.filterMap_append, List.map_append,
      List.append_assoc]
  bindings := by
    intro k name
    rw [hbc.bindings, hab.bindings, List.filterMap_append, List.find?_append, Option.map_or,
      Option.or_assoc]

theorem use_follows {r : Record} {f : Frame} {rest : Chain} (h : r.store.Holds (f :: rest))
    (o : Occurrence) : r.Follows (r.use f.number o) [.used (f :: rest) o] where
  grows := Store.Grows.refl _
  uses := by simp [Record.use, Fact.use?, Use.entry]
  held := by
    intro u hu
    simp only [Fact.use?, List.filterMap_cons, List.filterMap_nil, List.mem_singleton] at hu
    exact hu ▸ h
  declarations := by simp [Record.use, Fact.declaration?]
  bindings := by simp [Record.use, Fact.declaration?]

theorem bind_follows {r : Record} {f : Frame} {rest : Chain} (h : r.store.Holds (f :: rest))
    (hoisted : Bool) (o : Occurrence) :
    r.Follows (r.bind f.number hoisted o)
      ((target hoisted (f :: rest)).toList.map fun g => .declared g.number o) := by
  obtain ⟨g, hg, ht⟩ := h.exists_target hoisted
  obtain ⟨e, he, -⟩ := h.climbs.entry_of_mem hg
  -- the scope the binding lands in is the target
  have hscope : (if hoisted then r.store.variableScope f.number else f.number) = g.number := by
    cases hoisted with
    | true =>
      have hv := h.climbs.variableScope_eq
      rw [ht] at hv
      exact (Option.some.inj hv).symm
    | false =>
      cases ht
      rfl
  rw [ht, Record.bind, hscope]
  refine ⟨Store.grows_declare _ _ _ _, ?_, ?_, ?_, ?_⟩
  · simp [Fact.use?]
  · simp [Fact.use?]
  · simp [Fact.declaration?]
  · intro k name
    have hd : ([g].map fun g => Fact.declared g.number o).filterMap Fact.declaration? =
        [⟨g.number, o⟩] := rfl
    rw [Store.binding?_declare he, Option.toList_some, hd, map_find?_declares_singleton]

theorem create_follows (r : Record) (kind : Kind) (parent : Option Nat) :
    r.Follows { r with store := (r.store.create kind parent).2 } [] where
  grows := Store.grows_create _ _ _
  uses := by simp
  held := by simp
  declarations := by simp
  bindings := by simp [Store.binding?_create]

theorem holds_create {store : Store Occurrence} {f : Frame} {rest : Chain}
    (h : store.Holds (f :: rest)) (kind : Kind) :
    (store.create kind (some f.number)).2.Holds (⟨store.entries.size, kind⟩ :: f :: rest) := by
  obtain ⟨e, he, -⟩ := h.climbs.entry_of_mem List.mem_cons_self
  have hlt := (Array.getElem?_eq_some_iff.1 he).1
  refine .inner (e := ⟨kind, some f.number, []⟩) ?_ rfl rfl hlt
    (h.mono (Store.grows_create store kind (some f.number)))
  simp [Store.create]

mutual

theorem Item.replay_follows {r : Record} {f : Frame} {rest : Chain} (h : r.store.Holds (f :: rest)) :
    (item : Item) →
      (item.replay f.number r).store.entries.size = r.store.entries.size + item.count ∧
      r.Follows (item.replay f.number r) (item.facts (f :: rest) r.store.entries.size)
  | .use o => by
    rw [Item.replay, Item.facts]
    exact ⟨rfl, use_follows h o⟩
  | .bind hoisted o => by
    rw [Item.replay, Item.facts]
    exact ⟨by simp [Record.bind, Store.declare, Item.count], bind_follows h hoisted o⟩
  | .scope kind items => by
    have hsize : (r.store.create kind (some f.number)).2.entries.size = r.store.entries.size + 1 := by
      simp [Store.create]
    obtain ⟨hs, hf⟩ := replayItems_follows
      (r := { r with store := (r.store.create kind (some f.number)).2 }) (holds_create h kind) items
    rw [Item.replay, Item.facts, Item.count]
    rw [hsize] at hs hf
    exact ⟨hs.trans (by omega), (create_follows r kind (some f.number)).trans hf⟩

theorem replayItems_follows {r : Record} {f : Frame} {rest : Chain} (h : r.store.Holds (f :: rest)) :
    (items : List Item) →
      (replayItems f.number r items).store.entries.size = r.store.entries.size + countAll items ∧
      r.Follows (replayItems f.number r items) (factsOf (f :: rest) r.store.entries.size items)
  | [] => by
    rw [replayItems, factsOf, countAll]
    exact ⟨rfl, Store.Grows.refl _, by simp, by simp, by simp, by simp⟩
  | item :: items => by
    obtain ⟨hs, hf⟩ := item.replay_follows h
    obtain ⟨hs', hf'⟩ := replayItems_follows (h.mono hf.grows) items
    rw [hs] at hs' hf'
    rw [replayItems, factsOf, countAll]
    exact ⟨by rw [hs']; omega, hf.trans hf'⟩

end

def resolution (ds : List Declaration) (scopes : Chain) (name : String) : Option Occurrence :=
  scopes.findSome? fun f => (ds.find? (Declares f.number name ·)).map Declaration.occurrence

theorem resolves_resolution (ds : List Declaration) (scopes : Chain) (name : String) :
    Resolves ds scopes name (resolution ds scopes name) := by
  have hnone : ∀ k, (ds.find? (Declares k name ·)).map Declaration.occurrence = none ↔
      ∀ d ∈ ds, ¬Declares k name d := fun k => Option.map_eq_none_iff.trans find?_declares_eq_none
  cases hr : resolution ds scopes name with
  | none =>
    intro f hf
    exact (hnone _).1 (List.findSome?_eq_none_iff.1 hr f hf)
  | some o =>
    obtain ⟨inner, f, outer, hs, hb, hinner⟩ := List.findSome?_eq_some_iff.1 hr
    obtain ⟨⟨scope, o'⟩, hd, rfl⟩ := Option.map_eq_some_iff.1 hb
    obtain ⟨hdecl, earlier, later, hds, hearlier⟩ := List.find?_eq_some_iff_append.1 hd
    obtain ⟨hscope, hname⟩ := of_decide_eq_true hdecl
    refine ⟨inner, f, outer, earlier, later, hs, fun g hg => (hnone _).1 (hinner g hg), ?_, hname, ?_⟩
    · cases hscope
      exact hds
    · intro d hd'
      simpa using hearlier d hd'

theorem Store.Climbs.lookup?_eq {store : Store Occurrence} {f : Frame} {rest : Chain}
    (h : store.Climbs (f :: rest)) {ds : List Declaration} {name : String}
    (hb : ∀ k, store.binding? k name = (ds.find? (Declares k name ·)).map Declaration.occurrence) :
    store.lookup? f.number name = resolution ds (f :: rest) name := by
  rw [lookup?, h.chain_eq, List.findSome?_map, resolution]
  simp only [Function.comp_def, hb]

theorem Store.Holds.lookup?_eq {store : Store Occurrence} {scopes : Chain} (h : store.Holds scopes)
    {ds : List Declaration} {name : String}
    (hb : ∀ k, store.binding? k name = (ds.find? (Declares k name ·)).map Declaration.occurrence) :
    store.lookup? ((scopes.head?.map Frame.number).getD 0) name = resolution ds scopes name := by
  cases scopes with
  | nil => cases h
  | cons f rest => exact h.climbs.lookup?_eq hb

/-- The place of a use in the text: where it starts, then where it ends. -/
def Use.place (u : Use) : Int ×ₗ Int := toLex (u.occurrence.start, u.occurrence.stop)

theorem before_entry (u v : Use) : before u.entry v.entry = decide (u.place ≤ v.place) := by
  unfold before Use.place Use.entry
  rw [Bool.eq_iff_iff]
  simp [Prod.Lex.toLex_le_toLex]

theorem record_follows (program : Node) :
    (record (outline program)).uses.reverse = (uses program).map Use.entry ∧
    (∀ u ∈ uses program, (record (outline program)).store.Holds u.scopes) ∧
    (record (outline program)).declarations.reverse =
      (declarations program).map Declaration.occurrence ∧
    ∀ k name, (record (outline program)).store.binding? k name =
      ((declarations program).find? (Declares k name ·)).map Declaration.occurrence := by
  have hroot : (Store.create (Store.empty : Store Occurrence) .module none).2.Holds [⟨0, .module⟩] :=
    .root (e := ⟨.module, none, []⟩) rfl rfl rfl rfl
  obtain ⟨-, hf⟩ := replayItems_follows (r := ⟨(Store.empty.create .module none).2, [], []⟩) hroot
    (moduleItems program)
  rw [outline_eq_moduleItems]
  refine ⟨hf.uses, hf.held, hf.declarations, fun k name => ?_⟩
  rw [declarations, moduleFacts]
  have := hf.bindings k name
  rw [Store.binding?_create] at this
  exact this

theorem references_eq (program : Node) :
    (analyze program).references =
      (sortBy (fun u v => decide (u.place ≤ v.place)) (uses program)).map fun u =>
        ⟨u.occurrence, resolution (declarations program) u.scopes u.occurrence.name⟩ := by
  obtain ⟨huses, hheld, -, hbind⟩ := record_follows program
  rw [analyze, huses, sortBy_map before_entry]
  simp only [List.map_map]
  refine List.map_congr_left fun u hu => ?_
  have hu' := hheld u ((sortBy_perm _ _).mem_iff.1 hu)
  exact congrArg (Reference.mk u.occurrence) (hu'.lookup?_eq fun k => hbind k u.occurrence.name)

/-- Every use reads the first declaration of its name in the innermost scope around it that declares
the name anywhere; uses are listed in the order of the text. -/
theorem analyze_resolves (program : Node) :
    (∃ ordered, StablySorted Use.place (uses program) ordered ∧
      List.Forall₂ (fun r u => r.use = u.occurrence ∧
        Resolves (declarations program) u.scopes u.occurrence.name r.declaration)
        (analyze program).references ordered) ∧
    ∀ o, o ∈ (analyze program).declarations ↔ ∃ d ∈ declarations program, d.occurrence = o := by
  refine ⟨⟨_, sortBy_stablySorted Use.place (uses program), ?_⟩, ?_⟩
  · rw [references_eq, List.forall₂_map_left_iff]
    exact List.forall₂_same.2 fun u _ => ⟨rfl, resolves_resolution _ _ _⟩
  · intro o
    rw [analyze, (record_follows program).2.2.1]
    simp

end TierSplit.Scope

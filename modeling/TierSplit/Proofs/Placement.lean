import TierSplit.Marker.Scan
import TierSplit.Proofs.Payload

/-! What a marker must satisfy, said of its ancestors and its tokens: the innermost function around
it is async, it stands directly in the body it belongs to, and its tokens name tiers. A marker is
validated exactly if it satisfies all three, and the diagnostic is that of the first it does not. -/

namespace TierSplit.Marker

open Syntax

def innermostFunction (ancestors : List Site) : Option Site :=
  ancestors.reverse.find? (·.node.isFunction)

def InAsync (l : Lineage) : Prop :=
  ∀ f, innermostFunction l.ancestors = some f → isAsync f.node = true

/-- The parent is the module, or the body of the innermost function. -/
def AtHome (l : Lineage) : Prop :=
  ∃ parent, l.ancestors.getLast? = some parent ∧
    match innermostFunction l.ancestors with
    | none => parent.node.kind = "program"
    | some f => ∃ body, f.child? "body" = some body ∧ parent.path = body.path

def IsTierName (name : String) : Prop := name = "server" ∨ name = "client"

def NamesTiers (l : Lineage) : Prop :=
  ∃ tokens, Payload.Spelled l.site tokens ∧
    ∀ t ∈ tokens, ∀ o, t.occurrence? = some o → IsTierName o.name

structure Accepted (l : Lineage) : Prop where
  inAsync : InAsync l
  atHome : AtHome l
  namesTiers : NamesTiers l

/-- The diagnostic of a marker that is not accepted. Of several tokens that name no tier, the one
that starts first is reported. -/
inductive Rejected (l : Lineage) : Diagnostic → Prop
  | notAsync {f : Site} : innermostFunction l.ancestors = some f → isAsync f.node = false →
      Rejected l (.notAsync l.site.node.start f.node.start)
  | misplaced : InAsync l → ¬ AtHome l → Rejected l (.misplaced l.site.node.start)
  | noTiers : InAsync l → AtHome l → (∀ tokens, ¬ Payload.Spelled l.site tokens) →
      Rejected l (.noTiers l.site.node.start)
  | notIdentifier {kind : String} {offset : Int} : InAsync l → AtHome l →
      (∀ tokens, ¬ Payload.Spelled l.site tokens) → Rejected l (.notIdentifier kind offset)
  | unknownTier {tokens : List Site} {t : Site} {o : Occurrence} : InAsync l → AtHome l →
      Payload.Spelled l.site tokens → t ∈ tokens → t.occurrence? = some o → ¬ IsTierName o.name →
      (∀ u ∈ tokens, ∀ e, u.occurrence? = some e → e.start < o.start → IsTierName e.name) →
      Rejected l (.unknownTier o.name o.start)

/-- The marker made of an accepted site. -/
structure Describes (l : Lineage) (m : Marker) : Prop where
  node : m.node = l.site.path
  start : m.start = l.site.node.start
  stop : m.stop = l.site.node.stop
  function : m.function = (innermostFunction l.ancestors).map Site.path
  tokens : ∃ tokens, Payload.Spelled l.site tokens ∧
    m.identifiers.Perm (tokens.filterMap Site.occurrence?) ∧
    m.identifiers.Pairwise (·.start ≤ ·.start)
  tiers : m.tiers.map Tier.name = m.identifiers.map Occurrence.name

theorem ofName?_eq_some {name : String} {tier : Tier} (h : Tier.ofName? name = some tier) :
    tier.name = name ∧ IsTierName name := by
  unfold Tier.ofName? at h
  split at h
  · next hs => cases h; exact ⟨hs.symm, Or.inl hs⟩
  · split at h
    · next hc => cases h; exact ⟨hc.symm, Or.inr hc⟩
    · cases h

theorem ofName?_eq_none {name : String} (h : Tier.ofName? name = none) : ¬ IsTierName name := by
  unfold Tier.ofName? at h
  rintro (rfl | rfl)
  · cases h
  · cases h

theorem tiersOf_eq_ok {found : List Occurrence} {tiers : List Tier} (h : tiersOf found = .ok tiers) :
    tiers.map Tier.name = found.map Occurrence.name ∧ ∀ o ∈ found, IsTierName o.name := by
  induction found generalizing tiers with
  | nil => cases h; simp
  | cons o rest ih =>
    rw [tiersOf] at h
    split at h
    · next tier ht =>
      cases hr : tiersOf rest with
      | error d => rw [hr] at h; cases h
      | ok later =>
        rw [hr] at h
        cases h
        obtain ⟨hnames, hall⟩ := ih hr
        obtain ⟨hname, htier⟩ := ofName?_eq_some ht
        exact ⟨by rw [List.map_cons, List.map_cons, hnames, hname],
          List.forall_mem_cons.2 ⟨htier, hall⟩⟩
    · cases h

theorem tiersOf_eq_error {found : List Occurrence} {d : Diagnostic} (h : tiersOf found = .error d) :
    ∃ before o after, found = before ++ o :: after ∧ (∀ e ∈ before, IsTierName e.name) ∧
      ¬ IsTierName o.name ∧ d = .unknownTier o.name o.start := by
  induction found with
  | nil => cases h
  | cons o rest ih =>
    rw [tiersOf] at h
    split at h
    · next tier ht =>
      cases hr : tiersOf rest with
      | ok later => rw [hr] at h; cases h
      | error e =>
        rw [hr] at h
        cases h
        obtain ⟨before, b, after, rfl, hbefore, hb, rfl⟩ := ih hr
        refine ⟨o :: before, b, after, rfl, ?_, hb, rfl⟩
        exact List.forall_mem_cons.2 ⟨(ofName?_eq_some ht).2, hbefore⟩
    · next ht => cases h; exact ⟨[], o, rest, rfl, by simp, ofName?_eq_none ht, rfl⟩

theorem atHome_iff (l : Lineage) :
    atHome (innermostFunction l.ancestors) l.ancestors.getLast? = true ↔ AtHome l := by
  unfold AtHome
  cases hp : l.ancestors.getLast? with
  | none => simp [atHome]
  | some parent =>
    cases hf : innermostFunction l.ancestors with
    | none => simp [atHome]
    | some f => cases hb : f.child? "body" <;> simp [atHome, hb]

theorem checkPlacement_eq_ok {l : Lineage}
    (h : checkPlacement (innermostFunction l.ancestors) l.ancestors.getLast? l.site = .ok ()) :
    InAsync l ∧ AtHome l := by
  rw [← atHome_iff]
  unfold InAsync
  unfold checkPlacement at h
  cases hf : innermostFunction l.ancestors with
  | none =>
    simp only [hf] at h
    split at h
    · next hhome => exact ⟨nofun, hhome⟩
    · cases h
  | some f =>
    simp only [hf] at h
    split at h
    · next hasync =>
      split at h
      · next hhome => exact ⟨fun g hg => by cases hg; exact hasync, hhome⟩
      · cases h
    · cases h

theorem checkPlacement_eq_error {l : Lineage} {d : Diagnostic}
    (h : checkPlacement (innermostFunction l.ancestors) l.ancestors.getLast? l.site = .error d) :
    Rejected l d := by
  have hhome := atHome_iff l
  unfold checkPlacement at h
  cases hf : innermostFunction l.ancestors with
  | none =>
    simp only [hf] at h hhome
    split at h
    · cases h
    · next hn =>
      cases h
      exact .misplaced (fun g hg => by rw [hf] at hg; cases hg) fun hh => hn (hhome.2 hh)
  | some f =>
    simp only [hf] at h hhome
    split at h
    · next hasync =>
      split at h
      · cases h
      · next hn =>
        cases h
        refine .misplaced (fun g hg => ?_) fun hh => hn (hhome.2 hh)
        rw [hf] at hg
        cases hg
        exact hasync
    · next hasync => cases h; exact .notAsync hf (Bool.not_eq_true _ ▸ hasync)

def check (l : Lineage) : Except Diagnostic Marker :=
  validate (innermostFunction l.ancestors) l.ancestors.getLast? l.site

theorem check_eq_ok {l : Lineage} {m : Marker} (h : check l = .ok m) : Accepted l ∧ Describes l m := by
  unfold check validate at h
  cases hp : checkPlacement (innermostFunction l.ancestors) l.ancestors.getLast? l.site with
  | error d => rw [hp] at h; cases h
  | ok u =>
    obtain ⟨hasync, hhome⟩ := checkPlacement_eq_ok hp
    cases hi : Payload.identifiers l.site with
    | error d => rw [hp, hi] at h; cases h
    | ok found =>
      cases ht : tiersOf found with
      | error d => simp only [hp, hi, ht, bind, Except.bind] at h; cases h
      | ok tiers =>
        simp only [hp, hi, ht, bind, Except.bind, pure, Except.pure] at h
        cases h
        obtain ⟨tokens, hs, hperm, hord⟩ := Payload.identifiers_eq_ok hi
        obtain ⟨hnames, hall⟩ := tiersOf_eq_ok ht
        refine ⟨⟨hasync, hhome, tokens, hs, fun t hmem o ho => hall o ?_⟩,
          ⟨rfl, rfl, rfl, rfl, ⟨tokens, hs, hperm, hord⟩, hnames⟩⟩
        exact hperm.mem_iff.2 (List.mem_filterMap.2 ⟨t, hmem, ho⟩)

theorem check_eq_error {l : Lineage} {d : Diagnostic} (h : check l = .error d) : Rejected l d := by
  unfold check validate at h
  cases hp : checkPlacement (innermostFunction l.ancestors) l.ancestors.getLast? l.site with
  | error e => rw [hp] at h; cases h; exact checkPlacement_eq_error hp
  | ok u =>
    obtain ⟨hasync, hhome⟩ := checkPlacement_eq_ok hp
    cases hi : Payload.identifiers l.site with
    | error e =>
      rw [hp, hi] at h
      cases h
      obtain ⟨hs, rfl | ⟨kind, offset, rfl⟩⟩ := Payload.identifiers_eq_error hi
      · exact .noTiers hasync hhome hs
      · exact .notIdentifier hasync hhome hs
    | ok found =>
      cases ht : tiersOf found with
      | ok tiers => simp only [hp, hi, ht, bind, Except.bind] at h; cases h
      | error e =>
        simp only [hp, hi, ht, bind, Except.bind] at h
        cases h
        obtain ⟨tokens, hs, hperm, hord⟩ := Payload.identifiers_eq_ok hi
        obtain ⟨before, o, after, rfl, hbefore, ho, rfl⟩ := tiersOf_eq_error ht
        obtain ⟨t, hmem, hto⟩ := List.mem_filterMap.1 (hperm.mem_iff.1 (by simp : o ∈ _))
        refine .unknownTier hasync hhome hs hmem hto ho fun u hu e he hlt => ?_
        -- what starts before `o` stands before it among the identifiers
        have hin := hperm.mem_iff.2 (List.mem_filterMap.2 ⟨u, hu, he⟩)
        obtain ⟨-, hafter, -⟩ := List.pairwise_append.1 hord
        rcases List.mem_append.1 hin with hb | ha
        · exact hbefore e hb
        · rcases List.mem_cons.1 ha with rfl | ha
          · omega
          · have := (List.pairwise_cons.1 hafter).1 e ha
            omega

theorem Rejected.not_accepted {l : Lineage} {d : Diagnostic} (h : Rejected l d) : ¬ Accepted l := by
  intro ha
  cases h with
  | notAsync hf hasync => exact absurd (ha.inAsync _ hf) (by simp [hasync])
  | misplaced _ hhome => exact hhome ha.atHome
  | noTiers _ _ hs => obtain ⟨tokens, ht, -⟩ := ha.namesTiers; exact hs tokens ht
  | notIdentifier _ _ hs => obtain ⟨tokens, ht, -⟩ := ha.namesTiers; exact hs tokens ht
  | unknownTier _ _ hs hmem hto ho =>
    obtain ⟨tokens, ht, hall⟩ := ha.namesTiers
    obtain rfl := hs.unique ht
    exact ho (hall _ hmem _ hto)

/-- The class of the diagnostic tells which condition is the first to fail. -/
theorem Rejected.category {l : Lineage} {d : Diagnostic} (h : Rejected l d) :
    (¬ InAsync l ∧ d.report.category = .placement) ∨
    (InAsync l ∧ ¬ AtHome l ∧ d.report.category = .structural) ∨
    (InAsync l ∧ AtHome l ∧ ¬ NamesTiers l ∧ d.report.category = .shape) := by
  have hn := h.not_accepted
  cases h with
  | notAsync hf hasync => exact Or.inl ⟨fun ha => by simp [ha _ hf] at hasync, rfl⟩
  | misplaced ha hh => exact Or.inr (Or.inl ⟨ha, hh, rfl⟩)
  | noTiers ha hh => exact Or.inr (Or.inr ⟨ha, hh, fun ht => hn ⟨ha, hh, ht⟩, rfl⟩)
  | notIdentifier ha hh => exact Or.inr (Or.inr ⟨ha, hh, fun ht => hn ⟨ha, hh, ht⟩, rfl⟩)
  | unknownTier ha hh => exact Or.inr (Or.inr ⟨ha, hh, fun ht => hn ⟨ha, hh, ht⟩, rfl⟩)

end TierSplit.Marker

import TierSplit.Marker.Payload
import TierSplit.Proofs.Ancestry
import TierSplit.Proofs.Fallible
import TierSplit.Proofs.Sorted
import Mathlib.Data.List.Perm.Basic

/-! The payload of a marker read as a list of leaves: single parentheses are dropped and sequences
are expanded, left to right. Reading succeeds exactly if all leaves are identifiers, and then yields
these leaves by start offset; it fails with a leaf that is no identifier. -/

namespace TierSplit.Payload

open Syntax

mutual

/-- The leaves of a payload, left to right. -/
def leafSites (path : Path) : Node → List Site
  | ⟨role, kind, start, stop, field, keywords, children⟩ =>
    if (kind = "parenthesized_expression" ∧ children.length = 1) ∨ kind = "sequence_expression" then
      leafSitesFrom path 0 children
    else [⟨path, ⟨role, kind, start, stop, field, keywords, children⟩⟩]

def leafSitesFrom (path : Path) (i : Nat) : List Node → List Site
  | [] => []
  | c :: rest => leafSites (i :: path) c ++ leafSitesFrom path (i + 1) rest

end

theorem leafSitesFrom_eq (path : Path) (i : Nat) (ns : List Node) :
    leafSitesFrom path i ns = (Site.childrenFrom path i ns).flatMap fun t => leafSites t.path t.node := by
  induction ns generalizing i with
  | nil => rfl
  | cons c rest ih => rw [leafSitesFrom, ih, Site.childrenFrom, List.flatMap_cons]

theorem leafSites_eq (path : Path) (n : Node) :
    leafSites path n =
      if (n.kind = "parenthesized_expression" ∧ n.children.length = 1) ∨ n.kind = "sequence_expression"
      then (Site.mk path n).children.flatMap fun t => leafSites t.path t.node
      else [⟨path, n⟩] := by
  cases n
  rw [leafSites, leafSitesFrom_eq]
  rfl

/-- A leaf that may stand in a sequence of tier names. -/
def IsToken (t : Site) : Prop := t.node.isIdentifier = true ∧ t.node.kind = "identifier"

/-- A node that parentheses would not be dropped from. -/
def Plain (n : Node) : Prop := ¬ (n.kind = "parenthesized_expression" ∧ n.children.length = 1)

theorem unwrap_plain (n : Node) (path : Path) : Plain (unwrap path n).node := by
  induction n using Node.childInduction generalizing path with
  | step n ih =>
    obtain ⟨role, kind, start, stop, field, keywords, children⟩ := n
    rw [unwrap]
    split
    · next h =>
      obtain ⟨c, rfl⟩ := List.length_eq_one_iff.1 h.2
      exact ih c List.mem_cons_self _
    · next h => exact h

theorem leafSites_unwrap (n : Node) (path : Path) :
    leafSites (unwrap path n).path (unwrap path n).node = leafSites path n := by
  induction n using Node.childInduction generalizing path with
  | step n ih =>
    obtain ⟨role, kind, start, stop, field, keywords, children⟩ := n
    rw [unwrap]
    split
    · next h =>
      obtain ⟨c, rfl⟩ := List.length_eq_one_iff.1 h.2
      rw [unwrapOnly, ih c List.mem_cons_self, leafSites, if_pos (.inl h), leafSitesFrom,
        leafSitesFrom, List.append_nil]
    · rfl

def below (s : Site) : List Site := s.children.flatMap fun t => leafSites t.path t.node

theorem leafSites_sequence {s : Site} (hk : s.node.kind = "sequence_expression") :
    leafSites s.path s.node = below s := by
  rw [leafSites_eq, if_pos (.inr hk)]
  rfl

theorem leafSites_plain {s : Site} (hp : Plain s.node) (hk : s.node.kind ≠ "sequence_expression") :
    leafSites s.path s.node = [s] := by
  rw [leafSites_eq, if_neg (not_or.2 ⟨hp, hk⟩)]

/-! ### The sequences that wait -/

theorem token?_eq_some {t : Site} {o : Occurrence} (h : token? t = some o) :
    IsToken t ∧ t.occurrence? = some o := by
  unfold token? at h
  split at h
  · next hk => exact ⟨⟨(Site.eq_of_occurrence? h).1, hk⟩, h⟩
  · cases h

theorem token?_eq_none {t : Site} (h : token? t = none) : ¬ IsToken t := by
  rintro ⟨hid, hk⟩
  obtain ⟨o, ho⟩ := Site.exists_occurrence? hid
  rw [token?, if_pos hk, ho] at h
  cases h

namespace Expansion

/-- The leaves of the sequences that wait. -/
def outstanding (e : Expansion) : List Site := e.waiting.flatMap below

/-- From one state of an expansion to a later one, at which the given leaves have come up: some leaves
are met, all of them tokens, and the others are outstanding. -/
def Leads (e : Expansion) (given : List Site) (e' : Expansion) : Prop :=
  ∃ met : List Site, (∀ u ∈ met, IsToken u) ∧ e'.found = e.found ++ met.filterMap Site.occurrence? ∧
    (met ++ e'.outstanding).Perm (given ++ e.outstanding)

theorem Leads.refl (e : Expansion) : Leads e [] e := ⟨[], by simp, by simp, .refl _⟩

theorem Leads.trans {e e' e'' : Expansion} {a b : List Site} (h : Leads e a e')
    (h' : Leads e' b e'') : Leads e (a ++ b) e'' := by
  obtain ⟨met, htokens, hfound, hperm⟩ := h
  obtain ⟨met', htokens', hfound', hperm'⟩ := h'
  refine ⟨met ++ met', ?_, ?_, ?_⟩
  · intro u hu
    rcases List.mem_append.1 hu with hu | hu
    · exact htokens u hu
    · exact htokens' u hu
  · rw [hfound', hfound, List.filterMap_append, List.append_assoc]
  · calc met ++ met' ++ e''.outstanding
      _ = met ++ (met' ++ e''.outstanding) := List.append_assoc ..
      List.Perm _ (met ++ (b ++ e'.outstanding)) := hperm'.append_left met
      List.Perm _ (b ++ (met ++ e'.outstanding)) := List.perm_append_comm_assoc ..
      List.Perm _ (b ++ (a ++ e.outstanding)) := hperm.append_left b
      List.Perm _ (a ++ (b ++ e.outstanding)) := List.perm_append_comm_assoc ..
      _ = a ++ b ++ e.outstanding := (List.append_assoc ..).symm

theorem take_leads {e e' : Expansion} {t : Site} (h : e.take t = .ok e') :
    Leads e (leafSites t.path t.node) e' := by
  rw [← leafSites_unwrap]
  simp only [take] at h
  split at h
  · next hk =>
    cases h
    rw [leafSites_sequence hk]
    exact ⟨[], by simp, by simp, .refl _⟩
  · next hk =>
    rw [leafSites_plain (unwrap_plain t.node t.path) hk]
    split at h
    · next o ho =>
      cases h
      obtain ⟨htoken, hoccurrence⟩ := token?_eq_some ho
      exact ⟨[unwrap t.path t.node], by simpa using htoken, by simp [hoccurrence], .refl _⟩
    · cases h

theorem take_eq_error {e : Expansion} {t : Site} {d : Diagnostic} (h : e.take t = .error d) :
    ∃ u ∈ leafSites t.path t.node, ¬ IsToken u ∧ d = .notIdentifier u.node.kind u.node.start := by
  rw [← leafSites_unwrap]
  simp only [take] at h
  split at h
  · cases h
  · next hk =>
    split at h
    · cases h
    · next hnone =>
      cases h
      rw [leafSites_plain (unwrap_plain t.node t.path) hk]
      exact ⟨_, List.mem_singleton_self _, token?_eq_none hnone, rfl⟩

theorem takeAll_leads {e e' : Expansion} {ts : List Site} (h : ts.foldlM take e = .ok e') :
    Leads e (ts.flatMap fun t => leafSites t.path t.node) e' := by
  induction ts generalizing e with
  | nil =>
    cases h
    exact .refl _
  | cons t rest ih =>
    rw [List.foldlM_cons] at h
    obtain ⟨next, hnext, hrest⟩ := bind_eq_ok_iff.1 h
    exact (take_leads hnext).trans (ih hrest)

theorem takeAll_eq_error {e : Expansion} {ts : List Site} {d : Diagnostic}
    (h : ts.foldlM take e = .error d) :
    ∃ u ∈ ts.flatMap fun t => leafSites t.path t.node,
      ¬ IsToken u ∧ d = .notIdentifier u.node.kind u.node.start := by
  induction ts generalizing e with
  | nil => cases h
  | cons t rest ih =>
    rw [List.foldlM_cons] at h
    rw [List.flatMap_cons]
    cases ht : e.take t with
    | error d' =>
      rw [ht] at h
      cases h
      obtain ⟨u, hu, hbad⟩ := take_eq_error ht
      exact ⟨u, List.mem_append_left _ hu, hbad⟩
    | ok next =>
      rw [ht] at h
      obtain ⟨u, hu, hbad⟩ := ih h
      exact ⟨u, List.mem_append_right _ hu, hbad⟩

/-- Whatever the order in which sequences and items are taken, the leaves are those of the sequence. -/
theorem reversed_perm (s : Site) :
    (s.children.reverse.flatMap fun t => leafSites t.path t.node).Perm (below s) :=
  (List.reverse_perm _).flatMap_right _

end Expansion

open Expansion

theorem expand_eq_ok {e : Expansion} {found : List Occurrence} (h : expand e = .ok found) :
    ∃ met : List Site, (∀ u ∈ met, IsToken u) ∧ found = e.found ++ met.filterMap Site.occurrence? ∧
      met.Perm e.outstanding := by
  fun_induction expand e with
  | case1 found' =>
    cases h
    exact ⟨[], by simp, by simp, .refl _⟩
  | case2 s rest found' e' hall ih =>
    obtain ⟨met, htokens, hfound, hperm⟩ := takeAll_leads hall
    obtain ⟨met', htokens', rfl, hperm'⟩ := ih h
    have hlast : Leads e' [] ⟨[], e'.found ++ met'.filterMap Site.occurrence?⟩ :=
      ⟨met', htokens', rfl, by simpa [outstanding] using hperm'⟩
    obtain ⟨all, hall, hsame, hleaves⟩ := (takeAll_leads hall).trans hlast
    refine ⟨all, hall, hsame, ?_⟩
    rw [outstanding, List.flatMap_cons]
    refine List.Perm.trans ?_ ((reversed_perm s).append_right _)
    simpa [outstanding] using hleaves
  | case3 s rest found' d hall => cases h

theorem expand_eq_error {e : Expansion} {d : Diagnostic} (h : expand e = .error d) :
    ∃ u ∈ e.outstanding, ¬ IsToken u ∧ d = .notIdentifier u.node.kind u.node.start := by
  fun_induction expand e with
  | case1 found => cases h
  | case2 s rest found e' hall ih =>
    obtain ⟨u, hu, hbad⟩ := ih h
    obtain ⟨met, -, -, hperm⟩ := takeAll_leads hall
    refine ⟨u, ?_, hbad⟩
    rw [outstanding, List.flatMap_cons]
    exact ((reversed_perm s).append_right _).mem_iff.1
      (hperm.mem_iff.1 (List.mem_append_right met hu))
  | case3 s rest found d' hall =>
    cases h
    obtain ⟨u, hu, hbad⟩ := takeAll_eq_error hall
    refine ⟨u, ?_, hbad⟩
    rw [outstanding, List.flatMap_cons]
    exact List.mem_append_left _ ((reversed_perm s).mem_iff.1 hu)

/-! ### A payload out of its parentheses -/

/-- The tokens of a payload out of its parentheses: it is an identifier, or a sequence of which every
leaf is one. -/
def SpelledBy (payload : Site) (tokens : List Site) : Prop :=
  (payload.node.isIdentifier = true ∧ tokens = [payload]) ∨
    (payload.node.isIdentifier = false ∧ payload.node.kind = "sequence_expression" ∧
      tokens = leafSites payload.path payload.node ∧ ∀ t ∈ tokens, IsToken t)

/-- What reading gives for a payload out of its parentheses. -/
def read (payload : Site) : Except Diagnostic (List Occurrence) :=
  match payload.occurrence? with
  | some o => .ok [o]
  | none =>
    if payload.node.kind = "sequence_expression" then
      (expand ⟨[payload], []⟩).map (sortBy fun a b => a.start ≤ b.start)
    else .error (.notIdentifier payload.node.kind payload.node.start)

theorem isIdentifier_eq_false {t : Site} (h : t.occurrence? = none) :
    t.node.isIdentifier = false := by
  by_contra hne
  obtain ⟨o, ho⟩ := Site.exists_occurrence? (Bool.not_eq_false _ ▸ hne)
  rw [h] at ho
  cases ho

theorem read_eq_ok {payload : Site} {found : List Occurrence} (h : read payload = .ok found) :
    ∃ tokens, SpelledBy payload tokens ∧ found.Perm (tokens.filterMap Site.occurrence?) ∧
      found.Pairwise (·.start ≤ ·.start) := by
  unfold read at h
  split at h
  · next o ho =>
    cases h
    refine ⟨[payload], .inl ⟨(Site.eq_of_occurrence? ho).1, rfl⟩, ?_, List.pairwise_singleton _ _⟩
    simp [ho]
  · next ho =>
    split at h
    · next hk =>
      obtain ⟨raw, hraw, rfl⟩ := map_eq_ok_iff.1 h
      obtain ⟨met, htokens, rfl, hperm⟩ := expand_eq_ok hraw
      rw [outstanding, List.flatMap_singleton, ← leafSites_sequence hk] at hperm
      have hsorted := sortBy_stablySorted Occurrence.start
        (([] : List Occurrence) ++ met.filterMap Site.occurrence?)
      refine ⟨leafSites payload.path payload.node,
        .inr ⟨isIdentifier_eq_false ho, hk, rfl, fun t ht => htokens t (hperm.mem_iff.2 ht)⟩,
        ?_, hsorted.ordered⟩
      exact hsorted.perm.trans (hperm.filterMap _)
    · cases h

theorem read_eq_error {payload : Site} {d : Diagnostic} (h : read payload = .error d) :
    (∀ tokens, ¬ SpelledBy payload tokens) ∧ ∃ kind offset, d = .notIdentifier kind offset := by
  unfold read at h
  split at h
  · cases h
  · next ho =>
    have hid := isIdentifier_eq_false ho
    split at h
    · next hk =>
      obtain ⟨u, hu, hbad, rfl⟩ := expand_eq_error (map_eq_error_iff.1 h)
      rw [outstanding, List.flatMap_singleton, ← leafSites_sequence hk] at hu
      refine ⟨?_, _, _, rfl⟩
      rintro tokens (⟨hid', -⟩ | ⟨-, -, rfl, htok⟩)
      · rw [hid] at hid'; cases hid'
      · exact hbad (htok u hu)
    · next hk =>
      cases h
      refine ⟨?_, _, _, rfl⟩
      rintro tokens (⟨hid', -⟩ | ⟨-, hseq, -⟩)
      · rw [hid] at hid'; cases hid'
      · exact hk hseq

/-- The single item of a marker's body. -/
def HasPayload (marker body : Site) (item : Node) : Prop :=
  marker.child? "body" = some body ∧ body.node.kind = "expression_statement" ∧
    body.node.children = [item]

/-- The tokens of a marker are those of the one item in its body. -/
def Spelled (marker : Site) (tokens : List Site) : Prop :=
  ∃ body item, HasPayload marker body item ∧ SpelledBy (unwrap (0 :: body.path) item) tokens

theorem SpelledBy.unique {payload : Site} {tokens tokens' : List Site} (h : SpelledBy payload tokens)
    (h' : SpelledBy payload tokens') : tokens = tokens' := by
  rcases h with ⟨hid, rfl⟩ | ⟨hid, -, rfl, -⟩ <;> rcases h' with ⟨hid', rfl⟩ | ⟨hid', -, rfl, -⟩
  · rfl
  · rw [hid] at hid'; cases hid'
  · rw [hid] at hid'; cases hid'
  · rfl

theorem HasPayload.unique {marker body body' : Site} {item item' : Node}
    (h : HasPayload marker body item) (h' : HasPayload marker body' item') :
    body = body' ∧ item = item' := by
  obtain ⟨hb, -, hi⟩ := h
  obtain ⟨hb', -, hi'⟩ := h'
  rw [hb] at hb'
  cases hb'
  rw [hi] at hi'
  cases hi'
  exact ⟨rfl, rfl⟩

theorem Spelled.unique {marker : Site} {tokens tokens' : List Site} (h : Spelled marker tokens)
    (h' : Spelled marker tokens') : tokens = tokens' := by
  obtain ⟨body, item, hp, hs⟩ := h
  obtain ⟨body', item', hp', hs'⟩ := h'
  obtain ⟨rfl, rfl⟩ := hp.unique hp'
  exact hs.unique hs'

theorem Spelled.isIdentifier {marker : Site} {tokens : List Site} (h : Spelled marker tokens)
    {t : Site} (ht : t ∈ tokens) : t.node.isIdentifier = true := by
  obtain ⟨body, item, -, ⟨hid, rfl⟩ | ⟨-, -, -, htok⟩⟩ := h
  · rw [List.mem_singleton.1 ht]
    exact hid
  · exact (htok t ht).1

theorem identifiers_of_hasPayload {marker body : Site} {item : Node}
    (h : HasPayload marker body item) :
    identifiers marker = read (unwrap (0 :: body.path) item) := by
  obtain ⟨path, role, kind, start, stop, field, keywords, children⟩ := body
  obtain ⟨hb, hk, hi⟩ := h
  simp only at hk hi
  subst hk hi
  rw [identifiers, hb]
  rfl

theorem identifiers_of_not_hasPayload {marker : Site} (h : ¬ ∃ body item, HasPayload marker body item) :
    identifiers marker = .error (.noTiers marker.node.start) := by
  unfold identifiers
  split
  · next hb => exact absurd ⟨_, _, hb, rfl, rfl⟩ h
  · rfl

theorem identifiers_eq_ok {marker : Site} {found : List Occurrence}
    (h : identifiers marker = .ok found) :
    ∃ tokens, Spelled marker tokens ∧ found.Perm (tokens.filterMap Site.occurrence?) ∧
      found.Pairwise (·.start ≤ ·.start) := by
  by_cases hex : ∃ body item, HasPayload marker body item
  · obtain ⟨body, item, hp⟩ := hex
    rw [identifiers_of_hasPayload hp] at h
    obtain ⟨tokens, hs, hperm, hord⟩ := read_eq_ok h
    exact ⟨tokens, ⟨body, item, hp, hs⟩, hperm, hord⟩
  · rw [identifiers_of_not_hasPayload hex] at h
    cases h

theorem identifiers_eq_error {marker : Site} {d : Diagnostic} (h : identifiers marker = .error d) :
    (∀ tokens, ¬ Spelled marker tokens) ∧
      (d = .noTiers marker.node.start ∨ ∃ kind offset, d = .notIdentifier kind offset) := by
  by_cases hex : ∃ body item, HasPayload marker body item
  · obtain ⟨body, item, hp⟩ := hex
    rw [identifiers_of_hasPayload hp] at h
    obtain ⟨hs, hd⟩ := read_eq_error h
    refine ⟨?_, .inr hd⟩
    rintro tokens ⟨body', item', hp', hs'⟩
    obtain ⟨rfl, rfl⟩ := hp.unique hp'
    exact hs tokens hs'
  · rw [identifiers_of_not_hasPayload hex] at h
    cases h
    refine ⟨?_, .inl rfl⟩
    rintro tokens ⟨body, item, hp, -⟩
    exact hex ⟨body, item, hp⟩

end TierSplit.Payload

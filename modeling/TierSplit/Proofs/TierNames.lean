import TierSplit.Proofs.Discovery

/-! What a payload spells. A payload is read exactly if it is an identifier, or a sequence of which every
leaf is one; any other is a diagnostic about its shape. Where the leaves start one behind the other, what
is read are the leaves, left to right, however sequences and parentheses nest. Where no sequence is empty,
at least one leaf is read, so a marker that a scan finds has at least one tier. -/

namespace TierSplit.Payload

open Syntax Marker

/-- The leaves of a payload out of its parentheses. An identifier is its own only leaf. -/
def leaves (payload : Site) : List Site :=
  if payload.node.isIdentifier then [payload] else leafSites payload.path payload.node

/-- An identifier, or a sequence of tokens. -/
def Spells (payload : Site) : Prop :=
  payload.node.isIdentifier = true ∨
    (payload.node.kind = "sequence_expression" ∧ ∀ t ∈ leaves payload, IsToken t)

/-- A sequence with at least one item. -/
def Filled (n : Node) : Prop := n.kind = "sequence_expression" → n.children ≠ []

instance : DecidablePred Filled := fun _ => inferInstanceAs (Decidable (_ → _))

theorem leaves_eq_leafSites {item : Node} {path : Path}
    (h : (unwrap path item).node.isIdentifier = true →
      (unwrap path item).node.kind ≠ "sequence_expression") :
    leaves (unwrap path item) = leafSites path item := by
  rw [leaves]
  split
  · next hid => rw [← leafSites_unwrap, leafSites_plain (unwrap_plain item path) (h hid)]
  · exact leafSites_unwrap item path

theorem SpelledBy.eq_leaves {payload : Site} {tokens : List Site} (h : SpelledBy payload tokens) :
    tokens = leaves payload := by
  rcases h with ⟨hid, rfl⟩ | ⟨hid, -, rfl, -⟩
  · rw [leaves, if_pos hid]
  · rw [leaves, hid, if_neg Bool.false_ne_true]

theorem spelledBy_iff {payload : Site} :
    (∃ tokens, SpelledBy payload tokens) ↔ Spells payload := by
  constructor
  · rintro ⟨tokens, h⟩
    have hleaves := h.eq_leaves
    rcases h with ⟨hid, -⟩ | ⟨-, hk, -, htokens⟩
    · exact .inl hid
    · exact .inr ⟨hk, hleaves ▸ htokens⟩
  · intro h
    cases hid : payload.node.isIdentifier with
    | true => exact ⟨[payload], .inl ⟨hid, rfl⟩⟩
    | false =>
      obtain ⟨hk, htokens⟩ := h.resolve_left (by simp [hid])
      rw [leaves, hid, if_neg Bool.false_ne_true] at htokens
      exact ⟨_, .inr ⟨hid, hk, rfl, htokens⟩⟩

/-! ### No leaf is lost -/

theorem leafSites_ne_nil {n : Node} (h : n.Everywhere Filled) (path : Path) :
    leafSites path n ≠ [] := by
  induction n using Node.childInduction generalizing path with
  | step n ih =>
    rw [leafSites_eq]
    split
    · next hk =>
      have hchildren : n.children ≠ [] := by
        rcases hk with ⟨-, hone⟩ | hseq
        · exact List.ne_nil_of_length_pos (by omega)
        · exact h.here hseq
      obtain ⟨c, rest, hc⟩ := List.exists_cons_of_ne_nil hchildren
      have hfirst : c ∈ n.children := hc ▸ List.mem_cons_self
      simp only [Site.children, hc, Site.childrenFrom, List.flatMap_cons]
      exact List.append_ne_nil_of_left_ne_nil (ih c hfirst (h.child hfirst) _) _
    · exact List.cons_ne_nil _ _

theorem Spelled.ne_nil {marker : Site} {tokens : List Site} (h : Spelled marker tokens)
    (hf : marker.node.Everywhere Filled) : tokens ≠ [] := by
  obtain ⟨body, item, ⟨hbody, -, hitem⟩, hs⟩ := h
  rcases hs with ⟨-, rfl⟩ | ⟨-, -, rfl, -⟩
  · exact List.cons_ne_nil _ _
  · rw [leafSites_unwrap]
    apply leafSites_ne_nil
    exact (hf.child (Site.node_mem_of_child? hbody)).child (hitem ▸ List.mem_cons_self)

theorem Spelled.occurrences {marker : Site} {tokens : List Site} (h : Spelled marker tokens) :
    (tokens.filterMap Site.occurrence?).map some = tokens.map Site.occurrence? := by
  have hid : ∀ t ∈ tokens, t.node.isIdentifier = true := fun t ht => h.isIdentifier ht
  clear h
  induction tokens with
  | nil => rfl
  | cons t rest ih =>
    obtain ⟨o, ho⟩ := Site.exists_occurrence? (hid t List.mem_cons_self)
    rw [List.filterMap_cons_some ho, List.map_cons, List.map_cons, ho,
      ih fun u hu => hid u (List.mem_cons_of_mem _ hu)]

theorem Spelled.found_ne_nil {marker : Site} {tokens : List Site} (h : Spelled marker tokens)
    (hf : marker.node.Everywhere Filled) {found : List Occurrence}
    (hp : found.Perm (tokens.filterMap Site.occurrence?)) : found ≠ [] := by
  rw [← List.length_pos_iff, hp.length_eq, ← List.length_map some, h.occurrences, List.length_map,
    List.length_pos_iff]
  exact h.ne_nil hf

/-- Leaves that start one behind the other are read left to right. -/
theorem found_eq_tokens {marker : Site} {tokens : List Site} (h : Spelled marker tokens)
    {found : List Occurrence} (hp : found.Perm (tokens.filterMap Site.occurrence?))
    (hs : found.Pairwise (·.start ≤ ·.start))
    (hstrict : tokens.Pairwise fun t u => t.node.start < u.node.start) :
    found.map some = tokens.map Site.occurrence? := by
  rw [← h.occurrences]
  congr 1
  apply eq_of_perm_of_strict hp hs
  rw [List.pairwise_filterMap]
  refine hstrict.imp fun {t u} hlt o ho e he => ?_
  rw [(Site.eq_of_occurrence? ho).2.2.1, (Site.eq_of_occurrence? he).2.2.1]
  exact hlt

/-- A payload is read exactly if it spells tiers. What is read are its leaves, in order if they start in
order, and at least one of them unless a sequence is empty; a marker found by a scan has their tiers. -/
theorem payloads_read_exactly :
    (∀ marker : Site,
      ((∃ found, identifiers marker = .ok found) ↔
        ∃ body item, HasPayload marker body item ∧ Spells (unwrap (0 :: body.path) item)) ∧
      (∀ d, identifiers marker = .error d → d.report.category = .shape) ∧
      (∀ body item found, HasPayload marker body item → identifiers marker = .ok found →
        (((unwrap (0 :: body.path) item).node.isIdentifier = true →
            (unwrap (0 :: body.path) item).node.kind ≠ "sequence_expression") →
          leaves (unwrap (0 :: body.path) item) = leafSites (0 :: body.path) item) ∧
        ((leaves (unwrap (0 :: body.path) item)).Pairwise (fun t u => t.node.start < u.node.start) →
          found.map some = (leaves (unwrap (0 :: body.path) item)).map Site.occurrence?)) ∧
      (∀ found, identifiers marker = .ok found → marker.node.Everywhere Filled → found ≠ [])) ∧
    ∀ label program, program.Everywhere Filled → ∀ m ∈ (scan label program).found,
      m.tiers ≠ [] ∧ m.tiers.map Tier.name = m.identifiers.map Occurrence.name ∧
        m.identifiers.Pairwise (·.start ≤ ·.start) := by
  refine ⟨fun marker => ⟨⟨?_, ?_⟩, ?_, ?_, ?_⟩, ?_⟩
  · rintro ⟨found, h⟩
    obtain ⟨tokens, ⟨body, item, hp, hs⟩, -⟩ := identifiers_eq_ok h
    exact ⟨body, item, hp, spelledBy_iff.1 ⟨tokens, hs⟩⟩
  · rintro ⟨body, item, hp, hs⟩
    obtain ⟨tokens, htokens⟩ := spelledBy_iff.2 hs
    cases h : identifiers marker with
    | ok found => exact ⟨found, rfl⟩
    | error d => exact absurd ⟨body, item, hp, htokens⟩ ((identifiers_eq_error h).1 tokens)
  · intro d h
    obtain ⟨-, rfl | ⟨kind, offset, rfl⟩⟩ := identifiers_eq_error h <;> rfl
  · intro body item found hp h
    refine ⟨leaves_eq_leafSites, fun hstrict => ?_⟩
    obtain ⟨tokens, hspelled, hperm, hsorted⟩ := identifiers_eq_ok h
    have hsame : tokens = leaves (unwrap (0 :: body.path) item) := by
      obtain ⟨body', item', hp', hs⟩ := hspelled
      obtain ⟨rfl, rfl⟩ := hp.unique hp'
      exact hs.eq_leaves
    rw [← hsame] at hstrict ⊢
    exact found_eq_tokens hspelled hperm hsorted hstrict
  · intro found h hf
    obtain ⟨tokens, hspelled, hperm, -⟩ := identifiers_eq_ok h
    exact hspelled.found_ne_nil hf hperm
  · intro label program hf m hm
    obtain ⟨l, hl, hlm⟩ := describes_of_mem_found hm
    obtain ⟨tokens, hspelled, hperm, hsorted⟩ := hlm.tokens
    have hnonempty := hspelled.found_ne_nil (hf.site (Lineage.site_mem (mem_topmost hl).1)) hperm
    refine ⟨?_, hlm.tiers, hsorted⟩
    rw [← List.length_pos_iff, ← List.length_map Tier.name, hlm.tiers, List.length_map,
      List.length_pos_iff]
    exact hnonempty

end TierSplit.Payload

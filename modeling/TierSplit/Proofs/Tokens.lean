import TierSplit.Proofs.Mentions
import TierSplit.Proofs.Payload
import TierSplit.Proofs.Roles
import TierSplit.Proofs.Spans

/-! What lies inside a marker, in a tree as a parser makes it: every identifier below the marker is one
of its tokens, and none of them is bound. -/

namespace TierSplit

open Syntax Concrete Scope

/-- A label that has no parts and is no identifier, and a body. -/
def LabelAndBody : List Syntax.Node → Prop
  | [label, _] => label.children = [] ∧ label.isIdentifier = false
  | _ => False

instance : DecidablePred LabelAndBody
  | [label, _] => inferInstanceAs (Decidable (label.children = [] ∧ label.isIdentifier = false))
  | [] | [_] | _ :: _ :: _ :: _ => inferInstanceAs (Decidable False)

/-- A node as a parser makes it for a text of some length. -/
structure WellFormed (length : Int) (n : Syntax.Node) : Prop where
  ordered : n.Ordered
  stop_le : n.stop ≤ length
  identifier : n.isIdentifier = true → n.start < n.stop ∧ n.children = []
  labeled : n.kind = "labeled_statement" → LabelAndBody n.children

instance (length : Int) (n : Syntax.Node) : Decidable (WellFormed length n) :=
  decidable_of_iff (n.Ordered ∧ n.stop ≤ length ∧
      (n.isIdentifier = true → n.start < n.stop ∧ n.children = []) ∧
      (n.kind = "labeled_statement" → LabelAndBody n.children))
    ⟨fun h => ⟨h.1, h.2.1, h.2.2.1, h.2.2.2⟩, fun h => ⟨h.1, h.2, h.3, h.4⟩⟩

namespace Payload

/-- The kinds of nodes that a marker and the tokens in it are wrapped in. -/
def wrapperKinds : List String :=
  ["labeled_statement", "expression_statement", "parenthesized_expression", "sequence_expression"]

theorem not_identifier_of_wrapper {n : Syntax.Node} (hf : Fits n) (hk : n.kind ∈ wrapperKinds) :
    ¬n.isIdentifier = true := by
  intro hid
  have hkind := hf.identifier hid
  simp only [wrapperKinds, identifierKinds, List.mem_cons, List.not_mem_nil, or_false] at hk hkind
  rcases hk with hk | hk | hk | hk <;> simp [hk] at hkind

theorem not_function_of_wrapper {n : Syntax.Node} (hf : Fits n) (hk : n.kind ∈ wrapperKinds) :
    ¬n.isFunction = true := by
  intro hfn
  have hkind := hf.function hfn
  simp only [wrapperKinds, functionKinds, List.mem_cons, List.not_mem_nil, or_false] at hk hkind
  rcases hk with hk | hk | hk | hk <;> simp [hk] at hkind

/-- An identifier, or parentheses or a sequence around such trees. -/
inductive TokenTree : Syntax.Node → Prop
  | identifier {n : Syntax.Node} (h : n.isIdentifier = true) : TokenTree n
  | group {n : Syntax.Node}
      (kind : n.kind = "parenthesized_expression" ∨ n.kind = "sequence_expression")
      (items : ∀ c ∈ n.children, TokenTree c) : TokenTree n

theorem tokenTree_of_leafSites {n : Syntax.Node} {path : Path}
    (h : ∀ t ∈ leafSites path n, IsToken t) : TokenTree n := by
  induction n using Node.childInduction generalizing path with
  | step n ih =>
    rw [leafSites_eq] at h
    split at h
    · next hk =>
      refine .group (hk.imp And.left id) fun c hc => ?_
      rw [← Site.map_node_children ⟨path, n⟩] at hc
      obtain ⟨t, ht, rfl⟩ := List.mem_map.1 hc
      exact ih _ (Site.node_mem_of_mem_children ht) fun u hu => h u (List.mem_flatMap_of_mem ht hu)
    · exact .identifier (h _ (List.mem_singleton_self _)).1

theorem tokenTree_of_unwrap {n : Syntax.Node} {path : Path} (h : TokenTree (unwrap path n).node) :
    TokenTree n := by
  induction n using Node.childInduction generalizing path with
  | step n ih =>
    obtain ⟨role, kind, start, stop, field, keywords, children⟩ := n
    rw [unwrap] at h
    split at h
    · next hk =>
      obtain ⟨c, rfl⟩ := List.length_eq_one_iff.1 hk.2
      refine .group (.inl hk.1) fun c' hc' => ?_
      rw [List.mem_singleton.1 hc']
      exact ih c List.mem_cons_self h
    · exact h

theorem tokenTree_of_spelledBy {n : Syntax.Node} {path : Path} {tokens : List Site}
    (h : SpelledBy (unwrap path n) tokens) : TokenTree n := by
  apply @tokenTree_of_unwrap n path
  rcases h with ⟨hid, -⟩ | ⟨-, -, rfl, htok⟩
  · exact .identifier hid
  · exact tokenTree_of_leafSites htok

/-! ### The identifiers of a payload -/

section

variable {length : Int}

theorem mem_leafSites {n : Syntax.Node} {path : Path} (hw : n.Everywhere (WellFormed length))
    (hf : n.Everywhere Fits) (htok : ∀ u ∈ leafSites path n, IsToken u) {t : Site}
    (ht : t ∈ n.sites path) (hid : t.node.isIdentifier = true) : t ∈ leafSites path n := by
  induction n using Node.childInduction generalizing path with
  | step n ih =>
    rw [leafSites_eq] at htok ⊢
    rw [Node.sites_eq] at ht
    split
    · next hk =>
      rw [if_pos hk] at htok
      rcases List.mem_cons.1 ht with rfl | ht
      · have hkind : n.kind ∈ wrapperKinds := by
          rcases hk with ⟨hk, -⟩ | hk <;> simp [wrapperKinds, hk]
        exact absurd hid (not_identifier_of_wrapper hf.here hkind)
      · obtain ⟨u, hu, ht⟩ := List.mem_flatMap.1 ht
        have hc := Site.node_mem_of_mem_children hu
        exact List.mem_flatMap_of_mem hu (ih _ hc (hw.child hc) (hf.child hc)
          (fun v hv => htok v (List.mem_flatMap_of_mem hu hv)) ht)
    · next hk =>
      -- a leaf is an identifier, and has no children
      rw [if_neg hk] at htok
      have hleaf := hw.here.identifier (htok _ (List.mem_singleton_self _)).1
      rwa [← Node.sites_eq, Site.sites_of_childless (s := ⟨path, n⟩) hleaf.2] at ht

theorem mem_sites_unwrap {n : Syntax.Node} {path : Path} (hw : n.Everywhere (WellFormed length))
    {t : Site} (ht : t ∈ n.sites path) (hid : t.node.isIdentifier = true) :
    t ∈ (unwrap path n).node.sites (unwrap path n).path := by
  induction n using Node.childInduction generalizing path with
  | step n ih =>
    obtain ⟨role, kind, start, stop, field, keywords, children⟩ := n
    rw [unwrap]
    split
    · next hk =>
      obtain ⟨c, rfl⟩ := List.length_eq_one_iff.1 hk.2
      rw [Node.sites_eq] at ht
      rcases List.mem_cons.1 ht with rfl | ht
      · cases (hw.here.identifier hid).2
      · simp only [Site.children, Site.childrenFrom, List.flatMap_cons, List.flatMap_nil,
          List.append_nil] at ht
        exact ih c List.mem_cons_self (hw.child List.mem_cons_self) ht
    · exact ht

theorem mem_of_spelledBy {payload : Site} {tokens : List Site}
    (hw : payload.node.Everywhere (WellFormed length)) (hf : payload.node.Everywhere Fits)
    (hs : SpelledBy payload tokens) {t : Site} (ht : t ∈ payload.node.sites payload.path)
    (hid : t.node.isIdentifier = true) : t ∈ tokens := by
  rcases hs with ⟨hpid, rfl⟩ | ⟨-, -, rfl, htok⟩
  · rwa [Site.sites_of_childless (hw.here.identifier hpid).2] at ht
  · exact mem_leafSites hw hf htok ht hid

theorem everywhere_unwrap {P : Syntax.Node → Prop} {n : Syntax.Node} (h : n.Everywhere P)
    (path : Path) : (unwrap path n).node.Everywhere P := by
  induction n using Node.childInduction generalizing path with
  | step n ih =>
    obtain ⟨role, kind, start, stop, field, keywords, children⟩ := n
    rw [unwrap]
    split
    · next hk =>
      obtain ⟨c, rfl⟩ := List.length_eq_one_iff.1 hk.2
      exact ih c List.mem_cons_self (h.child List.mem_cons_self) _
    · exact h

/-- A marker laid open: a label without parts, and a body around one item. -/
structure LaidOpen (length : Int) (marker label body : Site) (item : Syntax.Node) : Prop where
  marker_wraps : marker.node.kind ∈ wrapperKinds
  marker_fits : Fits marker.node
  children : marker.children = [label, body]
  label_bare : label.node.children = []
  label_other : label.node.isIdentifier = false
  body_wraps : body.node.kind ∈ wrapperKinds
  body_fits : Fits body.node
  content : body.children = [⟨0 :: body.path, item⟩]
  item_formed : item.Everywhere (WellFormed length)
  item_fits : item.Everywhere Fits

theorem laidOpen_of_hasPayload {marker body : Site} {item : Syntax.Node}
    (hk : marker.node.kind = "labeled_statement") (hw : marker.node.Everywhere (WellFormed length))
    (hf : marker.node.Everywhere Fits) (hp : HasPayload marker body item) :
    ∃ label, LaidOpen length marker label body item := by
  obtain ⟨label, b, hc, hlabel, hid⟩ : ∃ label b, marker.node.children = [label, b] ∧
      label.children = [] ∧ label.isIdentifier = false := by
    have hshape := hw.here.labeled hk
    unfold LabelAndBody at hshape
    split at hshape
    · next label b hc => exact ⟨label, b, hc, hshape⟩
    · cases hshape
  obtain ⟨hb, hbk, hi⟩ := hp
  have hbody : body = ⟨1 :: marker.path, b⟩ := by
    rw [Site.child?] at hb
    split at hb
    · next i hfield =>
      rw [hc] at hb
      match i with
      | 0 =>
        -- the label has no parts, so it is not the body
        obtain rfl : body = ⟨0 :: marker.path, label⟩ := by simpa using hb.symm
        rw [hlabel] at hi
        cases hi
      | 1 => simpa using hb.symm
      | i + 2 => simp at hb
    · cases hb
  have hbodyIn : body.node ∈ marker.node.children := by simp [hc, hbody]
  have hitemIn : item ∈ body.node.children := by simp [hi]
  refine ⟨⟨0 :: marker.path, label⟩, by simp [wrapperKinds, hk], hf.here, ?_, hlabel, hid,
    by simp [wrapperKinds, hbk], (hf.child hbodyIn).here, ?_, (hw.child hbodyIn).child hitemIn,
    (hf.child hbodyIn).child hitemIn⟩
  · rw [Site.children, hc, hbody]
    rfl
  · rw [Site.children, hi]
    rfl

theorem LaidOpen.mem_sites {marker label body : Site} {item : Syntax.Node}
    (h : LaidOpen length marker label body item) {t : Site}
    (ht : t ∈ marker.node.sites marker.path) :
    t = marker ∨ t = label ∨ t = body ∨ t ∈ item.sites (0 :: body.path) := by
  rw [Node.sites_eq, List.mem_cons] at ht
  refine ht.imp id fun ht => ?_
  change t ∈ marker.children.flatMap _ at ht
  rw [h.children, List.flatMap_cons, List.flatMap_singleton, Site.sites_of_childless h.label_bare,
    List.mem_append, List.mem_singleton] at ht
  refine ht.imp id fun ht => ?_
  rw [Node.sites_eq, List.mem_cons] at ht
  refine ht.imp id fun ht => ?_
  change t ∈ body.children.flatMap _ at ht
  rwa [h.content, List.flatMap_singleton] at ht

/-- Every identifier below a marker is one of its tokens. -/
theorem mem_tokens {marker : Site} {tokens : List Site}
    (hk : marker.node.kind = "labeled_statement") (hw : marker.node.Everywhere (WellFormed length))
    (hf : marker.node.Everywhere Fits) (hs : Spelled marker tokens) {t : Site}
    (ht : t ∈ marker.node.sites marker.path) (hid : t.node.isIdentifier = true) : t ∈ tokens := by
  obtain ⟨body, item, hp, hs⟩ := hs
  obtain ⟨label, ho⟩ := laidOpen_of_hasPayload hk hw hf hp
  rcases ho.mem_sites ht with rfl | rfl | rfl | ht
  · exact absurd hid (not_identifier_of_wrapper ho.marker_fits ho.marker_wraps)
  · rw [ho.label_other] at hid
    cases hid
  · exact absurd hid (not_identifier_of_wrapper ho.body_fits ho.body_wraps)
  · exact mem_of_spelledBy (everywhere_unwrap ho.item_formed _) (everywhere_unwrap ho.item_fits _) hs
      (mem_sites_unwrap ho.item_formed ht hid) hid

/-! ### Nothing is bound -/

/-- The items bind nothing. -/
def Unbound (items : List Item) : Prop := ∀ leaf ∈ leavesOf items, ∃ o, leaf = .use o

theorem unbound_flatMap {α : Type} {ts : List α} {f : α → List Item} (h : ∀ t ∈ ts, Unbound (f t)) :
    Unbound (ts.flatMap f) := by
  intro leaf hl
  obtain ⟨t, ht, hl⟩ := mem_leavesOf_flatMap.1 hl
  exact h t ht leaf hl

theorem unbound_append {a b : List Item} (ha : Unbound a) (hb : Unbound b) : Unbound (a ++ b) := by
  intro leaf hl
  simp at hl
  exact hl.elim (ha leaf) (hb leaf)

theorem unbound_uses (os : List Occurrence) : Unbound (os.map .use) := by
  induction os with
  | nil => intro leaf hl; cases hl
  | cons o rest ih =>
    refine unbound_append (a := [.use o]) (fun leaf hl => ⟨o, ?_⟩) ih
    simpa [leavesOf, Item.leaves] using hl

theorem evaluated_wrapper {s : Site} (hf : Fits s.node) (hk : s.node.kind ∈ wrapperKinds) :
    evaluated s = s.children.flatMap evaluated := by
  rw [evaluated, evaluationRule, if_neg (not_identifier_of_wrapper hf hk),
    if_neg (not_function_of_wrapper hf hk)]
  simp only [wrapperKinds, List.mem_cons, List.not_mem_nil, or_false] at hk
  rcases hk with hk | hk | hk | hk <;> simp only [hk] <;> exact flatMap_parts evaluated

theorem bound_wrapper {s : Site} (hf : Fits s.node) (hk : s.node.kind ∈ wrapperKinds)
    (hoisted : Bool) : bound hoisted s = evaluated s := by
  rw [bound, patternRule, if_neg (not_identifier_of_wrapper hf hk), evaluated]
  simp only [wrapperKinds, List.mem_cons, List.not_mem_nil, or_false] at hk
  rcases hk with hk | hk | hk | hk <;> simp only [hk] <;> rfl

theorem importBindings_wrapper {s : Site} (hk : s.node.kind ∈ wrapperKinds) : importBindings s = [] := by
  simp only [wrapperKinds, List.mem_cons, List.not_mem_nil, or_false] at hk
  rcases hk with hk | hk | hk | hk <;> simp [importBindings, hk]

theorem importBindings_childless {s : Site} (h : s.node.children = []) : importBindings s = [] := by
  simp [importBindings, nameIn, Site.children, h, Site.childrenFrom]

theorem TokenTree.unbound {n : Syntax.Node} (h : TokenTree n) (hf : n.Everywhere Fits) (path : Path) :
    Unbound (evaluated ⟨path, n⟩) := by
  induction h generalizing path with
  | @identifier n hid =>
    rw [evaluated_of_isIdentifier hid]
    exact unbound_uses _
  | @group n kind items ih =>
    have hk : n.kind ∈ wrapperKinds := by
      rcases kind with hk | hk <;> simp [wrapperKinds, hk]
    rw [evaluated_wrapper hf.here hk]
    refine unbound_flatMap fun t ht => ?_
    have hc := Site.node_mem_of_mem_children ht
    exact ih t.node hc (hf.child hc) t.path

theorem TokenTree.importBindings_eq_nil {n : Syntax.Node} (h : TokenTree n)
    (hw : n.Everywhere (WellFormed length)) {path : Path} {t : Site} (ht : t ∈ n.sites path) :
    importBindings t = [] := by
  induction h generalizing path with
  | @identifier n hid =>
    have hleaf := (hw.here.identifier hid).2
    have hsites := Site.sites_of_childless (s := ⟨path, n⟩) hleaf
    rw [hsites, List.mem_singleton] at ht
    exact importBindings_childless (by rw [ht, hleaf])
  | @group n kind items ih =>
    rw [Node.sites_eq, List.mem_cons, List.mem_flatMap] at ht
    obtain rfl | ⟨u, hu, ht⟩ := ht
    · exact importBindings_wrapper (by rcases kind with hk | hk <;> simp [wrapperKinds, hk])
    · have hc := Site.node_mem_of_mem_children hu
      exact ih u.node hc (hw.child hc) ht

theorem unbound_childless {s : Site} (hid : s.node.isIdentifier = false) (hc : s.node.children = [])
    (duty : Duty) : Unbound (obliged duty s) := by
  intro leaf hl
  rw [← contribution_eq_obliged] at hl
  rcases mem_leavesOf_contribution (s := s) hl with ⟨o, ho, -⟩ | ⟨t, ht, -⟩
  · rw [(Site.eq_of_occurrence? ho).1] at hid
    cases hid
  · have := Site.node_mem_of_mem_children ht
    rw [hc] at this
    cases this

section

variable {marker label body : Site} {item : Syntax.Node} (h : LaidOpen length marker label body item)
  (htree : TokenTree item)
include h htree

theorem LaidOpen.unbound_child {t : Site} (ht : t ∈ marker.children) :
    Unbound (evaluated t) ∧ ∀ hoisted, Unbound (bound hoisted t) := by
  rw [h.children, List.mem_cons, List.mem_singleton] at ht
  rcases ht with rfl | rfl
  · exact ⟨unbound_childless h.label_other h.label_bare .visit,
      fun hoisted => unbound_childless h.label_other h.label_bare (.pattern hoisted)⟩
  · have hbody : Unbound (evaluated t) := by
      rw [evaluated_wrapper h.body_fits h.body_wraps, h.content, List.flatMap_singleton]
      exact htree.unbound h.item_fits _
    refine ⟨hbody, fun hoisted => ?_⟩
    rw [bound_wrapper h.body_fits h.body_wraps]
    exact hbody

theorem LaidOpen.unbound_evaluated : Unbound (evaluated marker) := by
  rw [evaluated_wrapper h.marker_fits h.marker_wraps]
  exact unbound_flatMap fun t ht => (h.unbound_child htree ht).1

theorem LaidOpen.unbound_imported : Unbound (obliged .imported marker) := by
  refine unbound_flatMap fun t ht => ?_
  have hnil : importBindings t = [] := by
    rcases h.mem_sites ht with rfl | rfl | rfl | ht
    · exact importBindings_wrapper h.marker_wraps
    · exact importBindings_childless h.label_bare
    · exact importBindings_wrapper h.body_wraps
    · exact htree.importBindings_eq_nil h.item_formed ht
  rw [hnil]
  exact unbound_uses []

end

/-- Whatever a marker's duty, nothing in it is bound. -/
theorem unbound_marker {marker : Site} {tokens : List Site}
    (hk : marker.node.kind = "labeled_statement") (hw : marker.node.Everywhere (WellFormed length))
    (hf : marker.node.Everywhere Fits) (hs : Spelled marker tokens) (duty : Duty) :
    Unbound (contribution marker.node duty marker.path) := by
  obtain ⟨body, item, hp, hs⟩ := hs
  obtain ⟨label, ho⟩ := laidOpen_of_hasPayload hk hw hf hp
  have htree := tokenTree_of_spelledBy hs
  have hchild : ∀ field, ∀ t ∈ childIn field marker, t ∈ marker.children := by
    intro field t ht
    exact List.mem_of_find?_eq_some (Option.mem_toList.1 ht)
  rw [contribution_eq_obliged]
  cases duty with
  | visit => exact ho.unbound_evaluated htree
  | pattern hoisted =>
    change Unbound (bound hoisted marker)
    rw [bound_wrapper ho.marker_fits ho.marker_wraps]
    exact ho.unbound_evaluated htree
  | parameters => exact unbound_flatMap fun t ht => (ho.unbound_child htree ht).2 false
  | body =>
    rw [obliged, if_neg (by simp [hk])]
    exact ho.unbound_evaluated htree
  | declarator hoisted =>
    exact unbound_append
      (unbound_flatMap fun t ht => (ho.unbound_child htree (hchild _ t ht)).2 hoisted)
      (unbound_flatMap fun t ht => (ho.unbound_child htree (hchild _ t ht)).1)
  | exportClause => exact unbound_flatMap fun t _ => unbound_uses _
  | exportSpecifier => exact unbound_uses _
  | imported => exact ho.unbound_imported htree

end

end Payload

end TierSplit

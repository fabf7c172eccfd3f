import TierSplit.Proofs.Alignment
import TierSplit.Proofs.Partition

/-! Two programs that differ below one node, and in where their parts lie in the text. Whatever the
walk meets elsewhere it meets in both, under the same path or, below the node, under the path that the
edit moves it to. So if the node adds corresponding items in both programs, under every duty with which
the walk comes to it, then the references of the rest correspond. -/

namespace TierSplit.Syntax

/-! ### Edits -/

mutual

/-- The node without its place in the text. -/
def Node.bare : Node → Node
  | ⟨role, kind, _, _, field, keywords, children⟩ =>
    ⟨role, kind, 0, 0, field, keywords, bareAll children⟩

def bareAll : List Node → List Node
  | [] => []
  | c :: rest => c.bare :: bareAll rest

end

theorem bareAll_eq (ns : List Node) : bareAll ns = ns.map Node.bare := by
  induction ns with
  | nil => rfl
  | cons c rest ih => rw [bareAll, ih, List.map_cons]

theorem Node.bare_eq_bare {n n' : Node} :
    n.bare = n'.bare ↔ n.SameHead n' ∧ n.children.map Node.bare = n'.children.map Node.bare := by
  obtain ⟨role, kind, start, stop, field, keywords, children⟩ := n
  obtain ⟨role', kind', start', stop', field', keywords', children'⟩ := n'
  rw [Node.bare, Node.bare, bareAll_eq, bareAll_eq, Node.mk.injEq]
  constructor
  · rintro ⟨hrole, hkind, -, -, hfield, hkeywords, hchildren⟩
    exact ⟨⟨hrole.symm, hkind.symm, hfield.symm, hkeywords.symm⟩, hchildren⟩
  · rintro ⟨head, hchildren⟩
    exact ⟨head.role.symm, head.kind.symm, rfl, rfl, head.field.symm, head.keywords.symm, hchildren⟩

def Node.editChild (i : Nat) (f : Node → Node) (n : Node) : Node :=
  { n with children := n.children.modify i f }

def Node.edit (f : Node → Node) : Path → Node → Node
  | [], n => f n
  | i :: path, n => n.edit (editChild i f) path

/-- The position to which an edit moves another one, if the edit moves the children of the node at `q`
as `ρ` says. -/
def redirect (ρ : Nat → Nat) (q : Path) : Path → Path
  | [] => []
  | i :: path => if path = q then ρ i :: path else i :: redirect ρ q path

theorem redirect_append (ρ : Nat → Nat) (q y : Path) (i : Nat) :
    redirect ρ q (y ++ i :: q) = y ++ ρ i :: q := by
  induction y with
  | nil => rw [List.nil_append, redirect, if_pos rfl, List.nil_append]
  | cons j y ih =>
    have hne : y ++ i :: q ≠ q := by
      intro heq
      have hlength := congrArg List.length heq
      rw [List.length_append, List.length_cons] at hlength
      omega
    rw [List.cons_append, redirect, if_neg hne, ih, List.cons_append]

theorem redirect_of_not_suffix (ρ : Nat → Nat) {q x : Path} (h : ∀ i, ¬i :: q <:+ x) :
    redirect ρ q x = x := by
  induction x with
  | nil => rfl
  | cons i x ih =>
    have hne : x ≠ q := by
      rintro rfl
      exact h i List.suffix_rfl
    rw [redirect, if_neg hne, ih fun j hj => h j (hj.trans (List.suffix_cons i x))]

theorem suffix_redirect (ρ : Nat → Nat) {q x : Path} : q <:+ redirect ρ q x ↔ q <:+ x := by
  by_cases h : ∃ i, i :: q <:+ x
  · obtain ⟨i, y, rfl⟩ := h
    rw [redirect_append]
    have hbelow : ∀ j, q <:+ y ++ j :: q := fun j => ⟨y ++ [j], by simp⟩
    exact iff_of_true (hbelow _) (hbelow _)
  · rw [redirect_of_not_suffix ρ fun i hi => h ⟨i, hi⟩]

end TierSplit.Syntax

namespace TierSplit.Scope

open Syntax

/-! ### Relocations -/

/-- Where the second program has what the first one has, and what is not compared in either. -/
structure Relocation where
  moved : Path → Path
  hidden : Path → Bool
  hidden' : Path → Bool

/-- The two ends of a reference, after a move. -/
def Reference.ends (moved : Path → Path) (r : Reference) : Path × Option Path :=
  (moved r.use.path, r.declaration.map fun d => moved d.path)

namespace Relocation

variable (m : Relocation)

structure Takes (x x' : Path) : Prop where
  moves : x' = m.moved x
  plain : m.hidden x = false
  plain' : m.hidden' x' = false

def Relates (o o' : Occurrence) : Prop := o'.name = o.name ∧ m.Takes o.path o'.path

abbrev Mirrors (a b : List Item) : Prop :=
  Scope.Mirrors m.Relates (fun o => m.hidden o.path) (fun o => m.hidden' o.path) a b

theorem faithful : Faithful m.Relates (fun o => m.hidden o.path) fun o => m.hidden' o.path where
  name := fun _ _ h => h.1.symm
  plain := fun _ _ h => h.2.plain
  plain' := fun _ _ h => h.2.plain'

theorem ends_eq_of_match {r r' : Reference} (h : Reference.Match m.Relates r r') :
    r'.ends id = r.ends m.moved := by
  obtain ⟨use, declaration⟩ := r
  obtain ⟨use', declaration'⟩ := r'
  obtain ⟨huse, hdeclaration⟩ := h
  have hpath : use'.path = m.moved use.path := huse.2.moves
  cases hdeclaration with
  | none => simp [Reference.ends, hpath]
  | some hd => simp [Reference.ends, hpath, hd.2.moves]

theorem map_ends_eq {rs rs' : List Reference} (h : List.Forall₂ (Reference.Match m.Relates) rs rs') :
    rs'.map (Reference.ends id) = rs.map (Reference.ends m.moved) := by
  induction h with
  | nil => rfl
  | cons hr _ ih => rw [List.map_cons, List.map_cons, ih, m.ends_eq_of_match hr]

variable {m}

/-- Where the outlines correspond, so do the references whose uses are compared. -/
theorem Mirrors.ends_perm {program program' : Node} (h : m.Mirrors (outline program) (outline program')) :
    (((analyze program').references.filter fun r => !m.hidden' r.use.path).map
        (Reference.ends id)).Perm
      (((analyze program).references.filter fun r => !m.hidden r.use.path).map
        (Reference.ends m.moved)) := by
  have hmatch := m.map_ends_eq (moduleReferences_match m.faithful h)
  have hperm := ((references_perm program).filter fun r => !m.hidden r.use.path).map
    (Reference.ends m.moved)
  have hperm' := ((references_perm program').filter fun r => !m.hidden' r.use.path).map
    (Reference.ends id)
  exact (hperm'.trans (.of_eq hmatch)).trans hperm.symm

theorem Mirrors.outside_perm {program program' : Node}
    (h : m.Mirrors (outline program) (outline program')) {q : Path}
    (hmoved : ∀ x, q <:+ m.moved x ↔ q <:+ x) (hself : ∀ x, ¬q <:+ x → m.moved x = x)
    (hhidden : ∀ x, ¬q <:+ x → m.hidden x = false) (hhidden' : ∀ x, ¬q <:+ x → m.hidden' x = false) :
    (((analyze program').references.filter fun r => ¬q <:+ r.use.path).map
        fun r => (r.use.path, r.declaration.map Occurrence.path)).Perm
      (((analyze program).references.filter fun r => ¬q <:+ r.use.path).map
        fun r => (r.use.path, r.declaration.map fun d => m.moved d.path)) := by
  have hperm := h.ends_perm.filter fun e => decide ¬q <:+ e.1
  rw [List.filter_map, List.filter_map, List.filter_filter, List.filter_filter] at hperm
  have hleft : (analyze program').references.filter (fun r =>
      ((fun e => decide ¬q <:+ e.1) ∘ Reference.ends id) r && !m.hidden' r.use.path) =
      (analyze program').references.filter fun r => ¬q <:+ r.use.path := by
    refine List.filter_congr fun r _ => ?_
    by_cases hr : q <:+ r.use.path
    · simp [Reference.ends, hr]
    · simp [Reference.ends, hr, hhidden' _ hr]
  have hright : (analyze program).references.filter (fun r =>
      ((fun e => decide ¬q <:+ e.1) ∘ Reference.ends m.moved) r && !m.hidden r.use.path) =
      (analyze program).references.filter fun r => ¬q <:+ r.use.path := by
    refine List.filter_congr fun r _ => ?_
    by_cases hr : q <:+ r.use.path
    · simp [Reference.ends, hmoved, hr]
    · simp [Reference.ends, hmoved, hr, hhidden _ hr]
  rw [hleft, hright] at hperm
  refine hperm.trans (.of_eq (List.map_congr_left fun r hr => ?_))
  have huse : ¬q <:+ r.use.path := by simpa using (List.mem_filter.1 hr).2
  rw [Reference.ends, hself _ huse]

/-- A use that is compared reads no declaration that is not. -/
theorem Mirrors.declaration_plain {program program' : Node}
    (h : m.Mirrors (outline program) (outline program')) {r : Reference}
    (hr : r ∈ (analyze program).references) (huse : m.hidden r.use.path = false) {d : Occurrence}
    (hd : r.declaration = some d) : m.hidden d.path = false := by
  have hmem : r ∈ unveiled (fun o => m.hidden o.path) (moduleReferences program) :=
    List.mem_filter.2 ⟨(references_perm program).mem_iff.1 hr, by simp [huse]⟩
  obtain ⟨r', -, -, hrel⟩ :=
    exists_of_mem_right (moduleReferences_match m.faithful h).flip hmem
  rw [hd] at hrel
  generalize r'.declaration = declaration' at hrel
  cases hrel with
  | some hd' => exact hd'.2.plain

end Relocation

/-! ### One node -/

section

variable {m : Relocation} {ρ : Nat → Nat} {X : Nat → Prop} {n n' : Node} {path path' : Path}

theorem Threads.mirrors {s s' : Site} {a b : List Step} (h : Threads ρ X a b)
    (keep : ∀ st ∈ a, m.Mirrors (follow s [st]) (follow s' [(ρ st.1, st.2)]))
    (extra : ∀ k duty, X k → duty.Casual → m.Mirrors [] (follow s' [(k, duty)])) :
    m.Mirrors (follow s a) (follow s' b) := by
  induction h with
  | nil => exact .nil
  | keep _ ih =>
    rw [follow_cons s, follow_cons s']
    exact (keep _ List.mem_cons_self).append (ih fun st hst => keep st (List.mem_cons_of_mem _ hst))
  | extra index casual _ ih =>
    rw [follow_cons s']
    exact (extra _ _ index casual).append (ih keep)

theorem occurrence?_related (h : n.SameHead n') (hpath : m.Takes path path') :
    Option.Rel m.Relates (Site.mk path n).occurrence? (Site.mk path' n').occurrence? := by
  have hrole := h.role
  simp only [Site.occurrence?]
  rw [hrole]
  cases n.role with
  | identifier name => exact .some ⟨rfl, hpath⟩
  | labeled | function | block | other | plain => exact .none

/-- Two nodes whose children correspond, and add corresponding items, add corresponding items. -/
theorem Counterpart.mirrors (h : Counterpart ρ X n n') (hpath : m.Takes path path') (duty : Duty)
    (keep : ∀ st ∈ (Plan.of duty n).steps,
      m.Mirrors (follow ⟨path, n⟩ [st]) (follow ⟨path', n'⟩ [(ρ st.1, st.2)]))
    (extra : ∀ k d, X k → d.Casual → m.Mirrors [] (follow ⟨path', n'⟩ [(k, d)])) :
    m.Mirrors (contribution n duty path) (contribution n' duty path') := by
  have hown := occurrence?_related h.head hpath
  have hplan := h.plan duty
  rw [contribution_eq_planned ⟨path, n⟩, contribution_eq_planned ⟨path', n'⟩]
  revert hplan keep
  generalize Plan.of duty n = plan
  generalize Plan.of duty n' = plan'
  intro keep hplan
  cases hplan with
  | use =>
    rw [planned, planned, Plan.items, Plan.items, occurrenceItems_eq, occurrenceItems_eq]
    exact .uses hown
  | bind =>
    rw [planned, planned, Plan.items, Plan.items, occurrenceItems_eq, occurrenceItems_eq]
    exact .binds hown
  | follow outer => exact outer.mirrors keep extra
  | enclose outer inner =>
    rw [planned_enclose, planned_enclose]
    exact (outer.mirrors (fun st hst => keep st (List.mem_append_left _ hst)) extra).append
      (.scope (inner.mirrors (fun st hst => keep st (List.mem_append_right _ hst)) extra) .nil)

theorem Aligned.of_sameHead {i i' : Nat} {cs cs' : List Node}
    (h : List.Forall₂ Node.SameHead cs cs') (hρ : ∀ j, ρ (i + j) = i' + j) :
    Aligned ρ X i i' cs cs' := by
  induction h generalizing i i' with
  | nil => exact .nil
  | cons head _ ih =>
    refine .both head (hρ 0) (ih fun j => ?_)
    have hj := hρ (1 + j)
    rwa [← Nat.add_assoc, ← Nat.add_assoc] at hj

theorem sameHead_of_map_bare {cs cs' : List Node} (h : cs.map Node.bare = cs'.map Node.bare) :
    List.Forall₂ Node.SameHead cs cs' := by
  induction cs generalizing cs' with
  | nil =>
    rw [List.map_nil, eq_comm, List.map_eq_nil_iff] at h
    rw [h]
    exact .nil
  | cons c cs ih =>
    cases cs' with
    | nil => cases h
    | cons c' cs' =>
      rw [List.map_cons, List.map_cons, List.cons.injEq] at h
      exact .cons (Node.bare_eq_bare.1 h.1).1 (ih h.2)

theorem Counterpart.of_sameHead (head : n.SameHead n')
    (h : List.Forall₂ Node.SameHead n.children n'.children) :
    Counterpart id (fun _ => False) n n' where
  head := head
  children := .of_sameHead h fun _ => rfl
  injective := Function.injective_id
  strays := fun _ hx => hx.elim

theorem getElem?_bare {cs cs' : List Node} (h : cs.map Node.bare = cs'.map Node.bare) (j : Nat) :
    cs[j]?.map Node.bare = cs'[j]?.map Node.bare := by
  rw [← List.getElem?_map, h, List.getElem?_map]

theorem follow_mirrors_of_bare (s s' : Site) {j j' : Nat}
    (hchild : s.node.children[j]?.map Node.bare = s'.node.children[j']?.map Node.bare) (duty : Duty)
    (h : ∀ c c', s.node.children[j]? = some c → c.bare = c'.bare →
      m.Mirrors (contribution c duty (j :: s.path)) (contribution c' duty (j' :: s'.path))) :
    m.Mirrors (follow s [(j, duty)]) (follow s' [(j', duty)]) := by
  cases hc : s.node.children[j]? with
  | none =>
    rw [hc, Option.map_none, eq_comm, Option.map_eq_none_iff] at hchild
    rw [follow_step_of_none hc, follow_step_of_none hchild]
    exact .nil
  | some c =>
    rw [hc, Option.map_some, eq_comm, Option.map_eq_some_iff] at hchild
    obtain ⟨c', hc', hbare⟩ := hchild
    rw [follow_step hc, follow_step hc']
    exact h c c' hc hbare.symm

/-- A subtree that is moved as a whole adds the same. -/
theorem mirrors_of_bare (h : n.bare = n'.bare) (hpath : ∀ y, m.Takes (y ++ path) (y ++ path'))
    (duty : Duty) : m.Mirrors (contribution n duty path) (contribution n' duty path') := by
  induction n using Node.childInduction generalizing n' path path' duty with
  | step n ih =>
    obtain ⟨head, hchildren⟩ := Node.bare_eq_bare.1 h
    refine (Counterpart.of_sameHead head (sameHead_of_map_bare hchildren)).mirrors (hpath []) duty
      (fun st _ => ?_) fun _ _ hx => hx.elim
    refine follow_mirrors_of_bare ⟨path, n⟩ ⟨path', n'⟩ (getElem?_bare hchildren st.1) st.2
      fun c c' hc hbare => ih c (List.mem_of_getElem? hc) hbare (fun y => ?_) st.2
    have hy := hpath (y ++ [st.1])
    rwa [List.append_assoc, List.append_assoc] at hy

end

/-! ### Changes below the root -/

section

variable {m : Relocation} {program : Node}

theorem not_suffix_of_ne {i j : Nat} {path : Path} (h : j ≠ i) (y : Path) :
    ¬i :: path <:+ y ++ j :: path :=
  fun hi => h (eq_of_suffix (List.suffix_append y (j :: path)) hi)

section

variable {s : Site} {i : Nat} {c n' : Node} {f : Node → Node} (hc : s.node.children[i]? = some c)
  (head : c.SameHead (f c)) (hn' : n'.bare = (s.node.editChild i f).bare)
include hn'

theorem bare_child (j : Nat) : n'.children[j]?.map Node.bare =
    s.node.children[j]?.map fun d => (if i = j then f d else d).bare := by
  rw [getElem?_bare (Node.bare_eq_bare.1 hn').2, Node.editChild, List.getElem?_modify,
    Option.map_eq_map, Option.map_map]
  rfl

include hc head

theorem editChild_counterpart : Counterpart id (fun _ => False) s.node n' := by
  obtain ⟨hhead, hchildren⟩ := Node.bare_eq_bare.1 hn'.symm
  have hlength := congrArg List.length hchildren
  rw [List.length_map, List.length_map, Node.editChild, List.length_modify] at hlength
  refine .of_sameHead ⟨hhead.role, hhead.kind, hhead.field, hhead.keywords⟩
    (List.forall₂_iff_get.2 ⟨hlength, fun j hj hj' => ?_⟩)
  have hbare := bare_child hn' j
  rw [List.getElem?_eq_getElem hj, List.getElem?_eq_getElem hj', Option.map_some, Option.map_some,
    Option.some.injEq] at hbare
  have hsame := (Node.bare_eq_bare.1 hbare.symm).1
  rw [List.get_eq_getElem, List.get_eq_getElem]
  split at hsame
  · next hij =>
    subst hij
    obtain rfl : s.node.children[i] = c := (List.getElem?_eq_some_iff.1 hc).2
    exact head.trans hsame
  · exact hsame

omit head

/-- Where a child is changed, the other children add the same, and so does the changed one, if it does
so under the duties with which it is followed. -/
theorem editChild_mirrors (off : ∀ x, ¬i :: s.path <:+ x → m.Takes x x) {st : Step}
    (hit : st.1 = i → ∀ c', c'.bare = (f c).bare →
      m.Mirrors (contribution c st.2 (i :: s.path)) (contribution c' st.2 (i :: s.path))) :
    m.Mirrors (follow s [st]) (follow ⟨s.path, n'⟩ [st]) := by
  obtain ⟨j, duty⟩ := st
  have hbare := bare_child hn' j
  by_cases hij : i = j
  · subst hij
    rw [hc, Option.map_some, if_pos rfl, Option.map_eq_some_iff] at hbare
    obtain ⟨c', hc', hbare⟩ := hbare
    rw [follow_step hc, follow_step (s := ⟨s.path, n'⟩) hc']
    exact hit rfl c' hbare
  · simp only [if_neg hij] at hbare
    refine follow_mirrors_of_bare s ⟨s.path, n'⟩ hbare.symm duty fun d d' _ hd => ?_
    exact mirrors_of_bare hd (fun y => off _ (not_suffix_of_ne (Ne.symm hij) y)) duty

end

/-- An edit below the root, of a node that keeps its head: if the node adds corresponding items under
every duty with which the walk comes to it, so do the programs. -/
theorem outline_mirrors_of_edit {s : Site} (hs : s ∈ program.sites []) (hne : s.path ≠ [])
    {f : Node → Node} (head : s.node.SameHead (f s.node))
    (off : ∀ x, ¬s.path <:+ x → m.Takes x x)
    (hit : ∀ duty, Reaches program s duty → ∀ n', n'.bare = (f s.node).bare →
      m.Mirrors (contribution s.node duty s.path) (contribution n' duty s.path))
    {program' : Node} (h : program'.bare = (program.edit f s.path).bare) :
    m.Mirrors (outline program) (outline program') := by
  -- a change of a child is a change of the node, so the induction goes from the root down
  refine Site.belowInduction (motive := fun s => (∀ x, ¬s.path <:+ x → m.Takes x x) → ∀ f : Node → Node,
    s.node.SameHead (f s.node) → (∀ duty, Reaches program s duty → ∀ n' : Node,
      n'.bare = (f s.node).bare →
      m.Mirrors (contribution s.node duty s.path) (contribution n' duty s.path)) →
    program'.bare = (program.edit f s.path).bare → m.Mirrors (outline program) (outline program'))
    ?_ ?_ hs hne off f head hit h
  · intro t ht off f head hit h
    obtain ⟨i, hi, hpath⟩ := Site.mem_children.1 ht
    rw [hpath] at off h hit
    refine ((editChild_counterpart hi head h).all .visit trivial).mirrors (s := Site.root program)
      (fun st hst => editChild_mirrors hi h off ?_) fun _ _ hx => hx.elim
    rintro rfl c' hc'
    rw [Plan.all, allFrom_eq_filterFrom] at hst
    obtain ⟨hvisit, -⟩ := of_mem_filterFrom hst
    exact hit _ (hvisit ▸ .top ht) c' hc'
  · intro s ih t ht off f head hit h
    obtain ⟨i, hi, hpath⟩ := Site.mem_children.1 ht
    have hunder : ∀ x, ¬s.path <:+ x → m.Takes x x := by
      intro x hx
      refine off x fun hsuffix => hx ?_
      rw [hpath] at hsuffix
      exact (List.suffix_cons i s.path).trans hsuffix
    rw [hpath] at off h hit
    refine ih hunder (Node.editChild i f) ⟨rfl, rfl, rfl, rfl⟩ (fun duty hreach n' hn' => ?_) h
    have hown := off s.path (not_cons_suffix i s.path)
    refine (editChild_counterpart hi head hn').mirrors hown duty (fun st hst => ?_)
      fun _ _ hx => hx.elim
    refine editChild_mirrors hi hn' off ?_
    rintro rfl c' hc'
    exact hit st.2 (.step hreach ht hpath hst) c' hc'

end

end TierSplit.Scope

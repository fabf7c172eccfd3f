import TierSplit.Proofs.Coverage
import TierSplit.Proofs.Environments
import Mathlib.Data.List.Nodup

/-! How the walk comes to a node. Below an import it may pass a node twice; everywhere else a plan
follows no child twice, so the walk comes to a node with one duty only. No identifier is mentioned
twice, neither as a use nor as a binding. Each use therefore has one reference. -/

namespace TierSplit.Syntax

/-- What holds of the children of the root, and of the children of what it holds of, holds of every
site but the root. -/
theorem Site.belowInduction {program : Node} {motive : Site → Prop}
    (top : ∀ t ∈ (Site.root program).children, motive t)
    (step : ∀ s, motive s → ∀ t ∈ s.children, motive t) {s : Site} (hs : s ∈ program.sites [])
    (hne : s.path ≠ []) : motive s := by
  have below : ∀ (n : Node) (path : Path), motive ⟨path, n⟩ → ∀ s ∈ n.sites path, motive s := by
    intro n
    induction n using Node.childInduction with
    | step n ih =>
      intro path hn s hs
      rw [Node.sites_eq, List.mem_cons, List.mem_flatMap] at hs
      obtain rfl | ⟨t, ht, hs⟩ := hs
      · exact hn
      · exact ih _ (Site.node_mem_of_mem_children ht) t.path (step _ hn t ht) s hs
  rw [Node.sites_eq, List.mem_cons, List.mem_flatMap] at hs
  obtain rfl | ⟨t, ht, hs⟩ := hs
  · exact absurd rfl hne
  · exact below t.node t.path (top t ht) s hs

theorem not_cons_suffix (i : Nat) (path : Path) : ¬i :: path <:+ path := by
  intro h
  have hlength := h.length_le
  rw [List.length_cons] at hlength
  omega

theorem Site.self_mem_sites (n : Node) (path : Path) : ⟨path, n⟩ ∈ n.sites path := by
  rw [Node.sites_eq]
  exact List.mem_cons_self

theorem suffix_of_mem_sites {n : Node} {path : Path} {s : Site} (h : s ∈ n.sites path) :
    path <:+ s.path := by
  induction n using Node.childInduction generalizing path with
  | step n ih =>
    rw [Node.sites_eq, List.mem_cons, List.mem_flatMap] at h
    obtain rfl | ⟨t, ht, h⟩ := h
    · exact List.suffix_rfl
    · obtain ⟨i, -, hpath⟩ := Site.mem_children.1 ht
      have hbelow := ih _ (Site.node_mem_of_mem_children ht) h
      rw [hpath] at hbelow
      exact (List.suffix_cons i path).trans hbelow

theorem Site.mem_sites_of_mem_children {n : Node} {path : Path} {s t : Site} (h : s ∈ n.sites path)
    (ht : t ∈ s.children) : t ∈ n.sites path := by
  induction n using Node.childInduction generalizing path with
  | step n ih =>
    rw [Node.sites_eq, List.mem_cons, List.mem_flatMap] at h ⊢
    right
    obtain rfl | ⟨u, hu, h⟩ := h
    · exact ⟨t, ht, Site.self_mem_sites t.node t.path⟩
    · exact ⟨u, hu, ih _ (Site.node_mem_of_mem_children hu) h⟩

theorem eq_root_of_path_eq_nil {program : Node} {s : Site} (hs : s ∈ program.sites [])
    (hpath : s.path = []) : s = Site.root program := by
  rw [Node.sites_eq, List.mem_cons, List.mem_flatMap] at hs
  obtain rfl | ⟨t, ht, hs⟩ := hs
  · rfl
  · obtain ⟨i, -, hti⟩ := Site.mem_children.1 ht
    have hbelow := suffix_of_mem_sites hs
    rw [hpath, hti] at hbelow
    exact absurd (List.suffix_nil.1 hbelow) (List.cons_ne_nil _ _)

theorem eq_of_suffix {i j : Nat} {path x : Path} (hi : i :: path <:+ x) (hj : j :: path <:+ x) :
    i = j := by
  have h := (List.suffix_of_suffix_length_le hi hj (by simp)).eq_of_length (by simp)
  exact (List.cons.inj h).1

theorem Site.children_distinct (s : Site) : (s.children.map Site.path).Nodup := by
  suffices h : ∀ i ns, (childrenFrom s.path i ns).map Site.path =
      (List.range' i ns.length).map (· :: s.path) by
    rw [children, h]
    exact List.Nodup.map (fun i j hij => (List.cons.inj hij).1) List.nodup_range'
  intro i ns
  induction ns generalizing i with
  | nil => rfl
  | cons c rest ih =>
    rw [childrenFrom, List.map_cons, ih, List.length_cons, List.range'_succ, List.map_cons]

/-- The path tells the site. -/
theorem sites_distinct (n : Node) (path : Path) : ((n.sites path).map Site.path).Nodup := by
  induction n using Node.childInduction generalizing path with
  | step n ih =>
    rw [Node.sites_eq, List.map_cons, List.map_flatMap, List.nodup_cons, List.nodup_flatMap]
    refine ⟨?_, ?_, ?_⟩
    · intro hself
      obtain ⟨t, ht, hself⟩ := List.mem_flatMap.1 hself
      obtain ⟨s, hs, hpath⟩ := List.mem_map.1 hself
      obtain ⟨i, -, hi⟩ := Site.mem_children.1 ht
      have hsuffix := suffix_of_mem_sites hs
      rw [hpath, hi] at hsuffix
      exact not_cons_suffix i path hsuffix
    · intro t ht
      exact ih _ (Site.node_mem_of_mem_children ht) t.path
    · have hchildren := Site.children_distinct ⟨path, n⟩
      rw [List.Nodup, List.pairwise_map] at hchildren
      apply hchildren.imp_of_mem
      intro t u ht hu hne x hx hx'
      obtain ⟨i, -, hi⟩ := Site.mem_children.1 ht
      obtain ⟨j, -, hj⟩ := Site.mem_children.1 hu
      obtain ⟨s, hs, rfl⟩ := List.mem_map.1 hx
      obtain ⟨s', hs', hpath⟩ := List.mem_map.1 hx'
      have hsuffix := suffix_of_mem_sites hs
      have hsuffix' := suffix_of_mem_sites hs'
      rw [hi] at hsuffix
      rw [hpath, hj] at hsuffix'
      rw [hi, hj, eq_of_suffix hsuffix hsuffix'] at hne
      exact hne rfl

end TierSplit.Syntax

namespace TierSplit.Scope

open Syntax

/-! ### Indices -/

def Plan.indices (plan : Plan) : List Nat := plan.steps.map Prod.fst

theorem map_fst_filterFrom (test : Node → Bool) (duty : Duty) (i : Nat) (ns : List Node) :
    ((Plan.filterFrom test duty i ns).map Prod.fst).Sublist (List.range' i ns.length) := by
  induction ns generalizing i with
  | nil => exact .slnil
  | cons c rest ih =>
    rw [Plan.filterFrom, List.length_cons, List.range'_succ]
    split
    · exact (ih (i + 1)).cons_cons i
    · exact (ih (i + 1)).cons i

theorem filter_distinct (test : Node → Bool) (duty : Duty) (n : Node) :
    ((Plan.filter test duty n).map Prod.fst).Nodup :=
  (map_fst_filterFrom test duty 0 n.children).nodup List.nodup_range'

theorem all_distinct (duty : Duty) (n : Node) : ((Plan.all duty n).map Prod.fst).Nodup := by
  rw [Plan.all, allFrom_eq_filterFrom]
  exact filter_distinct _ duty n

theorem map_fst_inField (field : String) (duty : Duty) (n : Node) :
    (Plan.inField field duty n).map Prod.fst = (n.fieldIndex? field).toList := by
  rw [Plan.inField]
  cases n.fieldIndex? field <;> rfl

theorem nameIn_sublist (field : String) (hoisted : Bool) (n : Node) :
    (Plan.nameIn field hoisted n).Sublist (Plan.inField field (.pattern hoisted) n) := by
  rw [Plan.nameIn]
  split
  · split
    · exact .refl _
    · exact List.nil_sublist _
  · exact List.nil_sublist _

theorem of_mem_filterFrom {test : Node → Bool} {duty d : Duty} {i k : Nat} {ns : List Node}
    (h : (k, d) ∈ Plan.filterFrom test duty i ns) :
    d = duty ∧ ∃ j c, k = i + j ∧ ns[j]? = some c ∧ test c = true := by
  induction ns generalizing i with
  | nil => cases h
  | cons c rest ih =>
    have hrest : (k, d) ∈ Plan.filterFrom test duty (i + 1) rest →
        d = duty ∧ ∃ j c', k = i + j ∧ (c :: rest)[j]? = some c' ∧ test c' = true := by
      intro h
      obtain ⟨hd, j, c', hj, hc', ht⟩ := ih h
      exact ⟨hd, j + 1, c', by omega, hc', ht⟩
    rw [Plan.filterFrom] at h
    split at h
    · next ht =>
      rcases List.mem_cons.1 h with heq | h
      · cases heq
        exact ⟨rfl, 0, c, rfl, rfl, ht⟩
      · exact hrest h
    · exact hrest h

theorem of_mem_nameIn {field : String} {hoisted : Bool} {n : Node} {i : Nat} {d : Duty}
    (h : (i, d) ∈ Plan.nameIn field hoisted n) :
    d = .pattern hoisted ∧ ∃ c, n.children[i]? = some c ∧ c.isIdentifier = true := by
  rw [Plan.nameIn, Node.child?, List.find?_eq_bind_findIdx?_getElem?] at h
  rw [Plan.inField, Node.fieldIndex?] at h
  cases hi : n.children.findIdx? (Node.inField field) with
  | none =>
    rw [hi] at h
    cases h
  | some j =>
    rw [hi, Option.bind_some] at h
    split at h
    · next c hc =>
      split at h
      · next hid =>
        obtain ⟨rfl, rfl⟩ := Prod.mk.inj (List.mem_singleton.1 h)
        exact ⟨rfl, c, hc, hid⟩
      · cases h
    · cases h

theorem first_others_distinct (field : String) (first duty : Duty) (n : Node) :
    ((Plan.inField field first n ++ Plan.others field duty n).map Prod.fst).Nodup := by
  rw [Plan.inField, Plan.others]
  cases n.fieldIndex? field with
  | none => exact all_distinct duty n
  | some i =>
    rw [List.map_append, List.map_singleton, List.singleton_append, List.nodup_cons]
    refine ⟨fun hi => ?_, (List.filter_sublist.map _).nodup (all_distinct duty n)⟩
    obtain ⟨st, hst, rfl⟩ := List.mem_map.1 hi
    simpa using (List.mem_filter.1 hst).2

def fieldIndices (fields : List String) (n : Node) : List Nat :=
  fields.flatMap fun f => (n.fieldIndex? f).toList

theorem eq_of_fieldIndex? {n : Node} {f g : String} {i : Nat} (hf : n.fieldIndex? f = some i)
    (hg : n.fieldIndex? g = some i) : f = g := by
  obtain ⟨hi, hf, -⟩ := List.findIdx?_eq_some_iff_getElem.1 hf
  obtain ⟨_, hg, -⟩ := List.findIdx?_eq_some_iff_getElem.1 hg
  have hf : n.children[i].field = some f := beq_iff_eq.1 hf
  have hg : n.children[i].field = some g := beq_iff_eq.1 hg
  exact Option.some.inj (hf.symm.trans hg)

theorem fieldIndices_nodup (fields : List String) (h : fields.Nodup) (n : Node) :
    (fieldIndices fields n).Nodup := by
  refine List.nodup_flatMap.2 ⟨fun f _ => ?_, h.imp fun hne i hf hg => ?_⟩
  · cases n.fieldIndex? f <;> simp
  · exact hne (eq_of_fieldIndex? (Option.mem_toList.1 hf) (Option.mem_toList.1 hg))

theorem two_fields_distinct {f g : String} (hne : f ≠ g) (d e : Duty) (n : Node) :
    ((Plan.inField f d n ++ Plan.inField g e n).map Prod.fst).Nodup := by
  have h := fieldIndices_nodup [f, g] (by simpa using hne) n
  rw [List.map_append, map_fst_inField, map_fst_inField]
  simpa [fieldIndices] using h

/-! ### Plans -/

theorem distinct_ite {p : Prop} [Decidable p] {a b : Plan} (ha : a.indices.Nodup)
    (hb : b.indices.Nodup) : (if p then a else b).indices.Nodup := by
  split
  · exact ha
  · exact hb

theorem function_distinct (n : Node) : (Plan.function n).indices.Nodup := by
  refine List.Sublist.nodup ?_
    (fieldIndices_nodup ["name", "parameter", "parameters", "body"] (by decide) n)
  -- the name is followed in at most one of three ways, as the kind has it
  have hname : ((if Plan.isFunctionDeclaration n.kind then Plan.nameIn "name" false n else []) ++
      (if n.kind == "method_definition" then Plan.inField "name" .visit n else []) ++
      (if Plan.isFunctionExpression n.kind then Plan.nameIn "name" false n else [])).map
        Prod.fst |>.Sublist (n.fieldIndex? "name").toList := by
    have hbind := (nameIn_sublist "name" false n).map Prod.fst
    rw [map_fst_inField] at hbind
    by_cases hm : n.kind = "method_definition"
    · rw [hm, if_neg (by decide), if_pos (by decide), if_neg (by decide), List.nil_append,
        List.append_nil, map_fst_inField]
    · rw [show (n.kind == "method_definition") = false by simpa using hm,
        if_neg Bool.false_ne_true, List.append_nil]
      split
      · next hd =>
        have he : ¬Plan.isFunctionExpression n.kind = true := by
          rw [Plan.isFunctionDeclaration, Bool.or_eq_true, beq_iff_eq, beq_iff_eq] at hd
          rcases hd with hd | hd <;> rw [hd] <;> decide
        rw [if_neg he, List.append_nil]
        exact hbind
      · split
        · exact hbind
        · exact List.nil_sublist _
  simp only [Plan.function, Plan.indices, Plan.steps, fieldIndices, List.map_append, map_fst_inField,
    List.flatMap_cons, List.flatMap_nil, List.append_nil] at hname ⊢
  simp only [← List.append_assoc]
  exact ((hname.append (.refl _)).append (.refl _)).append (.refl _)

theorem classLike_distinct (n : Node) : (Plan.classLike n).indices.Nodup := by
  have hothers := first_others_distinct "name" (.pattern false) .visit n
  have hname : ((Plan.nameIn "name" false n ++ Plan.others "name" .visit n).map Prod.fst).Nodup :=
    (((nameIn_sublist "name" false n).append (.refl _)).map _).nodup hothers
  rw [Plan.classLike]
  refine distinct_ite hname ?_
  split
  · exact ((List.sublist_append_right _ _).map _).nodup hothers
  · exact hname

theorem exportStep_index {reexport : Bool} {n : Node} {st st' : Step}
    (h : Plan.exportStep reexport n st = some st') : st'.1 = st.1 := by
  unfold Plan.exportStep at h
  split at h
  · split_ifs at h <;> cases h <;> rfl
  · cases h

theorem exported_distinct (n : Node) : (Plan.exported n).indices.Nodup := by
  suffices h : ∀ reexport (steps : List Step),
      ((steps.filterMap (Plan.exportStep reexport n)).map Prod.fst).Sublist (steps.map Prod.fst) from
    (h _ _).nodup (all_distinct .visit n)
  intro reexport steps
  induction steps with
  | nil => exact .slnil
  | cons st rest ih =>
    rw [List.filterMap_cons, List.map_cons]
    split
    · exact ih.cons _
    · next st' hst =>
      rw [List.map_cons, exportStep_index hst]
      exact ih.cons_cons _

theorem visit_distinct (n : Node) : (Plan.visit n).indices.Nodup :=
  distinct_ite List.nodup_nil <| distinct_ite (function_distinct n) <|
    distinct_ite (classLike_distinct n) <| distinct_ite (filter_distinct _ _ n) <|
    distinct_ite (filter_distinct _ _ n) <| distinct_ite (all_distinct .visit n) <|
    distinct_ite (all_distinct .visit n) <| distinct_ite (first_others_distinct "left" _ .visit n) <|
    distinct_ite (first_others_distinct "parameter" _ .visit n) <|
    distinct_ite (all_distinct .imported n) <| distinct_ite (exported_distinct n) <|
    all_distinct .visit n

/-- Outside imports a plan follows no child twice. -/
theorem plan_distinct {duty : Duty} (h : duty ≠ .imported) (n : Node) :
    (Plan.of duty n).indices.Nodup := by
  cases duty with
  | visit => exact visit_distinct n
  | pattern hoisted =>
    exact distinct_ite List.nodup_nil <| distinct_ite (all_distinct _ n) <|
      distinct_ite (two_fields_distinct (by decide) _ _ n) <|
      distinct_ite (two_fields_distinct (by decide) _ _ n) (visit_distinct n)
  | parameters => exact all_distinct _ n
  | body => exact distinct_ite (all_distinct _ n) (visit_distinct n)
  | declarator hoisted => exact two_fields_distinct (by decide) _ _ n
  | exportClause => exact all_distinct _ n
  | exportSpecifier =>
    rw [Plan.of, Plan.exportSpecifier]
    split
    · refine distinct_ite ?_ List.nodup_nil
      rw [Plan.indices, Plan.steps, map_fst_inField]
      cases n.fieldIndex? "name" <;> simp
    · exact List.nodup_nil
  | imported => exact absurd rfl h

theorem step_unique {duty : Duty} (h : duty ≠ .imported) {n : Node} {i : Nat} {d e : Duty}
    (hd : (i, d) ∈ (Plan.of duty n).steps) (he : (i, e) ∈ (Plan.of duty n).steps) : d = e :=
  congrArg Prod.snd (List.inj_on_of_nodup_map (plan_distinct h n) hd he rfl)

/-! ### Sites -/

/-- The walk comes to the site with the duty. -/
inductive Reaches (program : Node) : Site → Duty → Prop
  | top {t : Site} (child : t ∈ (Site.root program).children) : Reaches program t .visit
  | step {s t : Site} {i : Nat} {duty d : Duty} (above : Reaches program s duty)
      (child : t ∈ s.children) (index : t.path = i :: s.path)
      (step : (i, d) ∈ (Plan.of duty s.node).steps) : Reaches program t d

theorem eq_of_mem_children {s t u : Site} (ht : t ∈ s.children) (hu : u ∈ s.children)
    (hpath : t.path = u.path) : t = u := by
  obtain ⟨i, hi, hti⟩ := Site.mem_children.1 ht
  obtain ⟨j, hj, huj⟩ := Site.mem_children.1 hu
  rw [hti, huj, List.cons.injEq] at hpath
  obtain ⟨rfl, -⟩ := hpath
  obtain ⟨_, _⟩ := t
  obtain ⟨_, _⟩ := u
  cases hti
  cases huj
  exact congrArg (Site.mk _) (Option.some.inj (hi.symm.trans hj))

section

variable {program : Node} {s t : Site} {d e : Duty}

theorem Reaches.path_ne_nil (h : Reaches program s d) : s.path ≠ [] := by
  cases h with
  | top child =>
    obtain ⟨i, -, hi⟩ := Site.mem_children.1 child
    rw [hi]
    exact List.cons_ne_nil _ _
  | step _ _ index _ =>
    rw [index]
    exact List.cons_ne_nil _ _

theorem Reaches.mem_sites (h : Reaches program s d) : s ∈ program.sites [] := by
  induction h with
  | top child => exact Site.mem_sites_of_mem_children (Site.self_mem_sites program []) child
  | step _ child _ _ ih => exact Site.mem_sites_of_mem_children ih child

/-- Where the walk comes to, the path tells the site. -/
theorem Reaches.eq_of_path (h : Reaches program s d) (h' : Reaches program t e)
    (hpath : t.path = s.path) : t = s := by
  induction h generalizing t e with
  | top child =>
    cases h' with
    | top child' => exact eq_of_mem_children child' child hpath
    | step above _ index _ =>
      obtain ⟨i, -, hi⟩ := Site.mem_children.1 child
      rw [index, hi, List.cons.injEq] at hpath
      exact absurd hpath.2 above.path_ne_nil
  | step above child index _ ih =>
    cases h' with
    | top child' =>
      obtain ⟨i, -, hi⟩ := Site.mem_children.1 child'
      rw [index, hi, List.cons.injEq] at hpath
      exact absurd hpath.2.symm above.path_ne_nil
    | step above' child' index' _ =>
      have hpaths := hpath
      rw [index, index', List.cons.injEq] at hpaths
      obtain rfl := ih above' hpaths.2
      exact eq_of_mem_children child' child hpath

/-- An import names what it brings in by patterns that are identifiers; all other steps below it go on
with the import. -/
theorem imported_step {n c : Node} {i : Nat} (hc : n.children[i]? = some c)
    (h : (i, d) ∈ (Plan.of .imported n).steps) :
    d = .imported ∨ (d = .pattern true ∧ c.isIdentifier = true) := by
  rcases List.mem_append.1 h with h | h
  · right
    have hname : ∀ field, (i, d) ∈ Plan.nameIn field true n →
        d = .pattern true ∧ c.isIdentifier = true := by
      intro field hi
      obtain ⟨hd, c', hc', hid⟩ := of_mem_nameIn hi
      exact ⟨hd, Option.some.inj (hc.symm.trans hc') ▸ hid⟩
    split at h
    · split at h
      · exact hname "alias" h
      · exact hname "name" h
    · split at h
      · obtain ⟨hd, j, c', hj, hc', hid⟩ := of_mem_filterFrom h
        rw [Nat.zero_add] at hj
        subst hj
        exact ⟨hd, Option.some.inj (hc.symm.trans hc') ▸ hid⟩
      · cases h
  · rw [Plan.all, allFrom_eq_filterFrom] at h
    exact .inl (of_mem_filterFrom h).1

/-- Outside imports the walk comes to a site with one duty. -/
theorem Reaches.unique (h : Reaches program s d) (hd : d ≠ .imported)
    (hname : d = .pattern true → s.node.isIdentifier = false) (h' : Reaches program s e) : e = d := by
  induction h generalizing e with
  | top child =>
    cases h' with
    | top => rfl
    | step above _ index _ =>
      obtain ⟨i, -, hi⟩ := Site.mem_children.1 child
      rw [index, List.cons.injEq] at hi
      exact absurd hi.2 above.path_ne_nil
  | @step s t i duty d above child index step ih =>
    obtain ⟨j, hj, hpath⟩ := Site.mem_children.1 child
    rw [index, List.cons.injEq] at hpath
    obtain ⟨rfl, -⟩ := hpath
    cases h' with
    | top child' =>
      obtain ⟨j, -, hpath⟩ := Site.mem_children.1 child'
      rw [index, List.cons.injEq] at hpath
      exact absurd hpath.2 above.path_ne_nil
    | @step s' _ i' duty' _ above' child' index' step' =>
      rw [index, List.cons.injEq] at index'
      obtain ⟨rfl, hs⟩ := index'
      obtain rfl := above'.eq_of_path above hs
      have hduty : duty ≠ .imported := by
        rintro rfl
        rcases imported_step hj step with rfl | ⟨rfl, hid⟩
        · exact hd rfl
        · rw [hname rfl] at hid
          cases hid
      have hplain : duty = .pattern true → s.node.isIdentifier = false := by
        rintro rfl
        by_contra hid
        rw [Plan.of, Plan.pattern, if_pos (by simpa using hid)] at step
        cases step
      obtain rfl := ih hduty hplain above'
      exact step_unique hduty step' step

/-- To a site that opens a scope the walk comes with one duty. -/
theorem Reaches.unique_of_enclose (h : Reaches program s d) {outer inner : List Step} {kind : Kind}
    (hplan : Plan.of d s.node = .enclose outer kind inner) (h' : Reaches program s e) : e = d := by
  refine h.unique ?_ ?_ h'
  · rintro rfl
    cases hplan
  · rintro rfl
    by_contra hid
    rw [Plan.of, Plan.pattern, if_pos (by simpa using hid)] at hplan
    cases hplan

end

/-! ### Functions -/

/-- What the plan of a function follows around its scope: the name. -/
def outerSteps (n : Node) : List Step :=
  (if Plan.isFunctionDeclaration n.kind then Plan.nameIn "name" false n else []) ++
    (if n.kind == "method_definition" then Plan.inField "name" .visit n else [])

/-- What it follows in its scope. -/
def innerSteps (n : Node) : List Step :=
  (if Plan.isFunctionExpression n.kind then Plan.nameIn "name" false n else []) ++
    Plan.inField "parameter" (.pattern false) n ++ Plan.inField "parameters" .parameters n ++
    Plan.inField "body" .body n

theorem function_eq (n : Node) :
    Plan.function n = .enclose (outerSteps n) .function (innerSteps n) := rfl

/-- The walk comes to the site in order to evaluate it. -/
def Evaluates (program : Node) (s : Site) : Prop :=
  ∃ duty, Reaches program s duty ∧ Plan.of duty s.node = Plan.visit s.node

theorem visit_of_isFunction {n : Node} (h : n.isFunction = true) : Plan.visit n = Plan.function n := by
  have hid : n.isIdentifier = false := by
    unfold Node.isFunction at h
    unfold Node.isIdentifier
    split at h
    · next hrole => rw [hrole]
    · cases h
  rw [Plan.visit, if_neg (by simp [hid]), if_pos h]

/-- A function that is evaluated is met in no other way. -/
theorem Evaluates.plan_eq {program : Node} {s : Site} (h : Evaluates program s)
    (hf : s.node.isFunction = true) {d : Duty} (hd : Reaches program s d) :
    Plan.of d s.node = Plan.function s.node := by
  obtain ⟨duty, hreach, hplan⟩ := h
  rw [visit_of_isFunction hf] at hplan
  rw [hreach.unique_of_enclose hplan hd, hplan]

/-! ### Uses and bindings -/

def Item.use? : Item → Option Occurrence
  | .use o => some o
  | _ => none

def usesIn (items : List Item) : List Occurrence := (leavesOf items).filterMap Item.use?

def Item.bound? : Item → Option Occurrence
  | .bind _ o => some o
  | _ => none

def bindsIn (items : List Item) : List Occurrence := (leavesOf items).filterMap Item.bound?

mutual

theorem Item.map_use_references (tables : List Table) : (item : Item) →
    (item.references tables).map Reference.use = item.leaves.filterMap Item.use?
  | .use _ => rfl
  | .bind _ _ => rfl
  | .scope kind items => map_use_referencesOf (landing kind items :: tables) items

theorem map_use_referencesOf (tables : List Table) : (items : List Item) →
    (referencesOf tables items).map Reference.use = usesIn items
  | [] => rfl
  | item :: rest => by
    rw [referencesOf, List.map_append, item.map_use_references, map_use_referencesOf tables rest, usesIn,
      usesIn, leavesOf, List.filterMap_append]

end

theorem eq_of_mentions {leaf : Item} {o o' : Occurrence} (h : leaf.Mentions o)
    (h' : leaf.Mentions o') : o = o' := by
  rcases h with rfl | ⟨_, rfl⟩ <;> rcases h' with h' | ⟨_, h'⟩ <;> cases h' <;> rfl

/-- What a subtree mentions lies in it. -/
theorem suffix_of_mentions {n : Node} {duty : Duty} {path : Path} {leaf : Item} {o : Occurrence}
    (h : leaf ∈ leavesOf (contribution n duty path)) (ho : leaf.Mentions o) : path <:+ o.path := by
  induction n using Node.childInduction generalizing duty path with
  | step n ih =>
    rcases mem_leavesOf_contribution (s := ⟨path, n⟩) h with ⟨o', ho', hm⟩ | ⟨t, ht, d, hd⟩
    · have hpath : o.path = path := by rw [eq_of_mentions ho hm, (Site.eq_of_occurrence? ho').2.1]
      exact hpath ▸ List.suffix_rfl
    · obtain ⟨i, -, hi⟩ := Site.mem_children.1 ht
      have hbelow := ih _ (Site.node_mem_of_mem_children ht) hd
      rw [hi] at hbelow
      exact (List.suffix_cons i path).trans hbelow

theorem follow_cons (s : Site) (st : Step) (steps : List Step) :
    follow s (st :: steps) = follow s [st] ++ follow s steps := follow_append [st] steps

theorem follow_step {s : Site} {i : Nat} {c : Node} (hc : s.node.children[i]? = some c)
    (duty : Duty) : follow s [(i, duty)] = contribution c duty (i :: s.path) := by
  simp [follow, followSteps, getElem?_contributions, hc]

theorem follow_step_of_none {s : Site} {i : Nat} (hc : s.node.children[i]? = none)
    (duty : Duty) : follow s [(i, duty)] = [] := by
  simp [follow, followSteps, getElem?_contributions, hc]

/-! ### Mentions -/

def Item.occurrence? : Item → Option Occurrence
  | .use o => some o
  | .bind _ o => some o
  | .scope _ _ => none

/-- All occurrences that the items use or bind, in visiting order. -/
def mentionsIn (items : List Item) : List Occurrence := (leavesOf items).filterMap Item.occurrence?

theorem mem_mentionsIn {items : List Item} {o : Occurrence} :
    o ∈ mentionsIn items ↔ ∃ leaf ∈ leavesOf items, leaf.Mentions o := by
  have hmentions : ∀ leaf : Item, leaf.occurrence? = some o ↔ leaf.Mentions o := by
    intro leaf
    cases leaf <;> simp [Item.occurrence?, Item.Mentions]
  simp only [mentionsIn, List.mem_filterMap, hmentions]

@[simp] theorem mentionsIn_append (a b : List Item) :
    mentionsIn (a ++ b) = mentionsIn a ++ mentionsIn b := by
  simp [mentionsIn]

@[simp] theorem mentionsIn_scope (kind : Kind) (items : List Item) :
    mentionsIn [.scope kind items] = mentionsIn items := by
  simp [mentionsIn]

theorem uses_binds_perm (items : List Item) :
    (usesIn items ++ bindsIn items).Perm (mentionsIn items) := by
  unfold usesIn bindsIn mentionsIn
  induction leavesOf items with
  | nil => exact .refl _
  | cons leaf rest ih =>
    cases leaf with
    | use o => exact ih.cons o
    | bind hoisted o => exact List.perm_middle.trans (ih.cons o)
    | scope kind items => exact ih

theorem suffix_of_mem_follow {s : Site} {st : Step} {o : Occurrence}
    (h : o ∈ mentionsIn (follow s [st])) : st.1 :: s.path <:+ o.path := by
  obtain ⟨i, duty⟩ := st
  cases hc : s.node.children[i]? with
  | none =>
    rw [follow_step_of_none hc] at h
    cases h
  | some c =>
    rw [follow_step hc, mem_mentionsIn] at h
    obtain ⟨leaf, hleaf, ho⟩ := h
    exact suffix_of_mentions hleaf ho

/-- Steps to different children mention different occurrences. -/
theorem mentionsIn_follow_distinct {s : Site} {steps : List Step} (hsteps : (steps.map Prod.fst).Nodup)
    (h : ∀ st ∈ steps, ((mentionsIn (follow s [st])).map Occurrence.path).Nodup) :
    ((mentionsIn (follow s steps)).map Occurrence.path).Nodup := by
  induction steps with
  | nil => exact List.nodup_nil
  | cons st rest ih =>
    rw [List.map_cons, List.nodup_cons] at hsteps
    rw [follow_cons, mentionsIn_append, List.map_append, List.nodup_append']
    refine ⟨h st List.mem_cons_self, ih hsteps.2 fun st' h' => h st' (List.mem_cons_of_mem _ h'), ?_⟩
    intro x hx hx'
    obtain ⟨o, ho, rfl⟩ := List.mem_map.1 hx
    obtain ⟨o', ho', hpath⟩ := List.mem_map.1 hx'
    obtain ⟨st', hst', ho'⟩ : ∃ st' ∈ rest, o' ∈ mentionsIn (follow s [st']) := by
      rw [mem_mentionsIn, follow, followSteps] at ho'
      obtain ⟨leaf, hleaf, ho'⟩ := ho'
      obtain ⟨st', hst', hleaf⟩ := mem_leavesOf_flatMap.1 hleaf
      refine ⟨st', hst', ?_⟩
      rw [mem_mentionsIn, follow, followSteps, List.flatMap_singleton]
      exact ⟨leaf, hleaf, ho'⟩
    have hsuffix := suffix_of_mem_follow ho'
    rw [hpath] at hsuffix
    exact hsteps.1 (eq_of_suffix hsuffix (suffix_of_mem_follow ho) ▸ List.mem_map_of_mem hst')

/-- One node of an import binds some of its children. -/
theorem importBindings_sublist (s : Site) :
    ((mentionsIn (importBindings s)).map Occurrence.path).Sublist (s.children.map Site.path) := by
  have hbinds : ∀ os : List Occurrence, mentionsIn (os.map (.bind true)) = os := by
    intro os
    simp [mentionsIn, leavesOf_eq, Item.leaves, List.flatMap_map, List.filterMap_flatMap,
      Item.occurrence?]
  have hchildren : ∀ ts : List Site,
      ((ts.filterMap Site.occurrence?).map Occurrence.path).Sublist (ts.map Site.path) := by
    intro ts
    induction ts with
    | nil => exact .slnil
    | cons t rest ih =>
      rw [List.filterMap_cons, List.map_cons]
      split
      · exact ih.cons _
      · next o ho =>
        rw [List.map_cons, (Site.eq_of_occurrence? ho).2.1]
        exact ih.cons_cons _
  have hname : ∀ field, ((nameIn field s).map Occurrence.path).Sublist (s.children.map Site.path) := by
    intro field
    rw [nameIn]
    cases ht : s.children.find? (·.node.inField field) with
    | none => exact List.nil_sublist _
    | some t =>
      have hsingle := (List.singleton_sublist.2 (List.mem_of_find?_eq_some ht)).map Site.path
      rw [Option.bind_some]
      cases ho : t.occurrence? with
      | none => exact List.nil_sublist _
      | some o =>
        have hone := hchildren [t]
        rw [List.filterMap_cons_some ho] at hone
        exact hone.trans hsingle
  rw [importBindings]
  split_ifs
  · rw [hbinds]
    exact hname "alias"
  · rw [hbinds]
    exact hname "name"
  · rw [hbinds]
    exact hchildren s.children
  · exact List.nil_sublist _

theorem mentionsIn_imported_distinct (n : Node) (path : Path) :
    ((mentionsIn (contribution n .imported path)).map Occurrence.path).Nodup := by
  have hflat : ∀ ss : List Site, (mentionsIn (ss.flatMap importBindings)).map Occurrence.path =
      ss.flatMap fun s => (mentionsIn (importBindings s)).map Occurrence.path := by
    intro ss
    induction ss with
    | nil => rfl
    | cons s rest ih =>
      rw [List.flatMap_cons, mentionsIn_append, List.map_append, ih, List.flatMap_cons]
  rw [contribution_eq_obliged n .imported path, obliged, hflat, List.nodup_flatMap]
  constructor
  · intro s _
    exact (importBindings_sublist s).nodup (Site.children_distinct s)
  · have hsites := sites_distinct n path
    rw [List.Nodup, List.pairwise_map] at hsites
    apply hsites.imp
    intro s t hne x hs ht
    obtain ⟨u, hu, hux⟩ := List.mem_map.1 ((importBindings_sublist s).subset hs)
    obtain ⟨v, hv, hvx⟩ := List.mem_map.1 ((importBindings_sublist t).subset ht)
    obtain ⟨i, -, hi⟩ := Site.mem_children.1 hu
    obtain ⟨j, -, hj⟩ := Site.mem_children.1 hv
    rw [← hux, hi, hj] at hvx
    exact hne (List.cons.inj hvx).2.symm

/-- No subtree mentions an occurrence twice. -/
theorem mentionsIn_distinct (n : Node) (duty : Duty) (path : Path) :
    ((mentionsIn (contribution n duty path)).map Occurrence.path).Nodup := by
  induction n using Node.childInduction generalizing duty path with
  | step n ih =>
    by_cases hduty : duty = .imported
    · rw [hduty]
      exact mentionsIn_imported_distinct n path
    have hsteps := plan_distinct hduty n
    have hfollow : ∀ st ∈ (Plan.of duty n).steps,
        ((mentionsIn (follow ⟨path, n⟩ [st])).map Occurrence.path).Nodup := by
      rintro ⟨i, d⟩ -
      cases hc : n.children[i]? with
      | none =>
        rw [follow_step_of_none hc]
        exact List.nodup_nil
      | some c =>
        rw [follow_step hc]
        exact ih c (List.mem_of_getElem? hc) d _
    have hself : ∀ f : Occurrence → Item, (∀ o, (f o).leaves = [f o]) →
        (∀ o, (f o).occurrence? = some o) →
          ((mentionsIn (occurrenceItems f n path)).map Occurrence.path).Nodup := by
      intro f hleaves hf
      rw [occurrenceItems]
      cases (Site.mk path n).occurrence? with
      | none => exact List.nodup_nil
      | some o => simp [mentionsIn, hleaves, hf]
    rw [contribution_eq_planned ⟨path, n⟩]
    cases hp : Plan.of duty n with
    | use => exact hself .use (fun _ => rfl) fun _ => rfl
    | bind hoisted => exact hself (.bind hoisted) (fun _ => rfl) fun _ => rfl
    | follow outer =>
      rw [hp] at hsteps hfollow
      exact mentionsIn_follow_distinct hsteps hfollow
    | enclose outer kind inner =>
      rw [hp] at hsteps hfollow
      rw [planned_enclose, mentionsIn_append, mentionsIn_scope, ← mentionsIn_append, ← follow_append]
      exact mentionsIn_follow_distinct hsteps hfollow

theorem mentionsIn_outline_distinct (program : Node) :
    ((mentionsIn (outline program)).map Occurrence.path).Nodup := by
  refine mentionsIn_follow_distinct (s := Site.root program) (all_distinct .visit program) ?_
  rintro ⟨i, d⟩ -
  cases hc : program.children[i]? with
  | none =>
    rw [follow_step_of_none hc]
    exact List.nodup_nil
  | some c =>
    rw [follow_step hc]
    exact mentionsIn_distinct c d _

/-- A use has one reference. -/
theorem eq_of_use_eq {program : Node} {r r' : Reference} (h : r ∈ (analyze program).references)
    (h' : r' ∈ (analyze program).references) (huse : r.use = r'.use) : r = r' := by
  rw [(references_perm program).mem_iff, moduleReferences] at h h'
  refine List.inj_on_of_nodup_map ?_ h h' huse
  rw [map_use_referencesOf]
  have hdistinct := (mentionsIn_outline_distinct program).of_map _
  exact ((uses_binds_perm _).nodup_iff.2 hdistinct).of_append_left

/-! ### What a site adds -/

theorem of_mem_leavesOf_follow {s : Site} {steps : List Step} {leaf : Item}
    (h : leaf ∈ leavesOf (follow s steps)) : ∃ i d c, (i, d) ∈ steps ∧
      s.node.children[i]? = some c ∧ leaf ∈ leavesOf (contribution c d (i :: s.path)) := by
  rw [follow, followSteps, mem_leavesOf_flatMap] at h
  obtain ⟨⟨i, d⟩, hstep, h⟩ := h
  rw [getElem?_contributions] at h
  cases hc : s.node.children[i]? with
  | none =>
    rw [hc] at h
    cases h
  | some c =>
    rw [hc] at h
    exact ⟨i, d, c, hstep, hc, h⟩

theorem of_mem_leavesOf_contribution {s : Site} {duty : Duty} {leaf : Item}
    (h : leaf ∈ leavesOf (contribution s.node duty s.path)) :
    (∃ o, s.occurrence? = some o ∧ leaf.Mentions o) ∨ ∃ i d c, (i, d) ∈ (Plan.of duty s.node).steps ∧
      s.node.children[i]? = some c ∧ leaf ∈ leavesOf (contribution c d (i :: s.path)) := by
  rw [contribution_eq_planned] at h
  cases hp : Plan.of duty s.node with
  | use =>
    rw [hp] at h
    obtain ⟨o, ho, rfl⟩ := mem_leavesOf_occurrenceItems (fun _ => rfl) h
    exact .inl ⟨o, ho, .inl rfl⟩
  | bind hoisted =>
    rw [hp] at h
    obtain ⟨o, ho, rfl⟩ := mem_leavesOf_occurrenceItems (fun _ => rfl) h
    exact .inl ⟨o, ho, .inr ⟨hoisted, rfl⟩⟩
  | follow outer =>
    rw [hp] at h
    exact .inr (of_mem_leavesOf_follow h)
  | enclose outer kind inner =>
    rw [hp, planned_enclose, leavesOf_append, leavesOf, leavesOf, List.append_nil, Item.leaves,
      ← leavesOf_append, ← follow_append] at h
    exact .inr (of_mem_leavesOf_follow h)

theorem eq_use_of_visit {n : Node} (hid : n.isIdentifier = true) {path : Path} {leaf : Item}
    (h : leaf ∈ leavesOf (contribution n .visit path)) : ∃ o, leaf = .use o := by
  rw [contribution_eq_planned ⟨path, n⟩, Plan.of, Plan.visit, if_pos hid] at h
  obtain ⟨o, -, rfl⟩ := mem_leavesOf_occurrenceItems (fun _ => rfl) h
  exact ⟨o, rfl⟩

theorem eq_bind_of_pattern {n : Node} (hid : n.isIdentifier = true) {hoisted : Bool} {path : Path}
    {leaf : Item} (h : leaf ∈ leavesOf (contribution n (.pattern hoisted) path)) :
    ∃ o, leaf = .bind hoisted o := by
  rw [contribution_eq_planned ⟨path, n⟩, Plan.of, Plan.pattern, if_pos hid] at h
  obtain ⟨o, -, rfl⟩ := mem_leavesOf_occurrenceItems (fun _ => rfl) h
  exact ⟨o, rfl⟩

/-- What a module mentions below a site, the site adds, under a duty with which the walk comes to it. -/
theorem exists_reaches {program : Node} {leaf : Item} (hleaf : leaf ∈ leavesOf (outline program))
    {o : Occurrence} (ho : leaf.Mentions o) {s : Site} (hs : s ∈ program.sites [])
    (hne : s.path ≠ []) (hbelow : s.path <:+ o.path) :
    ∃ d, Reaches program s d ∧ leaf ∈ leavesOf (contribution s.node d s.path) := by
  -- the path of the occurrence tells which child adds the leaf
  have hchild : ∀ {t : Site} {path : Path} {i j : Nat} {c : Node} {d : Duty}, t.path = i :: path →
      t.path <:+ o.path → leaf ∈ leavesOf (contribution c d (j :: path)) → i = j := by
    intro t path i j c d hpath ht hj
    rw [hpath] at ht
    exact eq_of_suffix ht (suffix_of_mentions hj ho)
  revert hbelow
  refine Site.belowInduction (motive := fun s => s.path <:+ o.path →
    ∃ d, Reaches program s d ∧ leaf ∈ leavesOf (contribution s.node d s.path)) ?_ ?_ hs hne
  · intro t ht hbelow
    obtain ⟨i, hi, hpath⟩ := Site.mem_children.1 ht
    obtain ⟨j, d, c, hstep, hc, hj⟩ := of_mem_leavesOf_follow (s := Site.root program) hleaf
    obtain rfl := hchild hpath hbelow hj
    obtain rfl : c = t.node := Option.some.inj (hc.symm.trans hi)
    rw [Plan.all, allFrom_eq_filterFrom] at hstep
    obtain ⟨rfl, -⟩ := of_mem_filterFrom hstep
    exact ⟨.visit, .top ht, hpath ▸ hj⟩
  · intro s ih t ht hbelow
    obtain ⟨i, hi, hpath⟩ := Site.mem_children.1 ht
    have habove : i :: s.path <:+ o.path := hpath ▸ hbelow
    obtain ⟨d, hreach, hmem⟩ := ih ((List.suffix_cons i s.path).trans habove)
    rcases of_mem_leavesOf_contribution hmem with ⟨o', ho', hm⟩ | ⟨j, e, c, hstep, hc, hj⟩
    · rw [eq_of_mentions ho hm, (Site.eq_of_occurrence? ho').2.1] at habove
      exact absurd habove (not_cons_suffix i s.path)
    · obtain rfl := hchild hpath hbelow hj
      obtain rfl : c = t.node := Option.some.inj (hc.symm.trans hi)
      exact ⟨e, .step hreach ht hpath hstep, hpath ▸ hj⟩

theorem mem_referencesOf_follow {s : Site} {steps : List Step} {i : Nat} {d : Duty} {c : Node}
    (hstep : (i, d) ∈ steps) (hc : s.node.children[i]? = some c) {tables : List Table} {r : Reference}
    (h : r ∈ referencesOf tables (contribution c d (i :: s.path))) :
    r ∈ referencesOf tables (follow s steps) := by
  obtain ⟨before, after, rfl⟩ := List.append_of_mem hstep
  rw [follow_append, follow_cons, follow_step hc]
  simp [h]

/-- Where the walk comes to, what the site adds is resolved under the tables of some scopes. -/
theorem Reaches.exists_tables {program : Node} {s : Site} {d : Duty} (h : Reaches program s d) :
    ∃ tables, referencesOf tables (contribution s.node d s.path) ⊆ moduleReferences program := by
  induction h with
  | @top t child =>
    obtain ⟨i, hi, hpath⟩ := Site.mem_children.1 child
    refine ⟨[landing .module (outline program)], fun r hr => ?_⟩
    rw [hpath] at hr
    exact mem_referencesOf_follow (s := Site.root program) (mem_all_step hi .visit) hi hr
  | @step s t i duty d _ child index step ih =>
    obtain ⟨tables, ih⟩ := ih
    obtain ⟨j, hj, hpath⟩ := Site.mem_children.1 child
    rw [index, List.cons.injEq] at hpath
    obtain ⟨rfl, -⟩ := hpath
    rw [contribution_eq_planned] at ih
    rw [index]
    cases hp : Plan.of duty s.node with
    | use | bind =>
      rw [hp] at step
      cases step
    | follow outer =>
      rw [hp] at step ih
      exact ⟨tables, fun r hr => ih (mem_referencesOf_follow step hj hr)⟩
    | enclose outer kind inner =>
      rw [hp] at step ih
      simp at ih
      rcases List.mem_append.1 step with step | step
      · exact ⟨tables, fun r hr => ih.1 (mem_referencesOf_follow step hj hr)⟩
      · exact ⟨landing kind (follow s inner) :: tables, fun r hr =>
          ih.2 (mem_referencesOf_follow step hj hr)⟩

end TierSplit.Scope

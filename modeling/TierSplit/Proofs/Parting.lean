import TierSplit.Proofs.Reach

/-! Two uses of one name. They read the same declaration, unless a scope that holds one of them and not
the other declares what the one in it reads. What is used under a node that opens a scope is used in
the scope, but for what the name of a method evaluates: that name may be computed. -/

namespace TierSplit.Scope

open Syntax

/-! ### Scopes -/

/-- The site opens a scope of the kind with the items in it. -/
def Opens (program : Node) (t : Site) (kind : Kind) (items : List Item) : Prop :=
  ∃ duty outer inner, Reaches program t duty ∧ Plan.of duty t.node = .enclose outer kind inner ∧
    items = follow t inner

/-- The site opens a scope with the use in it, and the first declaration of the name there is the
occurrence. -/
structure Captures (program : Node) (t : Site) (items : List Item) (u d : Occurrence) : Prop where
  opens : ∃ kind, Opens program t kind items ∧
    (landing kind items).find? (fun o => o.name = u.name) = some d
  holds : .use u ∈ leavesOf items

/-- The occurrence lies in the name of the method that the site is. In `({[x](a = x) { var x }})` the name
reads from around the method, the default value from its body. -/
def InMethodName (t : Site) (o : Occurrence) : Prop :=
  t.node.kind = "method_definition" ∧
    ∃ c ∈ t.children, c.node.inField "name" = true ∧ c.path <:+ o.path

/-- A scope captures the first use and does not hold the second one. The node that opens it is around
the first use and its declaration; the second one is outside this node or in its name. -/
def Parts (program : Node) (u d u' : Occurrence) : Prop :=
  ∃ t items, Captures program t items u d ∧ .use u' ∉ leavesOf items ∧
    (t.path <:+ u'.path → InMethodName t u')

section

variable {program : Node} {t : Site} {kind : Kind} {items : List Item}

theorem Opens.path_ne_nil (h : Opens program t kind items) : t.path ≠ [] := by
  obtain ⟨_, _, _, hreach, -⟩ := h
  exact hreach.path_ne_nil

theorem Opens.mem_sites (h : Opens program t kind items) : t ∈ program.sites [] := by
  obtain ⟨_, _, _, hreach, -⟩ := h
  exact hreach.mem_sites

theorem Opens.suffix (h : Opens program t kind items) {leaf : Item} (hleaf : leaf ∈ leavesOf items)
    {o : Occurrence} (ho : leaf.Mentions o) : t.path <:+ o.path := by
  obtain ⟨_, _, _, -, -, rfl⟩ := h
  obtain ⟨i, d, c, -, -, hleaf⟩ := of_mem_leavesOf_follow hleaf
  exact (List.suffix_cons i t.path).trans (suffix_of_mentions hleaf ho)

theorem Captures.suffix {u d : Occurrence} (h : Captures program t items u d) :
    t.path <:+ u.path ∧ t.path <:+ d.path := by
  obtain ⟨kind, hopens, hfirst⟩ := h.opens
  obtain ⟨hoisted, hbind⟩ := bind_mem_of_landing (List.mem_of_find?_eq_some hfirst)
  exact ⟨hopens.suffix h.holds (.inl rfl), hopens.suffix hbind (.inr ⟨hoisted, rfl⟩)⟩

end

/-! ### Around a scope -/

def Plan.around : Plan → List Step
  | .enclose outer _ _ => outer
  | .use | .bind _ | .follow _ => []

/-- Around its scope the plan follows at most the name of the node. -/
def Plan.NameAround (n : Node) (plan : Plan) : Prop := plan.around = [] ∨ plan.around = outerSteps n

theorem nameAround_ite {n : Node} {p : Prop} [Decidable p] {a b : Plan} (ha : a.NameAround n)
    (hb : b.NameAround n) : (if p then a else b).NameAround n := by
  split
  · exact ha
  · exact hb

theorem visit_nameAround (n : Node) : (Plan.visit n).NameAround n := by
  have hclass : (Plan.classLike n).NameAround n := by
    refine nameAround_ite (.inl rfl) ?_
    split <;> exact .inl rfl
  exact nameAround_ite (.inl rfl) <| nameAround_ite (.inr rfl) <| nameAround_ite hclass <|
    nameAround_ite (.inl rfl) <| nameAround_ite (.inl rfl) <| nameAround_ite (.inl rfl) <|
    nameAround_ite (.inl rfl) <| nameAround_ite (.inl rfl) <| nameAround_ite (.inl rfl) <|
    nameAround_ite (.inl rfl) <| nameAround_ite (.inl rfl) <| .inl rfl

theorem plan_nameAround (duty : Duty) (n : Node) : (Plan.of duty n).NameAround n := by
  cases duty with
  | visit => exact visit_nameAround n
  | pattern hoisted =>
    exact nameAround_ite (.inl rfl) <| nameAround_ite (.inl rfl) <| nameAround_ite (.inl rfl) <|
      nameAround_ite (.inl rfl) <| visit_nameAround n
  | body => exact nameAround_ite (.inl rfl) (visit_nameAround n)
  | exportSpecifier =>
    rw [Plan.of, Plan.exportSpecifier]
    split
    · exact nameAround_ite (.inl rfl) (.inl rfl)
    · exact .inl rfl
  | parameters | declarator | exportClause | imported => exact .inl rfl

/-- A use in the name that a function has outside its scope is in the name of a method. -/
theorem inMethodName_of_mem_outer {t : Site} {u : Occurrence}
    (h : .use u ∈ leavesOf (follow t (outerSteps t.node))) : InMethodName t u := by
  obtain ⟨i, d, c, hstep, hc, hleaf⟩ := of_mem_leavesOf_follow h
  have hsuffix := suffix_of_mentions hleaf (.inl rfl)
  rcases List.mem_append.1 hstep with hstep | hstep
  · split at hstep
    · obtain ⟨rfl, c', hc', hid⟩ := of_mem_nameIn hstep
      obtain rfl := Option.some.inj (hc.symm.trans hc')
      obtain ⟨o, ho⟩ := eq_bind_of_pattern hid hleaf
      cases ho
    · cases hstep
  · split at hstep
    · next hkind =>
      refine ⟨beq_iff_eq.1 hkind, ⟨i :: t.path, c⟩, Site.mem_children.2 ⟨i, hc, rfl⟩, ?_, hsuffix⟩
      have hindex := List.mem_map_of_mem (f := Prod.fst) hstep
      rw [map_fst_inField, Option.mem_toList] at hindex
      obtain ⟨hi, hin, -⟩ := List.findIdx?_eq_some_iff_getElem.1 hindex
      obtain rfl : t.node.children[i] = c := (List.getElem?_eq_some_iff.1 hc).2
      exact hin
    · cases hstep

/-- What the module uses under a site that opens a scope, it uses in the scope or in the name of a
method. -/
theorem Opens.inMethodName {program : Node} {t : Site} {kind : Kind} {items : List Item}
    (h : Opens program t kind items) {u : Occurrence} (hu : .use u ∈ leavesOf (outline program))
    (hout : .use u ∉ leavesOf items) (hbelow : t.path <:+ u.path) : InMethodName t u := by
  obtain ⟨duty, outer, inner, hreach, hplan, rfl⟩ := h
  obtain ⟨d, hreach', hleaf⟩ := exists_reaches hu (.inl rfl) hreach.mem_sites hreach.path_ne_nil hbelow
  obtain rfl := hreach.unique_of_enclose hplan hreach'
  have hname := plan_nameAround d t.node
  rw [contribution_eq_planned, hplan, planned_enclose, leavesOf_append, List.mem_append] at hleaf
  rw [Plan.NameAround, hplan, Plan.around] at hname
  rcases hleaf with hleaf | hleaf
  · rcases hname with rfl | rfl
    · cases hleaf
    · exact inMethodName_of_mem_outer hleaf
  · simp at hleaf
    exact absurd hleaf hout

/-! ### References -/

theorem of_mem_referencesOf_follow {s : Site} {steps : List Step} {tables : List Table} {r : Reference}
    (h : r ∈ referencesOf tables (follow s steps)) : ∃ i d c, (i, d) ∈ steps ∧
      s.node.children[i]? = some c ∧ r ∈ referencesOf tables (contribution c d (i :: s.path)) := by
  induction steps with
  | nil => cases h
  | cons st rest ih =>
    rw [follow_cons, referencesOf_append, List.mem_append] at h
    rcases h with h | h
    · obtain ⟨i, d⟩ := st
      cases hc : s.node.children[i]? with
      | none =>
        rw [follow_step_of_none hc] at h
        cases h
      | some c =>
        rw [follow_step hc] at h
        exact ⟨i, d, c, List.mem_cons_self, hc, h⟩
    · obtain ⟨i, d, c, hstep, hc, h⟩ := ih h
      exact ⟨i, d, c, List.mem_cons_of_mem _ hstep, hc, h⟩

theorem referencesOf_planned_use (s : Site) (tables : List Table) :
    referencesOf tables (planned s .use) =
      s.occurrence?.toList.map fun o => ⟨o, read tables o.name⟩ := by
  rw [planned, Plan.items, occurrenceItems_eq]
  cases s.occurrence? <;> simp

theorem referencesOf_planned_bind (s : Site) (hoisted : Bool) (tables : List Table) :
    referencesOf tables (planned s (.bind hoisted)) = [] := by
  rw [planned, Plan.items, occurrenceItems_eq]
  cases s.occurrence? <;> simp

theorem suffix_of_mem_referencesOf {n : Node} {duty : Duty} {path : Path} {tables : List Table}
    {r : Reference} (h : r ∈ referencesOf tables (contribution n duty path)) : path <:+ r.use.path :=
  suffix_of_mentions (of_mem_referencesOf _ h).1 (.inl rfl)

/-- Every step leads to a child that the walk comes to so. -/
def Leads (program : Node) (s : Site) (steps : List Step) : Prop :=
  ∀ i d c, (i, d) ∈ steps → s.node.children[i]? = some c → Reaches program ⟨i :: s.path, c⟩ d

theorem Reaches.leads {program : Node} {s : Site} {duty : Duty} (h : Reaches program s duty) :
    Leads program s (Plan.of duty s.node).steps :=
  fun i _ _ hstep hc => .step h (Site.mem_children.2 ⟨i, hc, rfl⟩) rfl hstep

theorem leads_all (program : Node) : Leads program (Site.root program) (Plan.all .visit program) := by
  intro i d c hstep hc
  rw [Plan.all, allFrom_eq_filterFrom] at hstep
  obtain ⟨rfl, -⟩ := of_mem_filterFrom hstep
  exact .top (Site.mem_children.2 ⟨i, hc, rfl⟩)

section

variable {program : Node}

/-- A use under a site reads from around the site, or a scope under it captures the use. -/
theorem read_or_captures {n : Node} {path : Path} {duty : Duty} (hreach : Reaches program ⟨path, n⟩ duty)
    {tables : List Table} {r : Reference} (hr : r ∈ referencesOf tables (contribution n duty path))
    {d : Occurrence} (hd : r.declaration = some d) :
    read tables r.use.name = some d ∨
      ∃ t items, path <:+ t.path ∧ Captures program t items r.use d := by
  induction n using Node.childInduction generalizing path duty tables with
  | step n ih =>
    have hfollow : ∀ {steps tables}, steps ⊆ (Plan.of duty n).steps →
        r ∈ referencesOf tables (follow ⟨path, n⟩ steps) → read tables r.use.name = some d ∨
          ∃ t items, path <:+ t.path ∧ Captures program t items r.use d := by
      intro steps tables hsteps hr
      obtain ⟨i, e, c, hstep, hc, hr⟩ := of_mem_referencesOf_follow hr
      refine (ih c (List.mem_of_getElem? hc) (hreach.leads i e c (hsteps hstep) hc) hr).imp_right ?_
      rintro ⟨t, items, hpath, hcaptures⟩
      exact ⟨t, items, (List.suffix_cons i path).trans hpath, hcaptures⟩
    rw [contribution_eq_planned ⟨path, n⟩] at hr
    cases hp : Plan.of duty n with
    | use =>
      rw [hp, referencesOf_planned_use] at hr
      obtain ⟨o, -, rfl⟩ := List.mem_map.1 hr
      exact .inl hd
    | bind hoisted =>
      rw [hp, referencesOf_planned_bind] at hr
      cases hr
    | follow outer =>
      rw [hp] at hr hfollow
      exact hfollow (List.Subset.refl _) hr
    | enclose outer kind inner =>
      rw [hp] at hr hfollow
      simp at hr
      rcases hr with hr | hr
      · exact hfollow (List.subset_append_left _ _) hr
      · rcases hfollow (List.subset_append_right _ _) hr with hread | hcaptures
        · rcases first_or_read hread with hfirst | hread
          · exact .inr ⟨⟨path, n⟩, _, List.suffix_rfl,
              ⟨kind, ⟨duty, outer, inner, hreach, hp, rfl⟩, hfirst⟩, (of_mem_referencesOf _ hr).1⟩
          · exact .inl hread
        · exact .inr hcaptures

/-- A scope captures the first use and does not hold the second one. -/
def Apart (program : Node) (u d u' : Occurrence) : Prop :=
  ∃ t items, Captures program t items u d ∧ .use u' ∉ leavesOf items

/-- The references read the same declaration, if they are of one name, or a scope tells them apart. -/
def Agree (program : Node) (r r' : Reference) : Prop :=
  r.use.name = r'.use.name → ∀ d, r.declaration = some d → ∀ d', r'.declaration = some d' →
    d = d' ∨ Apart program r.use d r'.use ∨ Apart program r'.use d' r.use

theorem read_or_apart {s : Site} {steps : List Step} (hleads : Leads program s steps) {i : Nat}
    {e : Duty} {c : Node} (hstep : (i, e) ∈ steps) (hc : s.node.children[i]? = some c)
    {tables : List Table} {r : Reference}
    (hr : r ∈ referencesOf tables (contribution c e (i :: s.path))) {d : Occurrence}
    (hd : r.declaration = some d) {u : Occurrence} (hu : ¬i :: s.path <:+ u.path) :
    read tables r.use.name = some d ∨ Apart program r.use d u := by
  refine (read_or_captures (hleads i e c hstep hc) hr hd).imp_right ?_
  rintro ⟨t, items, hpath, hcaptures⟩
  refine ⟨t, items, hcaptures, fun hmem => ?_⟩
  obtain ⟨_, hopens, -⟩ := hcaptures.opens
  exact hu (hpath.trans (hopens.suffix hmem (.inl rfl)))

theorem agree_of_read_or_apart (tables : List Table) {r r' : Reference}
    (h : ∀ d, r.declaration = some d → read tables r.use.name = some d ∨ Apart program r.use d r'.use)
    (h' : ∀ d, r'.declaration = some d →
      read tables r'.use.name = some d ∨ Apart program r'.use d r.use) : Agree program r r' := by
  intro hname d hd d' hd'
  rcases h d hd with hread | hapart
  · rcases h' d' hd' with hread' | hapart'
    · rw [← hname, hread] at hread'
      exact .inl (Option.some.inj hread')
    · exact .inr (.inr hapart')
  · exact .inr (.inl hapart)

theorem agree_follow {s : Site} {steps : List Step} (hdistinct : (steps.map Prod.fst).Nodup)
    (hleads : Leads program s steps) {tables : List Table} {r r' : Reference}
    (hchild : ∀ i e c, (i, e) ∈ steps → s.node.children[i]? = some c →
      r ∈ referencesOf tables (contribution c e (i :: s.path)) →
      r' ∈ referencesOf tables (contribution c e (i :: s.path)) → Agree program r r')
    (hr : r ∈ referencesOf tables (follow s steps))
    (hr' : r' ∈ referencesOf tables (follow s steps)) : Agree program r r' := by
  obtain ⟨i, e, c, hstep, hc, hr⟩ := of_mem_referencesOf_follow hr
  obtain ⟨i', e', c', hstep', hc', hr'⟩ := of_mem_referencesOf_follow hr'
  by_cases hi : i = i'
  · obtain heq : (i, e) = (i', e') := List.inj_on_of_nodup_map hdistinct hstep hstep' hi
    cases heq
    obtain rfl := Option.some.inj (hc.symm.trans hc')
    exact hchild i e c hstep hc hr hr'
  · have hsuffix := suffix_of_mem_referencesOf hr
    have hsuffix' := suffix_of_mem_referencesOf hr'
    exact agree_of_read_or_apart tables
      (fun d hd => read_or_apart hleads hstep hc hr hd fun h => hi (eq_of_suffix h hsuffix'))
      fun d hd => read_or_apart hleads hstep' hc' hr' hd fun h => hi (eq_of_suffix hsuffix h)

theorem Agree.symm {r r' : Reference} (h : Agree program r r') : Agree program r' r := by
  intro hname d hd d' hd'
  exact (h hname.symm d' hd' d hd).imp Eq.symm Or.symm

/-- A reference from around a scope and one in it agree. -/
theorem agree_enclose {s : Site} {duty : Duty} (hreach : Reaches program s duty)
    {outer inner : List Step} {kind : Kind} (hplan : Plan.of duty s.node = .enclose outer kind inner)
    (hdistinct : ((outer ++ inner).map Prod.fst).Nodup) {tables : List Table} {r r' : Reference}
    (hr : r ∈ referencesOf tables (follow s outer))
    (hr' : r' ∈ referencesOf (landing kind (follow s inner) :: tables) (follow s inner)) :
    Agree program r r' := by
  have hleads := hreach.leads
  rw [hplan, Plan.steps] at hleads
  have huse' := (of_mem_referencesOf _ hr').1
  obtain ⟨i, e, c, hstep, hc, hr⟩ := of_mem_referencesOf_follow hr
  obtain ⟨i', e', c', hstep', hc', hr'⟩ := of_mem_referencesOf_follow hr'
  have hsuffix := suffix_of_mem_referencesOf hr
  have hsuffix' := suffix_of_mem_referencesOf hr'
  have hne : ∀ {j f}, (j, f) ∈ inner → i ≠ j := by
    rintro j f hj rfl
    rw [List.map_append, List.nodup_append'] at hdistinct
    exact hdistinct.2.2 (List.mem_map.2 ⟨(i, e), hstep, rfl⟩) (List.mem_map.2 ⟨(i, f), hj, rfl⟩)
  refine agree_of_read_or_apart tables (fun d hd => ?_) fun d hd => ?_
  · exact read_or_apart hleads (List.mem_append_left _ hstep) hc hr hd fun h =>
      hne hstep' (eq_of_suffix h hsuffix')
  · rcases read_or_apart hleads (List.mem_append_right _ hstep') hc' hr' hd fun h =>
      hne hstep' (eq_of_suffix hsuffix h) with hread | hapart
    · rcases first_or_read hread with hfirst | hread
      · -- the scope itself captures the use in it
        refine .inr ⟨s, _, ⟨⟨kind, ⟨duty, outer, inner, hreach, hplan, rfl⟩, hfirst⟩, huse'⟩, ?_⟩
        intro hmem
        obtain ⟨j, f, c'', hj, -, hleaf⟩ := of_mem_leavesOf_follow hmem
        exact hne hj (eq_of_suffix hsuffix (suffix_of_mentions hleaf (.inl rfl)))
      · exact .inl hread
    · exact .inr hapart

theorem referencesOf_imported (tables : List Table) (n : Node) (path : Path) :
    referencesOf tables (contribution n .imported path) = [] := by
  rw [List.eq_nil_iff_forall_not_mem]
  intro r hr
  have huse := (of_mem_referencesOf _ hr).1
  rw [contribution_eq_obliged n .imported path, obliged, mem_leavesOf_flatMap] at huse
  obtain ⟨s, -, huse⟩ := huse
  rw [importBindings] at huse
  split_ifs at huse <;> simp [leavesOf_eq] at huse

theorem agree_below {n : Node} {path : Path} {duty : Duty} (hreach : Reaches program ⟨path, n⟩ duty)
    {tables : List Table} {r r' : Reference} (hr : r ∈ referencesOf tables (contribution n duty path))
    (hr' : r' ∈ referencesOf tables (contribution n duty path)) : Agree program r r' := by
  induction n using Node.childInduction generalizing path duty tables with
  | step n ih =>
    by_cases hduty : duty = .imported
    · rw [hduty, referencesOf_imported] at hr
      cases hr
    have hdistinct := plan_distinct hduty n
    have hchild : ∀ {tables} i e c, (i, e) ∈ (Plan.of duty n).steps → n.children[i]? = some c →
        r ∈ referencesOf tables (contribution c e (i :: path)) →
        r' ∈ referencesOf tables (contribution c e (i :: path)) → Agree program r r' :=
      fun i e c hstep hc hr hr' =>
        ih c (List.mem_of_getElem? hc) (hreach.leads i e c hstep hc) hr hr'
    have hleads := hreach.leads
    rw [contribution_eq_planned ⟨path, n⟩] at hr hr'
    cases hp : Plan.of duty n with
    | use =>
      rw [hp, referencesOf_planned_use] at hr hr'
      obtain ⟨o, -, rfl⟩ := List.mem_map.1 hr
      obtain ⟨o', -, rfl⟩ := List.mem_map.1 hr'
      exact agree_of_read_or_apart tables (fun d hd => .inl hd) fun d hd => .inl hd
    | bind hoisted =>
      rw [hp, referencesOf_planned_bind] at hr
      cases hr
    | follow outer =>
      rw [hp] at hr hr' hchild hdistinct
      rw [hp] at hleads
      exact agree_follow hdistinct hleads hchild hr hr'
    | enclose outer kind inner =>
      rw [hp] at hr hr' hchild hdistinct hleads
      rw [Plan.indices, Plan.steps] at hdistinct
      simp at hr hr'
      have houter : ∀ {st}, st ∈ outer → st ∈ (Plan.enclose outer kind inner).steps :=
        List.mem_append_left inner
      have hinner : ∀ {st}, st ∈ inner → st ∈ (Plan.enclose outer kind inner).steps :=
        List.mem_append_right outer
      rcases hr with hr | hr <;> rcases hr' with hr' | hr'
      · rw [List.map_append] at hdistinct
        exact agree_follow hdistinct.of_append_left (fun i e c h => hleads i e c (houter h))
          (fun i e c h => hchild i e c (houter h)) hr hr'
      · exact agree_enclose hreach hp hdistinct hr hr'
      · exact (agree_enclose hreach hp hdistinct hr' hr).symm
      · rw [List.map_append] at hdistinct
        exact agree_follow hdistinct.of_append_right (fun i e c h => hleads i e c (hinner h))
          (fun i e c h => hchild i e c (hinner h)) hr hr'

/-- Two uses of one name read the same declaration, or a scope that holds one of them only declares
what that one reads. -/
theorem eq_or_parts {r r' : Reference} (hr : r ∈ (analyze program).references)
    (hr' : r' ∈ (analyze program).references) (hname : r.use.name = r'.use.name) {d d' : Occurrence}
    (hd : r.declaration = some d) (hd' : r'.declaration = some d') :
    d = d' ∨ Parts program r.use d r'.use ∨ Parts program r'.use d' r.use := by
  rw [(references_perm program).mem_iff, moduleReferences] at hr hr'
  have huse := (of_mem_referencesOf _ hr).1
  have huse' := (of_mem_referencesOf _ hr').1
  have hagree : Agree program r r' :=
    agree_follow (s := Site.root program) (all_distinct .visit program) (leads_all program)
      (fun i e c hstep hc hr hr' => agree_below (leads_all program i e c hstep hc) hr hr') hr hr'
  have hparts : ∀ {u d u' : Occurrence}, .use u' ∈ leavesOf (outline program) →
      Apart program u d u' → Parts program u d u' := by
    rintro u d u' hu' ⟨t, items, hcaptures, hout⟩
    obtain ⟨kind, hopens, -⟩ := hcaptures.opens
    exact ⟨t, items, hcaptures, hout, hopens.inMethodName hu' hout⟩
  exact (hagree hname d hd d' hd').imp_right (Or.imp (hparts huse') (hparts huse))

end

end TierSplit.Scope

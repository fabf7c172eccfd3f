import TierSplit.Proofs.Reach
import TierSplit.Proofs.Walk

/-! The calls of a walk whose callbacks hold a state and may raise. Each callback is made to note its
calls, which changes nothing else. The notes of a walk that comes to its end follow the tree: a node is
entered, all its children are walked unless it was skipped, and it is left. A raise ends the walk somewhere
on the way. -/

namespace TierSplit.Syntax

/-- A callback that reads and updates a state and that may raise. -/
abbrev Callback (σ ε α : Type) := List Site → Site → ExceptT ε (StateM σ) α

/-- A call of a walk, with the site and the ancestors it was given, and what came back. -/
inductive Note (ε : Type) where
  | entered (place : Lineage) (answer : Except ε Choice)
  | left (place : Lineage) (answer : Except ε Unit)

def Call.place : Call → Lineage
  | enter ancestors site => ⟨ancestors, site⟩
  | leave ancestors site => ⟨ancestors, site⟩

namespace Note

variable {ε : Type}

def call : Note ε → Call
  | entered place _ => .enter place.ancestors place.site
  | left place _ => .leave place.ancestors place.site

def raised? : Note ε → Option ε
  | entered _ (.error e) => some e
  | left _ (.error e) => some e
  | _ => none

def entered? : Note ε → Option Lineage
  | entered place _ => some place
  | left _ _ => none

def left? : Note ε → Option Lineage
  | entered _ _ => none
  | left place _ => some place

end Note

variable {σ ε : Type}

/-- A callback that also notes its calls, the latest last. -/
def noting {α : Type} (note : Lineage → Except ε α → Note ε) (f : Callback σ ε α) :
    Callback (σ × List (Note ε)) ε α :=
  fun ancestors site => ExceptT.mk fun p =>
    let answered := (f ancestors site).run.run p.1
    pure (answered.1, answered.2, p.2 ++ [note ⟨ancestors, site⟩ answered.1])

/-- Where a walk goes on below a site it entered. -/
def Choice.below : Choice → Site → List Site
  | skip, _ => []
  | descend, site => site.children

/-- The notes of a walk through siblings: each is entered, then what lies below it is walked, and then it
is left. -/
inductive Walks : List Site → List Site → List (Note ε) → Prop
  | nil {ancestors : List Site} : Walks ancestors [] []
  | node {ancestors : List Site} {site : Site} {rest : List Site} {choice : Choice}
      {below later : List (Note ε)}
      (inner : Walks (ancestors ++ [site]) (choice.below site) below)
      (next : Walks ancestors rest later) :
      Walks ancestors (site :: rest) (.entered ⟨ancestors, site⟩ (.ok choice) ::
        (below ++ .left ⟨ancestors, site⟩ (.ok ()) :: later))

/-- The notes of a walk that a raise ended: up to the last call they are those of a walk that came to its
end, and the last call, which was the next to make, raised. -/
def Breaks (ancestors sites : List Site) (e : ε) (notes : List (Note ε)) : Prop :=
  ∃ before last asked after, notes = before ++ [last] ∧ last.raised? = some e ∧
    last.call = asked.call ∧ Walks ancestors sites (before ++ asked :: after)

def Ends (ancestors sites : List Site) (notes : List (Note ε)) : Except ε Unit → Prop
  | .ok () => Walks ancestors sites notes
  | .error e => Breaks ancestors sites e notes

/-- A computation on a state with notes does what the other one does on the state alone, and the notes it
adds are those of a walk through siblings. -/
def Performs (ancestors sites : List Site) (noted : ExceptT ε (StateM (σ × List (Note ε))) Unit)
    (plain : ExceptT ε (StateM σ) Unit) : Prop :=
  ∀ s notes, ∃ result t new, noted.run.run (s, notes) = (result, t, notes ++ new) ∧
    plain.run.run s = (result, t) ∧ Ends ancestors sites new result

theorem noting_run {α : Type} (note : Lineage → Except ε α → Note ε) (f : Callback σ ε α)
    (ancestors : List Site) (site : Site) (s : σ) (notes : List (Note ε)) :
    (noting note f ancestors site).run.run (s, notes) =
      (((f ancestors site).run.run s).1, ((f ancestors site).run.run s).2,
        notes ++ [note ⟨ancestors, site⟩ ((f ancestors site).run.run s).1]) := rfl

/-! ### One walk after another -/

theorem Walks.append {ancestors sites others : List Site} {a b : List (Note ε)}
    (ha : Walks ancestors sites a) (hb : Walks ancestors others b) :
    Walks ancestors (sites ++ others) (a ++ b) := by
  induction ha with
  | nil => exact hb
  | node inner _ _ ih =>
    rw [List.cons_append, List.cons_append, List.append_assoc, List.cons_append]
    exact .node inner (ih hb)

theorem exists_walks (ancestors sites : List Site) :
    ∃ notes : List (Note ε), Walks ancestors sites notes := by
  induction sites with
  | nil => exact ⟨[], .nil⟩
  | cons site rest ih =>
    obtain ⟨later, h⟩ := ih
    exact ⟨.entered ⟨ancestors, site⟩ (.ok .skip) :: ([] ++ .left ⟨ancestors, site⟩ (.ok ()) :: later),
      .node .nil h⟩

theorem Performs.pure (ancestors : List Site) :
    Performs ancestors [] (pure () : ExceptT ε (StateM (σ × List (Note ε))) Unit) (pure ()) :=
  fun s notes => ⟨.ok (), s, [], by rw [List.append_nil]; rfl, rfl, .nil⟩

theorem Performs.bind {ancestors sites others : List Site}
    {x y : ExceptT ε (StateM (σ × List (Note ε))) Unit} {x' y' : ExceptT ε (StateM σ) Unit}
    (hx : Performs ancestors sites x x') (hy : Performs ancestors others y y') :
    Performs ancestors (sites ++ others) (x >>= fun _ => y) (x' >>= fun _ => y') := by
  intro s notes
  obtain ⟨result, t, new, hrun, hrun', hends⟩ := hx s notes
  cases result with
  | error e =>
    obtain ⟨before, last, asked, after, rfl, hlast, hcall, hwalks⟩ := hends
    -- The raise was in the first part, so any walk through the rest completes what was noted.
    obtain ⟨rest, hrest⟩ : ∃ rest : List (Note ε), Walks ancestors others rest :=
      exists_walks ancestors others
    refine ⟨_, _, _, run_bind_of_error hrun _, run_bind_of_error hrun' _, before, last, asked,
      after ++ rest, rfl, hlast, hcall, ?_⟩
    rw [← List.cons_append, ← List.append_assoc]
    exact hwalks.append hrest
  | ok a =>
    obtain ⟨result', u, new', hnext, hnext', hends'⟩ := hy t (notes ++ new)
    rw [List.append_assoc] at hnext
    refine ⟨result', u, new ++ new', (run_bind_of_ok hrun _).trans hnext,
      (run_bind_of_ok hrun' _).trans hnext', ?_⟩
    cases result' with
    | ok b => exact Walks.append hends hends'
    | error e =>
      obtain ⟨before, last, asked, after, rfl, hlast, hcall, hwalks⟩ := hends'
      refine ⟨new ++ before, last, asked, after, (List.append_assoc _ _ _).symm, hlast, hcall, ?_⟩
      rw [List.append_assoc]
      exact Walks.append hends hwalks

/-! ### One node -/

variable (enter : Callback σ ε Choice) (leave : Callback σ ε Unit)

theorem leave_ends {ancestors : List Site} {site : Site} (choice : Choice) {below : List (Note ε)}
    (h : Walks (ancestors ++ [site]) (choice.below site) below) (s : σ) (notes : List (Note ε)) :
    ∃ result t new,
      (noting .left leave ancestors site).run.run
          (s, notes ++ .entered ⟨ancestors, site⟩ (.ok choice) :: below) = (result, t, notes ++ new) ∧
        (leave ancestors site).run.run s = (result, t) ∧ Ends ancestors [site] new result := by
  rcases hrun : (leave ancestors site).run.run s with ⟨answer, t⟩
  have hnode : Walks ancestors [site] (.entered ⟨ancestors, site⟩ (.ok choice) ::
      (below ++ [.left ⟨ancestors, site⟩ (.ok ())])) := .node h .nil
  refine ⟨answer, t, .entered ⟨ancestors, site⟩ (.ok choice) ::
    (below ++ [.left ⟨ancestors, site⟩ answer]), ?_, rfl, ?_⟩
  · rw [noting_run, hrun, List.append_assoc, List.cons_append]
  · cases answer with
    | ok a => exact hnode
    | error e =>
      exact ⟨.entered ⟨ancestors, site⟩ (.ok choice) :: below, _, .left ⟨ancestors, site⟩ (.ok ()), [],
        rfl, rfl, rfl, hnode⟩

theorem Performs.node {ancestors : List Site} {path : Path} {n : Node}
    (h : Performs (ancestors ++ [⟨path, n⟩]) (Site.mk path n).children
      (walkAll (noting .entered enter) (noting .left leave) (ancestors ++ [⟨path, n⟩]) path 0 n.children)
      (walkAll enter leave (ancestors ++ [⟨path, n⟩]) path 0 n.children)) :
    Performs ancestors [⟨path, n⟩]
      (n.walkBelow (noting .entered enter) (noting .left leave) ancestors path)
      (n.walkBelow enter leave ancestors path) := by
  intro s notes
  rw [Node.walkBelow_eq, Node.walkBelow_eq]
  rcases hanswer : (enter ancestors ⟨path, n⟩).run.run s with ⟨answer, t⟩
  have hnoted := noting_run .entered enter ancestors ⟨path, n⟩ s notes
  rw [hanswer] at hnoted
  cases answer with
  | error e =>
    refine ⟨.error e, t, _, run_bind_of_error hnoted _, run_bind_of_error hanswer _, ?_⟩
    -- Had entering it answered, skipping would have been one way on.
    exact ⟨[], _, .entered ⟨ancestors, ⟨path, n⟩⟩ (.ok .skip), _, rfl, rfl, rfl, .node .nil .nil⟩
  | ok choice =>
    rw [run_bind_of_ok hnoted, run_bind_of_ok hanswer]
    cases choice with
    | skip => exact leave_ends leave .skip .nil t notes
    | descend =>
      obtain ⟨result, u, new, hrun, hrun', hends⟩ :=
        h t (notes ++ [.entered ⟨ancestors, ⟨path, n⟩⟩ (.ok .descend)])
      rw [List.append_assoc, List.singleton_append] at hrun
      cases result with
      | ok a =>
        dsimp only
        rw [run_bind_of_ok hrun, run_bind_of_ok hrun']
        exact leave_ends leave .descend hends u notes
      | error e =>
        obtain ⟨before, last, asked, after, rfl, hlast, hcall, hwalks⟩ := hends
        refine ⟨.error e, u, _, run_bind_of_error hrun _, run_bind_of_error hrun' _, ?_⟩
        refine ⟨.entered ⟨ancestors, ⟨path, n⟩⟩ (.ok .descend) :: before, last, asked,
          after ++ [.left ⟨ancestors, ⟨path, n⟩⟩ (.ok ())], rfl, hlast, hcall, ?_⟩
        have hnode : Walks ancestors [⟨path, n⟩] (.entered ⟨ancestors, ⟨path, n⟩⟩ (.ok .descend) ::
            ((before ++ asked :: after) ++ [.left ⟨ancestors, ⟨path, n⟩⟩ (.ok ())])) :=
          .node hwalks .nil
        rwa [List.append_assoc] at hnode

/-! ### The whole walk -/

theorem walkAll_performs (ancestors : List Site) (path : Path) (ns : List Node)
    (ih : ∀ c ∈ ns, ∀ path' : Path, Performs ancestors [⟨path', c⟩]
      (c.walkBelow (noting .entered enter) (noting .left leave) ancestors path')
      (c.walkBelow enter leave ancestors path')) (i : Nat) :
    Performs ancestors (Site.childrenFrom path i ns)
      (walkAll (noting .entered enter) (noting .left leave) ancestors path i ns)
      (walkAll enter leave ancestors path i ns) := by
  induction ns generalizing i with
  | nil =>
    rw [walkAll, walkAll]
    exact .pure ancestors
  | cons c rest ihr =>
    rw [walkAll, walkAll]
    have hrest := ihr (fun d hd => ih d (List.mem_cons_of_mem _ hd)) (i + 1)
    exact (ih c List.mem_cons_self (i :: path)).bind hrest

theorem walkBelow_performs (n : Node) (ancestors : List Site) (path : Path) :
    Performs ancestors [⟨path, n⟩]
      (n.walkBelow (noting .entered enter) (noting .left leave) ancestors path)
      (n.walkBelow enter leave ancestors path) := by
  induction n using Node.childInduction generalizing ancestors path with
  | step n ih =>
    exact .node enter leave
      (walkAll_performs enter leave _ path n.children (fun c hc path' => ih c hc _ path') 0)

/-! ### What the notes of a complete walk say -/

namespace Walks

variable {ancestors sites : List Site} {notes : List (Note ε)}

/-- Each node entered is left exactly once, and no other one is left. -/
theorem left_perm (h : Walks ancestors sites notes) :
    (notes.filterMap Note.left?).Perm (notes.filterMap Note.entered?) := by
  induction h with
  | nil => exact .refl _
  | node _ _ hbelow hlater =>
    simp only [List.filterMap_cons, List.filterMap_append, Note.left?, Note.entered?]
    exact List.perm_middle.trans ((hbelow.append hlater).cons _)

/-- The nodes are entered in the order in which the trees list them. -/
theorem entered_sublist (h : Walks ancestors sites notes) :
    (notes.filterMap Note.entered?).Sublist
      (sites.flatMap fun site => site.node.lineages ancestors site.path) := by
  induction h with
  | nil => exact .refl _
  | @node ancestors site rest choice below later _ _ hbelow hlater =>
    simp only [List.filterMap_cons, List.filterMap_append, Note.entered?]
    rw [List.flatMap_cons, Node.lineages_eq, List.cons_append]
    refine (List.Sublist.append ?_ hlater).cons_cons _
    cases choice with
    | skip => exact hbelow.trans (List.nil_sublist _)
    | descend => exact hbelow

theorem entered_eq (h : Walks ancestors sites notes)
    (hno : ∀ l, Note.entered l (.ok .skip) ∉ notes) :
    notes.filterMap Note.entered? =
      sites.flatMap fun site => site.node.lineages ancestors site.path := by
  induction h with
  | nil => rfl
  | @node ancestors site rest choice below later _ _ hbelow hlater =>
    simp only [List.mem_cons, List.mem_append, not_or] at hno
    simp only [List.filterMap_cons, List.filterMap_append, Note.entered?]
    rw [hbelow fun l => (hno l).2.1, hlater fun l => (hno l).2.2.2, List.flatMap_cons,
      Node.lineages_eq, List.cons_append]
    cases choice with
    | skip => exact absurd rfl (hno ⟨ancestors, site⟩).1
    | descend => rfl

theorem between (h : Walks ancestors sites notes) {before after : List (Note ε)} {place : Lineage}
    {answer : Except ε Choice} (hnotes : notes = before ++ .entered place answer :: after) :
    ∃ choice below rest, answer = .ok choice ∧ after = below ++ .left place (.ok ()) :: rest ∧
      Walks (place.ancestors ++ [place.site]) (choice.below place.site) below := by
  induction h generalizing before after with
  | nil => simp at hnotes
  | @node ancestors site rest choice below later inner next hbelow hlater =>
    rcases before with - | ⟨first, before⟩
    · obtain ⟨hfirst, hafter⟩ := List.cons.inj hnotes
      cases hfirst
      exact ⟨choice, below, later, rfl, hafter.symm, inner⟩
    · obtain ⟨-, hrest⟩ := List.cons.inj hnotes
      obtain ⟨more, rfl, hmore⟩ | ⟨more, rfl, hmore⟩ := List.append_eq_append_iff.1 hrest
      · -- Behind the note of leaving the first sibling, so among those of its siblings.
        rcases more with - | ⟨closing, more⟩
        · cases hmore
        · exact hlater (List.cons.inj hmore).2
      · -- Below the first sibling: what is noted behind goes on with leaving that sibling.
        rcases more with - | ⟨opening, more⟩
        · cases hmore
        · rw [List.cons_append] at hmore
          obtain ⟨rfl, hafter⟩ := List.cons.inj hmore
          obtain ⟨c, inside, outside, hanswer, hmore, hwalks⟩ := hbelow rfl
          refine ⟨c, inside, outside ++ .left ⟨ancestors, site⟩ (.ok ()) :: later, hanswer, ?_, hwalks⟩
          rw [hafter, hmore, List.append_assoc, List.cons_append]

theorem place_mem (h : Walks ancestors sites notes) {note : Note ε} (hn : note ∈ notes) :
    note.call.place ∈ sites.flatMap fun site => site.node.lineages ancestors site.path := by
  refine h.entered_sublist.subset ?_
  cases note with
  | entered place answer => exact List.mem_filterMap.2 ⟨_, hn, rfl⟩
  | left place answer => exact h.left_perm.subset (List.mem_filterMap.2 ⟨_, hn, rfl⟩)

end Walks

theorem Ends.place_mem {ancestors sites : List Site} {notes : List (Note ε)}
    {result : Except ε Unit} (h : Ends ancestors sites notes result) {note : Note ε}
    (hn : note ∈ notes) :
    note.call.place ∈ sites.flatMap fun site => site.node.lineages ancestors site.path := by
  cases result with
  | ok a => exact Walks.place_mem h hn
  | error e =>
    obtain ⟨before, last, asked, after, rfl, -, hcall, hwalks⟩ := h
    rcases List.mem_append.1 hn with hn | hn
    · exact hwalks.place_mem (List.mem_append_left _ hn)
    · rw [List.mem_singleton.1 hn, hcall]
      exact hwalks.place_mem (List.mem_append_right _ List.mem_cons_self)

theorem visit_eq_flatMap (stack : List Site) :
    Site.visit stack = stack.flatMap fun s => s.node.sites s.path := by
  fun_induction Site.visit stack with
  | case1 => rfl
  | case2 s stack ih => rw [ih, List.flatMap_append, List.flatMap_cons, Node.sites_eq, List.cons_append]

/-- The site is one of the tree, and the ancestors are its proper ancestors in the tree, outermost first. -/
structure Lineage.Exact (root : Node) (l : Lineage) : Prop where
  site : l.site ∈ root.sites []
  ancestors : ∀ a ∈ l.ancestors, a ∈ root.sites []
  paths : l.ancestors.map Site.path = l.site.path.tails.tail.reverse

theorem exact_of_mem_lineages {root n : Node} {ancestors : List Site} {path : Path} {l : Lineage}
    (h : Lineage.Exact root ⟨ancestors, ⟨path, n⟩⟩) (hl : l ∈ n.lineages ancestors path) :
    l.Exact root := by
  induction n using Node.childInduction generalizing ancestors path with
  | step n ih =>
    rw [Node.lineages_eq, List.mem_cons, List.mem_flatMap] at hl
    obtain rfl | ⟨t, ht, hl⟩ := hl
    · exact h
    · refine ih _ (Site.node_mem_of_mem_children ht) ⟨?_, ?_, ?_⟩ hl
      · exact Site.mem_sites_of_mem_children h.site ht
      · rw [List.forall_mem_append, List.forall_mem_singleton]
        exact ⟨h.ancestors, h.site⟩
      · obtain ⟨i, -, hpath⟩ := Site.mem_children.1 ht
        have htails : path.tails = path :: path.tails.tail := by cases path <;> rfl
        rw [List.map_append, h.paths, hpath, List.tails, List.tail_cons, htails, List.reverse_cons,
          List.tail_cons]
        rfl

theorem Ends.exact {root : Node} {notes : List (Note ε)} {result : Except ε Unit}
    (h : Ends [] [.root root] notes result) {note : Note ε} (hn : note ∈ notes) :
    note.call.place.Exact root := by
  have hplace := h.place_mem hn
  rw [List.flatMap_singleton] at hplace
  exact exact_of_mem_lineages ⟨Site.self_mem_sites root [], by simp, rfl⟩ hplace

theorem Walks.entered_distinct {root : Node} {notes : List (Note ε)}
    (h : Walks [] [.root root] notes) :
    ((notes.filterMap Note.entered?).map fun l => l.site.path).Nodup := by
  have hsites := sites_distinct root []
  rw [← map_site_lineages root [] [], List.map_map] at hsites
  have horder := h.entered_sublist
  rw [List.flatMap_singleton] at horder
  exact (horder.map _).nodup hsites

theorem Walks.map_site_entered {root : Node} {notes : List (Note ε)}
    (h : Walks [] [.root root] notes) (hno : ∀ l, Note.entered l (.ok .skip) ∉ notes) :
    (notes.filterMap Note.entered?).map Lineage.site = Site.visit [.root root] := by
  rw [h.entered_eq hno, visit_eq_flatMap, List.flatMap_singleton, List.flatMap_singleton]
  exact map_site_lineages root [] []

/-- The walk is the recursion, whatever the callbacks do. Of one run, with the state it ended in: each call
was given a site of the tree and the exact ancestors, and the calls are those of a walk through the tree,
or a raise ended them. Without a raise, every node entered is left exactly once, with the walk below it in
between, which is empty if it was skipped. Without a skip the nodes entered are those that a visit lists. -/
theorem walk_is_recursion (root : Node) (s : σ) :
    walk enter leave root = root.walkBelow enter leave [] [] ∧
    ∃ result last notes,
      (walk (noting .entered enter) (noting .left leave) root).run.run (s, []) = (result, last, notes) ∧
      (walk enter leave root).run.run s = (result, last) ∧
      (∀ note ∈ notes, note.call.place.Exact root) ∧
      Ends [] [.root root] notes result ∧
      (result = .ok () →
        (notes.filterMap Note.left?).Perm (notes.filterMap Note.entered?) ∧
        ((notes.filterMap Note.entered?).map fun l => l.site.path).Nodup ∧
        (∀ before place answer after, notes = before ++ .entered place answer :: after →
          ∃ choice below rest, answer = .ok choice ∧ after = below ++ .left place (.ok ()) :: rest ∧
            Walks (place.ancestors ++ [place.site]) (choice.below place.site) below) ∧
        ((∀ l, Note.entered l (.ok .skip) ∉ notes) →
          (notes.filterMap Note.entered?).map Lineage.site = Site.visit [.root root])) := by
  obtain ⟨result, last, notes, hnoted, hplain, hends⟩ := walkBelow_performs enter leave root [] [] s []
  rw [List.nil_append] at hnoted
  rw [walk_eq_walkBelow, walk_eq_walkBelow]
  refine ⟨rfl, result, last, notes, hnoted, hplain, fun note hn => hends.exact hn, hends, ?_⟩
  rintro rfl
  have hwalks : Walks [] [.root root] notes := hends
  exact ⟨hwalks.left_perm, hwalks.entered_distinct, fun _ _ _ _ => hwalks.between,
    hwalks.map_site_entered⟩

def bareNode (kind : String) (children : List Node) : Node := ⟨.other, kind, 0, 0, none, [], children⟩

def sprig : Node :=
  bareNode "root" [bareNode "a" [], bareNode "b" [bareNode "c" []], bareNode "d" []]

/-- Counts the calls, and has the fourth one skip what is below. -/
def skipFourth : Callback Nat String Choice := fun _ _ => do
  let n ← get
  set (n + 1)
  return if n = 3 then .skip else .descend

/-- Counts the calls, and raises at the seventh. -/
def raiseSeventh : Callback Nat String Unit := fun _ _ => do
  let n ← get
  set (n + 1)
  if n = 6 then throw "stop"

/-- The walk enters the root and `a`, leaves `a`, enters `b` but not what is below, leaves `b`, enters `d`,
and is stopped when it leaves `d`. -/
theorem sprig_walked :
    (walk skipFourth raiseSeventh sprig).run.run 0 = (.error "stop", 7) ∧
    ∃ notes : List (Note String), Breaks [] [.root sprig] "stop" notes ∧
      ∀ note ∈ notes, note.call.place.Exact sprig := by
  obtain ⟨hwalk, result, last, notes, -, hrun, hexact, hends, -⟩ :=
    walk_is_recursion skipFourth raiseSeventh sprig 0
  have hcounted : (sprig.walkBelow skipFourth raiseSeventh [] []).run.run 0 = (.error "stop", 7) := rfl
  rw [hwalk, hcounted] at hrun
  cases hrun
  exact ⟨hwalk ▸ hcounted, notes, hends, hexact⟩

end TierSplit.Syntax

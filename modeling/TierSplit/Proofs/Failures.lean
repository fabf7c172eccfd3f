import TierSplit.Proofs.Crossings
import TierSplit.Proofs.Offsets

/-! Which failures a run can have. Where the parser's nodes begin and end between characters, and a tree
that says it has errors holds some, a run succeeds, reports one of the documented diagnostics, or has no
room for a program that nests too deep. The accidents do not happen: nothing is cut inside a character, no
block is changed after it is frozen or rendered before it is, and no function is left open. -/

namespace TierSplit

open Source

/-- Diagnostics of the language, the parser and the markers. -/
structure Diagnostic.Documented (d : Diagnostic) : Prop where
  category : d.report.category ∈
    [.configuration, .parse, .structural, .placement, .shape]
  terminated : ∀ offset, d ≠ .unterminated offset

/-- The computation succeeds or reports a documented diagnostic. -/
def Reports {α : Type} (x : Except Failure α) : Prop :=
  (∃ a, x = .ok a) ∨ ∃ d, x = .error (.diagnostic d) ∧ d.Documented

/-- Left out are a function that stays open and a component without a script. -/
theorem Diagnostic.Documented.of_ne {d : Diagnostic} (hopen : ∀ offset, d ≠ .unterminated offset)
    (hscript : ∀ path, d ≠ .noScript path) : d.Documented := by
  refine ⟨?_, hopen⟩
  cases d with
  | noScript path => exact absurd rfl (hscript path)
  | _ => simp [Diagnostic.report]

theorem Reports.ok {α : Type} (a : α) : Reports (.ok a) := .inl ⟨a, rfl⟩

theorem Reports.diagnostic {α : Type} {d : Diagnostic} (hd : d.Documented) :
    Reports (.error (.diagnostic d) : Except Failure α) := .inr ⟨d, rfl, hd⟩

theorem Reports.bind {α β : Type} {x : Except Failure α} {f : α → Except Failure β} (hx : Reports x)
    (hf : ∀ a, x = .ok a → Reports (f a)) : Reports (x >>= f) := by
  rcases hx with ⟨a, rfl⟩ | ⟨d, rfl, hd⟩
  · exact hf a rfl
  · exact .inr ⟨d, rfl, hd⟩

/-! ### What is asked of the tree -/

/-- The node begins and ends between characters of the text. -/
def Concrete.Node.OnCharacters (text : String) (n : Concrete.Node) : Prop :=
  Boundary text n.start ∧ Boundary text n.stop

def Syntax.Node.OnCharacters (text : String) (n : Syntax.Node) : Prop :=
  Boundary text n.start ∧ Boundary text n.stop

instance (text : String) : DecidablePred (Concrete.Node.OnCharacters text) :=
  fun _ => inferInstanceAs (Decidable (_ ∧ _))

instance (text : String) : DecidablePred (Syntax.Node.OnCharacters text) :=
  fun _ => inferInstanceAs (Decidable (_ ∧ _))

/-- The node says that it has errors exactly if an error or a missing node lies in it. -/
def Concrete.Node.Flagged (n : Concrete.Node) : Prop :=
  n.hasError = true ↔ ∃ e ∈ n.preorder, e.isError = true

instance : DecidablePred Concrete.Node.Flagged := fun _ => inferInstanceAs (Decidable (_ ↔ _))

/-! ### Taking over and converting the tree -/

namespace Concrete

theorem errorOffsets_ne_nil {root : Node} (hf : root.Flagged) (he : root.hasError = true) :
    errorOffsets root ≠ [] := by
  obtain ⟨e, hmem, herror⟩ := hf.1 he
  have hne : root.errors ≠ [] := by
    rw [Node.errors_eq]
    exact List.ne_nil_of_mem (List.mem_filter.2 ⟨hmem, herror⟩)
  unfold errorOffsets reportedErrors
  simp [hne]

theorem accept_reports (source : Source) {tree : Option Node} (h : ∀ root ∈ tree, root.Flagged) :
    Reports (accept source false tree).tree := by
  unfold accept
  split
  · cases tree with
    | none => exact .diagnostic (.of_ne nofun nofun)
    | some root =>
      simp only [Bool.not_false, Bool.true_and]
      split
      · next he =>
        obtain ⟨first, others, hoffsets⟩ :=
          List.exists_cons_of_ne_nil (errorOffsets_ne_nil (h root rfl) he)
        simp only [hoffsets, syntaxFailure]
        exact .diagnostic (.of_ne nofun nofun)
      · exact .ok root
  · exact .diagnostic (.of_ne nofun nofun)

theorem exists_role {text : String} {n : Node} (h : n.Everywhere (Node.OnCharacters text)) :
    ∃ r, role text.toUTF8 n = .ok r := by
  unfold role
  split
  · unfold labelText
    cases hlabel : n.child? "label" with
    | none => exact ⟨_, rfl⟩
    | some label =>
      have hchild := (h.child (List.mem_of_find?_eq_some hlabel)).here
      obtain ⟨name, hname⟩ := hchild.1.exists_slice hchild.2
      simp only [hname]
      exact ⟨_, rfl⟩
  split
  · exact ⟨_, rfl⟩
  split
  · exact ⟨_, rfl⟩
  split
  · obtain ⟨name, hname⟩ := h.here.1.exists_slice h.here.2
    rw [hname]
    exact ⟨_, rfl⟩
  · exact ⟨_, rfl⟩

theorem exists_toSyntax {text : String} {root : Node}
    (h : root.Everywhere (Node.OnCharacters text)) :
    ∃ program, toSyntax text.toUTF8 root = .ok program := by
  rw [toSyntax_eq]
  apply exists_convert
  intro m hm
  exact exists_role (h.below hm)

theorem onCharacters_of_toSyntax {text : String} {root : Node} {program : Syntax.Node}
    (h : root.Everywhere (Node.OnCharacters text)) (hp : toSyntax text.toUTF8 root = .ok program) :
    program.Everywhere (Syntax.Node.OnCharacters text) := by
  rw [toSyntax_eq] at hp
  refine convert_everywhere (fun m n hm hn => ?_) hp h
  rw [Syntax.Node.OnCharacters, hm.start, hm.stop]
  exact hn

end Concrete

/-! ### Markers and blocks -/

namespace Marker

theorem Rejected.documented {l : Syntax.Lineage} {d : Diagnostic} (h : Rejected l d) :
    d.Documented := by
  cases h <;> exact .of_ne nofun nofun

theorem markers_reports (label : String) (program : Syntax.Node) :
    Reports ((scan label program).markers.mapError .diagnostic) := by
  rw [scan_eq_checkAll]
  unfold Scan.markers
  cases ho : opens label program with
  | false => exact .diagnostic (.of_ne nofun nofun)
  | true =>
    simp only [if_true]
    cases hc : (checkAll (topmost label program)).2 with
    | none => exact .ok _
    | some d =>
      obtain ⟨before, l, after, -, -, hrejected⟩ := checkAll_eq_some hc
      exact .diagnostic hrejected.documented

theorem exists_described {label : String} {program : Syntax.Node} {markers : List Marker}
    (h : (scan label program).markers = .ok markers) {m : Marker} (hm : m ∈ markers) :
    ∃ l ∈ topmost label program, Describes l m := by
  apply describes_of_mem_found
  unfold Scan.markers at h
  split at h
  · cases h
  · cases h
    exact (sortBy_perm _ _).mem_iff.1 hm

theorem bounds_of_scan {text label : String} {program : Syntax.Node} {markers : List Marker}
    (hc : program.Everywhere (Syntax.Node.OnCharacters text))
    (h : (scan label program).markers = .ok markers) {m : Marker} (hm : m ∈ markers) :
    Boundary text m.start ∧ Boundary text m.stop := by
  obtain ⟨l, hl, hlm⟩ := exists_described h hm
  rw [hlm.start, hlm.stop]
  exact (hc.site (Syntax.Lineage.site_mem (mem_topmost hl).1)).here

end Marker

namespace Block

theorem bounds_of_segment {text : String} {markers : List Marker}
    (h : ∀ m ∈ markers, Boundary text m.start ∧ Boundary text m.stop) {b : Block}
    (hb : b ∈ segment markers text.utf8ByteSize) : Boundary text b.start ∧ Boundary text b.stop := by
  obtain ⟨i, hi⟩ := List.getElem?_of_mem hb
  obtain ⟨m, hm, hstart, hstop⟩ := getElem?_segment_eq_some hi
  refine ⟨hstart ▸ (h m (List.mem_of_getElem? hm)).2, ?_⟩
  rw [hstop, endOf]
  cases hnext : markers[i + 1]? with
  | none => exact boundary_size text
  | some next => exact (h next (List.mem_of_getElem? hnext)).1

theorem TakesAll.exists_kept {blocks later : List Block} {links : List Link}
    (h : TakesAll blocks links later) {b' : Block} (hb' : b' ∈ later) : ∃ b ∈ blocks, Kept b b' := by
  obtain ⟨i, hi⟩ := List.getElem?_of_mem hb'
  obtain ⟨b, hb, htakes⟩ := h.exists_before hi
  exact ⟨b, List.mem_of_getElem? hb, htakes.kept⟩

theorem bounds_of_takesAll {text : String} {markers : List Marker} {links : List Link}
    {later : List Block} (h : ∀ m ∈ markers, Boundary text m.start ∧ Boundary text m.stop)
    (htake : TakesAll (segment markers text.utf8ByteSize) links later) {b' : Block}
    (hb' : b' ∈ later) : Boundary text b'.start ∧ Boundary text b'.stop := by
  obtain ⟨b, hb, hkept⟩ := htake.exists_kept hb'
  rw [hkept.start, hkept.stop]
  exact bounds_of_segment h hb

end Block

theorem Fragment.exists_generate {bytes : ByteArray} {blocks : List Block} (channels : Channels)
    (hf : ∀ b ∈ blocks, b.frozen = true)
    (hs : ∀ b ∈ blocks, ∃ piece, slice bytes b.start b.stop = .ok piece) :
    ∃ fragments, generate bytes channels blocks = .ok fragments := by
  rw [generate_eq_mapM]
  apply exists_mapM_eq_ok
  intro b hb
  have hmem := List.mem_of_mem_filter hb
  obtain ⟨piece, hpiece⟩ := hs b hmem
  exact exists_ofBlock (hf b hmem) hpiece

namespace Compiler

theorem exists_finish (options : Options) (path : String) {text : String} (program : Syntax.Node)
    {markers : List Marker} (h : ∀ m ∈ markers, Boundary text m.start ∧ Boundary text m.stop) :
    ∃ s, finish options ⟨path, text, options.language⟩ (Scope.analyze program) markers = .ok s := by
  obtain ⟨later, count, htake, heq⟩ :=
    finish_eq options ⟨path, text, options.language⟩ program markers
  obtain ⟨fragments, hfragments⟩ : ∃ fragments, Fragment.generate text.toUTF8 options.channels
      (later.map Block.freeze) = .ok fragments := by
    apply Fragment.exists_generate
    · simp [Block.freeze]
    · intro frozen hfrozen
      obtain ⟨b, hb, rfl⟩ := List.mem_map.1 hfrozen
      obtain ⟨hstart, hstop⟩ := Block.bounds_of_takesAll h htake hb
      exact hstart.exists_slice hstop
  rw [heq]
  exact ⟨_, map_eq_ok_iff.2 ⟨fragments, hfragments, rfl⟩⟩

/-- The tree is accepted and converted, but names are not resolved, as more calls would be open at once
than there is room for. -/
def TooDeep (options : Options) (path text : String) (tree : Option Concrete.Node) : Prop :=
  ∃ root program, (Concrete.accept ⟨path, text, options.language⟩ false tree).tree = .ok root ∧
    Concrete.toSyntax text.toUTF8 root = .ok program ∧ options.room < Scope.depth program

theorem outcome_of_tooDeep {options : Options} {path text : String} {tree : Option Concrete.Node}
    (h : TooDeep options path text tree) :
    (compile options path text tree).outcome = .error .tooDeep := by
  obtain ⟨root, program, haccept, hp, hdepth⟩ := h
  rw [outcome_eq, haccept, ok_bind, hp, ok_bind, Scope.analyzeWithin_eq_error_iff.2 ⟨rfl, hdepth⟩]
  rfl

theorem reports_of_not_tooDeep {options : Options} {path text : String} {tree : Option Concrete.Node}
    (h : ∀ root ∈ tree, root.Everywhere (Concrete.Node.OnCharacters text) ∧ root.Flagged)
    (hroom : ¬TooDeep options path text tree) :
    Reports (compile options path text tree).outcome := by
  rw [outcome_eq]
  apply Reports.bind (Concrete.accept_reports _ fun root hroot => (h root hroot).2)
  intro root haccept
  have hc := (h root (accept_eq_ok haccept)).1
  apply Reports.bind (.inl (Concrete.exists_toSyntax hc))
  intro program hp
  have hdepth : Scope.depth program ≤ options.room :=
    Nat.le_of_not_lt fun hdeep => hroom ⟨root, program, haccept, hp, hdeep⟩
  rw [Scope.analyzeWithin_eq_ok_iff.2 ⟨hdepth, rfl⟩, ok_bind]
  apply Reports.bind (Marker.markers_reports options.label program)
  intro markers hscan
  apply Or.inl
  apply exists_finish
  intro m hm
  exact Marker.bounds_of_scan (Concrete.onCharacters_of_toSyntax hc hp)
    (mapError_eq_ok_iff.1 hscan) hm

/-- A call that is never closed. -/
def brokenText : String := "é("

def brokenTree : Concrete.Node :=
  ⟨"program", 0, 3, true, false, true, none,
    [⟨"identifier", 0, 2, true, false, false, none, []⟩,
      ⟨"ERROR", 2, 3, true, false, true, none, []⟩]⟩

/-- So many pairs of parentheses around a number. -/
def nested : Nat → String
  | 0 => "0"
  | n + 1 => "(" ++ nested n ++ ")"

/-- A marker, and behind it a number in parentheses. -/
def nestedText (n : Nat) : String := "on:server;" ++ nested n

def parenthesized (start : Int) : Nat → Concrete.Node
  | 0 => nodeAt "number" start (start + 1) none []
  | n + 1 =>
    nodeAt "parenthesized_expression" start (start + (2 * n + 3)) none
      [⟨"(", start, start + 1, false, false, false, none, []⟩, parenthesized (start + 1) n,
        ⟨")", start + (2 * n + 2), start + (2 * n + 3), false, false, false, none, []⟩]

def nestedTree (n : Nat) : Concrete.Node :=
  nodeAt "program" 0 (2 * n + 11) none
    [sampleMarker 0,
      nodeAt "expression_statement" 10 (2 * n + 11) none [parenthesized 10 n]]

theorem nested_plain (n : Nat) :
    (nested n).utf8ByteSize = 2 * n + 1 ∧ ∀ c ∈ (nested n).toList, c.utf8Size = 1 := by
  induction n with
  | zero => exact ⟨by decide, by simp [nested, Char.utf8Size]⟩
  | succ n ih =>
    obtain ⟨hsize, hplain⟩ := ih
    constructor
    · have hopen : "(".utf8ByteSize = 1 := by decide
      have hclose : ")".utf8ByteSize = 1 := by decide
      simp [nested, hsize, hopen, hclose]
      omega
    · intro c hc
      simp [nested] at hc
      rcases hc with rfl | hc | rfl
      · decide
      · exact hplain c hc
      · decide

theorem boundary_nestedText {n : Nat} {offset : Int} (hlo : 0 ≤ offset) (hhi : offset ≤ 2 * n + 11) :
    Boundary (nestedText n) offset := by
  obtain ⟨hsize, hplain⟩ := nested_plain n
  obtain ⟨p, rfl⟩ := Int.eq_ofNat_of_zero_le hlo
  have hmarker : "on:server;".utf8ByteSize = 10 := by decide
  refine Boundary.of_plain ?_ ?_
  · have hplain' : "on:server;".toList.all (·.utf8Size == 1) = true := by decide
    intro c hc
    rw [nestedText, String.toList_append, List.mem_append] at hc
    exact hc.elim (fun hc => beq_iff_eq.1 (List.all_eq_true.1 hplain' c hc)) (hplain c)
  · rw [nestedText, String.utf8ByteSize_append, hsize, hmarker]
    omega

/-- The node lies in a text of some length, and is no error. -/
def Fine (length : Int) (m : Concrete.Node) : Prop :=
  (0 ≤ m.start ∧ m.start ≤ length) ∧ (0 ≤ m.stop ∧ m.stop ≤ length) ∧ m.isError = false

theorem parenthesized_fine {length start : Int} (n : Nat) (hlo : 0 ≤ start)
    (hhi : start + (2 * n + 1) ≤ length) : (parenthesized start n).Everywhere (Fine length) := by
  induction n generalizing start with
  | zero =>
    simp [Concrete.Node.Everywhere, parenthesized, nodeAt, Concrete.Node.preorder,
      Concrete.Node.preorderAll, Fine, Concrete.Node.isError]
    omega
  | succ n ih =>
    have hinner : (parenthesized (start + 1) n).Everywhere (Fine length) := ih (by omega) (by omega)
    intro m hm
    simp [parenthesized, nodeAt, Concrete.Node.preorder, Concrete.Node.preorderAll] at hm
    rcases hm with rfl | rfl | hm | rfl
    case inr.inr.inl => exact hinner m hm
    all_goals
      simp [Fine, Concrete.Node.isError]
      omega

theorem nestedTree_fine (n : Nat) : (nestedTree n).Everywhere (Fine (2 * n + 11)) := by
  have hinner : (parenthesized 10 n).Everywhere (Fine (2 * n + 11)) :=
    parenthesized_fine n (by omega) (by omega)
  intro m hm
  simp [nestedTree, sampleMarker, nodeAt, Concrete.Node.preorder, Concrete.Node.preorderAll] at hm
  rcases hm with rfl | rfl | rfl | rfl | rfl | rfl | hm
  case inr.inr.inr.inr.inr.inr => exact hinner m hm
  all_goals
    simp [Fine, Concrete.Node.isError]
    omega

/-- The tree is one that the parser may give for the text. -/
theorem nestedTree_sound (n : Nat) :
    (nestedTree n).Everywhere (Concrete.Node.OnCharacters (nestedText n)) ∧ (nestedTree n).Flagged := by
  have hfine := nestedTree_fine n
  refine ⟨fun m hm => ?_, ?_⟩
  · obtain ⟨⟨hlo, hhi⟩, ⟨hlo', hhi'⟩, -⟩ := hfine m hm
    exact ⟨boundary_nestedText hlo hhi, boundary_nestedText hlo' hhi'⟩
  · constructor
    · intro h
      cases h
    · rintro ⟨m, hm, herror⟩
      rw [(hfine m hm).2.2] at herror
      cases herror

section

variable {bytes : ByteArray} {field : Option String} {m : Syntax.Node}

/-- The visit of a wrapper goes on with what is in it, two calls further in. -/
theorem exists_content {n x : Concrete.Node} (h : Concrete.convert bytes field n = .ok m)
    (hf : m.Everywhere Concrete.Fits) (hk : n.kind ∈ Payload.wrapperKinds)
    (hx : n.children.filter Concrete.isKept = [x]) :
    ∃ c, Concrete.convert bytes x.field x = .ok c ∧ c.Everywhere Concrete.Fits ∧
      2 + Scope.callDepth c .visit ≤ Scope.callDepth m .visit := by
  obtain ⟨hm, -⟩ := Concrete.convert_eq_ok_iff.1 h
  rw [← hm.kind] at hk
  have hid := Payload.not_identifier_of_wrapper hf.here hk
  have hfn := Payload.not_function_of_wrapper hf.here hk
  have hplan : Scope.Plan.of .visit m = .follow (Scope.Plan.all .visit m) ∧
      Scope.calls .visit m = 2 := by
    simp only [Payload.wrapperKinds, List.mem_cons, List.not_mem_nil, or_false] at hk
    rcases hk with hk | hk | hk | hk <;>
      simp [Scope.Plan.of, Scope.Plan.visit, Scope.calls, Scope.visitCalls, hid, hfn, hk]
  have hchildren := hm.children
  rw [hx, List.forall₂_cons_left_iff] at hchildren
  obtain ⟨c, _, hc, hrest, hcs⟩ := hchildren
  cases hrest
  have hstep : (0, .visit) ∈ (Scope.Plan.of .visit m).steps := by
    rw [hplan.1]
    exact Scope.mem_all_step (by rw [hcs]; rfl) .visit
  have hdeep := Scope.callDepth_of_step hstep (by rw [hcs]; rfl)
  rw [hplan.2] at hdeep
  exact ⟨c, hc, hf.child (by simp [hcs]), hdeep⟩

theorem callDepth_parenthesized (n : Nat) {start : Int}
    (h : Concrete.convert bytes field (parenthesized start n) = .ok m)
    (hf : m.Everywhere Concrete.Fits) : 2 * n + 1 ≤ Scope.callDepth m .visit := by
  induction n generalizing start field m with
  | zero => exact (Scope.one_le_visitCalls m).trans (Scope.calls_le_callDepth m .visit)
  | succ n ih =>
    have hkind : "parenthesized_expression" ∈ Payload.wrapperKinds := by decide
    have hkept : (parenthesized start (n + 1)).children.filter Concrete.isKept =
        [parenthesized (start + 1) n] := by
      cases n <;> rfl
    obtain ⟨c, hc, hfc, hdeep⟩ := exists_content h hf hkind hkept
    have hinner := ih hc hfc
    omega

end

theorem depth_nestedTree {n : Nat} {program : Syntax.Node}
    (hp : Concrete.toSyntax (nestedText n).toUTF8 (nestedTree n) = .ok program) :
    2 * n + 3 ≤ Scope.depth program := by
  have hf := Concrete.toSyntax_fits hp
  rw [Concrete.toSyntax_eq] at hp
  have hchildren := (Concrete.convert_eq_ok_iff.1 hp).1.children
  have hkept : (nestedTree n).children.filter Concrete.isKept = (nestedTree n).children := rfl
  rw [hkept, nestedTree, nodeAt, List.forall₂_cons_left_iff] at hchildren
  obtain ⟨first, _, -, hchildren, hcs⟩ := hchildren
  rw [List.forall₂_cons_left_iff] at hchildren
  obtain ⟨statement, _, hs, -, rfl⟩ := hchildren
  have hkind : "expression_statement" ∈ Payload.wrapperKinds := by decide
  have hinner : [parenthesized 10 n].filter Concrete.isKept = [parenthesized 10 n] := by
    cases n <;> rfl
  obtain ⟨c, hc, hfc, hdeep⟩ := exists_content hs (hf.child (by simp [hcs])) hkind hinner
  have hbelow := callDepth_parenthesized n hc hfc
  have htop : Scope.callDepth statement .visit ≤ Scope.depth program :=
    Scope.callDepth_le_depth (t := ⟨[1], statement⟩) (Syntax.Site.mem_children.2
      ⟨1, by simp [Syntax.Site.root, hcs], rfl⟩)
  omega

/-- Whatever room there is, enough parentheses take up more. -/
theorem nestedText_tooDeep (options : Options) (path : String) (n : Nat)
    (hlanguage : Grammar.supports Grammar.known options.language = true)
    (hroom : options.room < 2 * n + 3) :
    (compile options path (nestedText n) (some (nestedTree n))).outcome = .error .tooDeep := by
  obtain ⟨hchars, -⟩ := nestedTree_sound n
  obtain ⟨program, hp⟩ := Concrete.exists_toSyntax hchars
  refine outcome_of_tooDeep ⟨nestedTree n, program, ?_, hp, Nat.lt_of_lt_of_le hroom (depth_nestedTree hp)⟩
  simp [Concrete.accept, hlanguage, nestedTree, nodeAt]

end Compiler

end TierSplit

import TierSplit.Proofs.SyntaxErrors

/-! What the log of a compilation tells. It begins with the syntax errors, if the tree is rejected for
them. Then come the markers that were validated, in the order of the tree, up to the first that is not
accepted. One event ends it: of a success with its counts, or of a failure with its kind and code. -/

namespace TierSplit

open Syntax Concrete

/-- The event of a marker: its tiers in the order of the text, and where it ends. -/
def Marker.Announces (l : Lineage) (e : Log.Event) : Prop :=
  ∃ tokens found, Payload.Spelled l.site tokens ∧
    List.Perm found (tokens.filterMap Site.occurrence?) ∧ found.Pairwise (·.start ≤ ·.start) ∧
    e = ⟨.debug, "marker_found",
      [("tiers", .strs (found.map Occurrence.name)), ("offset", .int l.site.node.stop)]⟩

/-- The event of a success. One that took more than a second is slow. -/
def Run.completion (path : String) (elapsed : Float) (counts : Counts) (uses : Nat) : Log.Event :=
  let fields : Fields :=
    [("operation", .str "tier_compile"), ("duration_ms", .float (Decimal.cents elapsed)),
      ("file_path", .str path), ("markers", .nat counts.markers), ("blocks", .nat counts.blocks),
      ("fragments", .nat counts.fragments), ("references", .nat counts.references),
      ("uses", .nat uses)]
  if 1000.0 < elapsed then ⟨.warning, "slow_operation", fields ++ [("slow", .bool true)]⟩
  else ⟨.info, "operation_complete", fields⟩

def Run.failing (path : String) (elapsed : Float) (e : Failure) : Log.Event :=
  ⟨.error, "tier_compile_failed",
    [("duration_ms", .float (Decimal.cents elapsed)), ("file_path", .str path),
      ("error_type", .str e.kind), ("error_message", .str e.message)] ++
    match e.code with
    | some code => [("error_code", .str code)]
    | none => []⟩

def Log.Event.isTerminal (e : Log.Event) : Bool :=
  ["operation_complete", "slow_operation", "tier_compile_failed"].contains e.name

namespace Compiler

/-- The tree is rejected for the errors in it. -/
def HasSyntaxErrors (options : Options) (tree : Option Concrete.Node) (root : Concrete.Node) : Prop :=
  Grammar.supports Grammar.known options.language = true ∧ tree = some root ∧ root.hasError = true

/-- The tree is accepted and converted, the names are resolved, and the program is scanned for markers. -/
def Scans (options : Options) (path text : String) (tree : Option Concrete.Node)
    (program : Syntax.Node) : Prop :=
  ∃ root, (accept ⟨path, text, options.language⟩ false tree).tree = .ok root ∧
    toSyntax text.toUTF8 root = .ok program ∧ Scope.depth program ≤ options.room

/-- The log of a call, in three parts: the syntax errors of a tree rejected for them, the markers of a
program that is scanned, up to the first that is not accepted, and the end, which shows the outcome. -/
structure Logged (c : Compiler) (path text : String) (tree : Option Concrete.Node) (elapsed : Float)
    (errors markers : List Log.Event) (last : Log.Event) : Prop where
  events : (c.next path text tree).1.events elapsed = errors ++ markers ++ [last]
  rejected : ∀ root, HasSyntaxErrors c.options tree root →
    errors = [⟨.warning, "syntax_errors_found", [("file_path", .str path),
      ("offsets", .ints (((root.preorder.filter Concrete.Node.isError).take 5).map Concrete.Node.start))]⟩] ∧
    (c.next path text tree).1.outcome = .error (syntaxFailure path (errorOffsets root)) ∧
    (root.Flagged → ∃ first others,
      (c.next path text tree).1.outcome = .error (.diagnostic (.syntaxErrors path first others)))
  parsed : (∀ root, ¬HasSyntaxErrors c.options tree root) → errors = []
  unscanned : (∀ program, ¬Scans c.options path text tree program) → markers = []
  unopened : ∀ program, Scans c.options path text tree program →
    Marker.opens c.options.label program = false → markers = [] ∧
      (c.next path text tree).1.outcome = .error (.diagnostic (.unopened c.options.label))
  scanned : ∀ program, Scans c.options path text tree program →
    Marker.opens c.options.label program = true →
      ∃ validated rest, Marker.topmost c.options.label program = validated ++ rest ∧
        (∀ l ∈ validated, Marker.Accepted l) ∧ List.Forall₂ Marker.Announces validated markers ∧
        ∀ l ∈ rest.head?, ∃ d, Marker.Rejected l d ∧
          (c.next path text tree).1.outcome = .error (.diagnostic d)
  completed : ∀ s, (c.next path text tree).1.outcome = .ok s →
    ∃ program, Scans c.options path text tree program ∧
      last = Run.completion path elapsed (c.next path text tree).2.stats
        (Scope.analyze program).references.length
  failed : ∀ e, (c.next path text tree).1.outcome = .error e → last = Run.failing path elapsed e
  terminal : (errors ++ markers ++ [last]).filter Log.Event.isTerminal = [last]
  completed_iff : ¬1000.0 < elapsed →
    (last.name = "operation_complete" ↔ ∃ s, (c.next path text tree).1.outcome = .ok s)
  failed_iff : last.name = "tier_compile_failed" ↔ ∃ e, (c.next path text tree).1.outcome = .error e

end Compiler

/-! ### Syntax errors -/

namespace Concrete

theorem accept_of_ok {source : Source} {tree : Option Node} {root : Node}
    (h : (accept source false tree).tree = .ok root) : accept source false tree = ⟨[], .ok root⟩ := by
  unfold accept at h ⊢
  split at h
  · next hlanguage =>
    rw [if_pos hlanguage]
    cases tree with
    | none => cases h
    | some given =>
      simp only at h ⊢
      split at h
      · cases h
      · next hflag =>
        cases h
        rw [if_neg hflag]
  · cases h

theorem accept_events {source : Source} {tree : Option Node}
    (h : ∀ root, Grammar.supports Grammar.known source.language = true → tree = some root →
      root.hasError = false) : (accept source false tree).events = [] := by
  unfold accept
  split
  · next hlanguage =>
    cases tree with
    | none => rfl
    | some root => simp [h root hlanguage rfl]
  · rfl

theorem accept_events_quiet {source : Source} {tree : Option Node} {e : Log.Event}
    (h : e ∈ (accept source false tree).events) : e.isTerminal = false := by
  unfold accept at h
  split at h
  · split at h
    · cases h
    · dsimp only at h
      split at h
      · rw [List.mem_singleton.1 h]
        rfl
      · cases h
  · cases h

end Concrete

/-! ### Markers -/

namespace Marker

theorem Describes.announces {l : Lineage} {m : Marker} (h : Describes l m) :
    Announces l (Compiler.markerEvent m) := by
  obtain ⟨tokens, hspelled, hperm, hsorted⟩ := h.tokens
  refine ⟨tokens, m.identifiers, hspelled, hperm, hsorted, ?_⟩
  rw [Compiler.markerEvent, h.tiers, h.stop]

/-- A scan of a module that opens with a marker announces the markers before the first that is not
accepted, and fails with the diagnostic of that one. -/
theorem scan_announces {label : String} {program : Syntax.Node} (ho : opens label program = true) :
    ∃ validated rest, topmost label program = validated ++ rest ∧ (∀ l ∈ validated, Accepted l) ∧
      List.Forall₂ Announces validated ((scan label program).found.map Compiler.markerEvent) ∧
      ∀ l ∈ rest.head?, ∃ d, Rejected l d ∧ (scan label program).markers = .error d := by
  obtain ⟨validated, rest, hsplit, haccepted, hdescribes, hstop⟩ :=
    checkAll_splits (topmost label program)
  refine ⟨validated, rest, hsplit, haccepted, ?_, ?_⟩
  · rw [scan_eq_checkAll, if_pos ho, List.forall₂_map_right_iff]
    exact hdescribes.imp fun _ _ h => h.announces
  · rintro l hl
    obtain ⟨after, rfl⟩ := List.head?_eq_some_iff.1 hl
    obtain ⟨d, hrejected, hd⟩ := hstop
    refine ⟨d, hrejected, ?_⟩
    rw [scan_eq_checkAll, if_pos ho, Scan.markers, hd]

theorem scan_of_not_opens {label : String} {program : Syntax.Node}
    (ho : opens label program = false) : scan label program = ⟨[], some (.unopened label)⟩ := by
  rw [scan_eq_checkAll, ho, if_neg Bool.false_ne_true]

end Marker

/-! ### One run -/

namespace Compiler

variable {options : Options} {path text : String} {tree : Option Concrete.Node}

theorem Scans.unique {program program' : Syntax.Node} (h : Scans options path text tree program)
    (h' : Scans options path text tree program') : program = program' := by
  obtain ⟨root, hroot, hp, -⟩ := h
  obtain ⟨root', hroot', hp', -⟩ := h'
  rw [hroot] at hroot'
  cases hroot'
  rw [hp] at hp'
  exact Except.ok.inj hp'

theorem compile_of_scans {program : Syntax.Node} (h : Scans options path text tree program) :
    (compile options path text tree).trace =
        (Marker.scan options.label program).found.map markerEvent ∧
      (compile options path text tree).outcome =
        (Marker.scan options.label program).markers.mapError .diagnostic >>=
          finish options ⟨path, text, options.language⟩ (Scope.analyze program) := by
  obtain ⟨root, hroot, hp, hdepth⟩ := h
  have hbytes : Source.bytes ⟨path, text, options.language⟩ = text.toUTF8 := rfl
  have hgraph := Scope.analyzeWithin_eq_ok_iff.2 ⟨hdepth, rfl⟩
  constructor
  · unfold compile
    simp only [accept_of_ok hroot, hbytes, hp, compileSyntax, hgraph, List.nil_append]
  · rw [outcome_eq, hroot, ok_bind, hp, ok_bind, hgraph, ok_bind]

theorem outcome_of_errors {root : Concrete.Node} (h : HasSyntaxErrors options tree root) :
    (compile options path text tree).outcome = .error (syntaxFailure path (errorOffsets root)) := by
  obtain ⟨hlanguage, rfl, hflag⟩ := h
  rw [outcome_eq, accept_of_flag ⟨path, text, options.language⟩ hlanguage hflag]
  rfl

theorem outcome_of_not_opens {program : Syntax.Node} (h : Scans options path text tree program)
    (ho : Marker.opens options.label program = false) :
    (compile options path text tree).outcome = .error (.diagnostic (.unopened options.label)) := by
  rw [(compile_of_scans h).2, Marker.scan_of_not_opens ho]
  rfl

theorem outcome_of_scan_error {program : Syntax.Node} (h : Scans options path text tree program)
    {d : Diagnostic} (hd : (Marker.scan options.label program).markers = .error d) :
    (compile options path text tree).outcome = .error (.diagnostic d) := by
  rw [(compile_of_scans h).2, hd]
  rfl

theorem trace_of_not_scans (h : ∀ program, ¬Scans options path text tree program) :
    (compile options path text tree).trace =
      (accept ⟨path, text, options.language⟩ false tree).events := by
  have hbytes : Source.bytes ⟨path, text, options.language⟩ = text.toUTF8 := rfl
  unfold compile
  simp only [hbytes]
  cases hroot : (accept ⟨path, text, options.language⟩ false tree).tree with
  | error e => rfl
  | ok root =>
    cases hp : toSyntax text.toUTF8 root with
    | error e => simp only [hp]
    | ok program =>
      cases hgraph : Scope.analyzeWithin options.room program with
      | error e => simp only [hp, compileSyntax, hgraph, List.append_nil]
      | ok graph =>
        exact absurd ⟨root, hroot, hp, (Scope.analyzeWithin_eq_ok_iff.1 hgraph).1⟩ (h program)

/-- The events before the last one, up to the syntax errors those of the markers. -/
theorem trace_splits (options : Options) (path text : String) (tree : Option Concrete.Node) : ∃ markers,
    (compile options path text tree).trace =
        (accept ⟨path, text, options.language⟩ false tree).events ++ markers ∧
      (∀ e ∈ markers, e.isTerminal = false) ∧
      ((∀ program, ¬Scans options path text tree program) → markers = []) ∧
      ∀ program, Scans options path text tree program →
        markers = (Marker.scan options.label program).found.map markerEvent := by
  by_cases hscans : ∃ program, Scans options path text tree program
  · obtain ⟨program, hs⟩ := hscans
    refine ⟨_, ?_, ?_, fun hno => absurd hs (hno program), fun program' hs' => by rw [hs'.unique hs]⟩
    · rw [(compile_of_scans hs).1]
      obtain ⟨root, hroot, -⟩ := hs
      rw [accept_of_ok hroot, List.nil_append]
    · intro e he
      obtain ⟨m, -, rfl⟩ := List.mem_map.1 he
      rfl
  · have hno : ∀ program, ¬Scans options path text tree program := not_exists.1 hscans
    refine ⟨[], ?_, nofun, fun _ => rfl, fun program hs => absurd hs (hno program)⟩
    rw [trace_of_not_scans hno, List.append_nil]

theorem uses_of_ok {s : Success} (h : (compile options path text tree).outcome = .ok s) :
    ∃ program, Scans options path text tree program ∧
      s.uses = (Scope.analyze program).references.length := by
  rw [outcome_eq] at h
  obtain ⟨root, hroot, h⟩ := bind_eq_ok_iff.1 h
  obtain ⟨program, hp, h⟩ := bind_eq_ok_iff.1 h
  obtain ⟨graph, hgraph, h⟩ := bind_eq_ok_iff.1 h
  obtain ⟨hdepth, rfl⟩ := Scope.analyzeWithin_eq_ok_iff.1 hgraph
  obtain ⟨markers, -, h⟩ := bind_eq_ok_iff.1 h
  obtain ⟨later, count, -, heq⟩ := finish_eq options ⟨path, text, options.language⟩ program markers
  rw [heq, map_eq_ok_iff] at h
  obtain ⟨fragments, -, rfl⟩ := h
  exact ⟨program, ⟨root, hroot, hp, hdepth⟩, rfl⟩

end Compiler

namespace Run

theorem ended_of_ok {r : Run} {s : Success} (h : r.outcome = .ok s) (elapsed : Float) :
    Log.ended "tier_compile" elapsed r.cause r.extra = completion r.path elapsed s.counts s.uses := by
  simp only [cause, extra, h, Log.ended, Log.finished, completion, countFields]
  rfl

theorem ended_of_error {r : Run} {e : Failure} (h : r.outcome = .error e) (elapsed : Float) :
    Log.ended "tier_compile" elapsed r.cause r.extra = failing r.path elapsed e := by
  simp only [cause, extra, h, Log.ended, Log.failed, Log.errorEvent, Log.Cause.fields,
    Log.Cause.ofFailure, failing]
  cases e.code <;> rfl

theorem completion_name (path : String) (elapsed : Float) (counts : Counts) (uses : Nat) :
    (completion path elapsed counts uses).name =
      if 1000.0 < elapsed then "slow_operation" else "operation_complete" := by
  unfold completion
  split <;> rfl

theorem completion_isTerminal (path : String) (elapsed : Float) (counts : Counts) (uses : Nat) :
    (completion path elapsed counts uses).isTerminal = true := by
  rw [Log.Event.isTerminal, completion_name]
  split <;> rfl

theorem failing_isTerminal (path : String) (elapsed : Float) (e : Failure) :
    (failing path elapsed e).isTerminal = true := rfl

end Run

namespace Compiler

theorem compile_path (options : Options) (path text : String) (tree : Option Concrete.Node) :
    (compile options path text tree).path = path := by
  unfold compile
  dsimp only
  split
  · rfl
  · split <;> rfl

theorem next_fst (c : Compiler) (path text : String) (tree : Option Concrete.Node) :
    (c.next path text tree).1 = compile c.options path text tree := by
  unfold next
  cases h : (compile c.options path text tree).outcome <;> simp [h]

theorem stats_of_ok {c : Compiler} {s : Success}
    (h : (compile c.options path text tree).outcome = .ok s) :
    (c.next path text tree).2.stats = s.counts := by
  unfold next
  simp [h]

/-- Every call leaves a log of three parts: the syntax errors if there are any, the markers validated
before the first that is not accepted, and one event for the end, which tells how the call ended. -/
theorem log_traces_the_call (c : Compiler) (path text : String) (tree : Option Concrete.Node)
    (elapsed : Float) : ∃ errors markers last, Logged c path text tree elapsed errors markers last := by
  obtain ⟨markers, htrace, hquiet, hunscanned, hscanned⟩ :=
    trace_splits c.options path text tree
  let run := compile c.options path text tree
  let last := Log.ended "tier_compile" elapsed run.cause run.extra
  have hfirst : (c.next path text tree).1 = run := next_fst c path text tree
  have hpath : run.path = path := compile_path c.options path text tree
  have hok : ∀ s, run.outcome = .ok s → last = Run.completion path elapsed s.counts s.uses :=
    fun s hs => hpath ▸ Run.ended_of_ok hs elapsed
  have herror : ∀ e, run.outcome = .error e → last = Run.failing path elapsed e :=
    fun e he => hpath ▸ Run.ended_of_error he elapsed
  refine ⟨(accept ⟨path, text, c.options.language⟩ false tree).events, markers, last, ?_⟩
  constructor <;> try rw [hfirst]
  case events => rw [Run.events, htrace]
  case rejected =>
    rintro root ⟨hlanguage, rfl, hflag⟩
    have houtcome : run.outcome = .error (syntaxFailure path (errorOffsets root)) :=
      outcome_of_errors ⟨hlanguage, rfl, hflag⟩
    refine ⟨?_, houtcome, fun hflagged => ?_⟩
    · rw [accept_of_flag ⟨path, text, c.options.language⟩ hlanguage hflag, syntaxEvent, errorOffsets_eq]
    · obtain ⟨first, others, ho⟩ := List.exists_cons_of_ne_nil (errorOffsets_ne_nil hflagged hflag)
      exact ⟨first, others, by rw [houtcome, ho, syntaxFailure]⟩
  case parsed =>
    intro hno
    apply accept_events
    intro root hlanguage htree
    exact Bool.eq_false_iff.2 fun hflag => hno root ⟨hlanguage, htree, hflag⟩
  case unscanned => exact hunscanned
  case unopened =>
    intro program hs ho
    refine ⟨?_, outcome_of_not_opens hs ho⟩
    rw [hscanned program hs, Marker.scan_of_not_opens ho, List.map_nil]
  case scanned =>
    intro program hs ho
    obtain ⟨validated, rest, hsplit, haccepted, hannounced, hstop⟩ := Marker.scan_announces ho
    refine ⟨validated, rest, hsplit, haccepted, hscanned program hs ▸ hannounced, fun l hl => ?_⟩
    obtain ⟨d, hrejected, hd⟩ := hstop l hl
    exact ⟨d, hrejected, outcome_of_scan_error hs hd⟩
  case completed =>
    intro s hs
    obtain ⟨program, hprogram, huses⟩ := uses_of_ok hs
    exact ⟨program, hprogram, by rw [hok s hs, stats_of_ok hs, huses]⟩
  case failed => exact herror
  case terminal =>
    have hlast : last.isTerminal = true := by
      cases hrun : run.outcome with
      | ok s => rw [hok s hrun, Run.completion_isTerminal]
      | error e => rw [herror e hrun, Run.failing_isTerminal]
    rw [List.filter_append, List.filter_append, List.filter_eq_nil_iff.2, List.filter_eq_nil_iff.2,
      List.nil_append, List.nil_append, List.filter_cons_of_pos hlast, List.filter_nil]
    · exact fun e he => Bool.eq_false_iff.1 (hquiet e he)
    · exact fun e he => Bool.eq_false_iff.1 (accept_events_quiet he)
  case completed_iff =>
    intro hfast
    cases hrun : run.outcome with
    | ok s => simp [hok s hrun, Run.completion_name, hfast]
    | error e => simp [herror e hrun, Run.failing]
  case failed_iff =>
    cases hrun : run.outcome with
    | ok s =>
      rw [hok s hrun, Run.completion_name]
      split <;> simp
    | error e => simp [herror e hrun, Run.failing]

/-- The second of three markers names no tier: only the first one is logged. -/
example : (((new sampleOptions).next "m" "on:client;on:nobody;on:server;"
    (some (nodeAt "program" 0 30 none [sampleMarker 0, sampleMarker 10, sampleMarker 20]))).1.events
      3.0).map Log.Event.name = ["marker_found", "tier_compile_failed"] := by decide +kernel

end Compiler

end TierSplit

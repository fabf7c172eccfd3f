import TierSplit.Proofs.Reassembly

/-! One compiler for many modules. Each call answers as a new compiler would, whatever calls came
before, and the counts that the compiler shows are those of its latest success. The counts of a success
are exact. -/

namespace TierSplit

structure Request where
  path : String
  text : String
  tree : Option Concrete.Node

/-- The counts of a success are the sizes of what it yields. -/
structure Success.Exact (s : Success) : Prop where
  markers : s.counts.markers = s.result.blocks.length
  blocks : s.counts.blocks = s.result.blocks.length
  fragments : s.counts.fragments = s.result.server.length
  server : s.result.server.length = (s.result.blocks.filter fun b => .server ∈ b.tiers).length

namespace Compiler

def answer (c : Compiler) (r : Request) : Run × Compiler := c.next r.path r.text r.tree

/-- The answers to a sequence of requests, each with the compiler it leaves behind. -/
def serve (c : Compiler) : List Request → List (Run × Compiler)
  | [] => []
  | r :: rest => c.answer r :: (c.answer r).2.serve rest

/-- The counts of the latest success among some runs, or those from before. -/
def latest (before : Counts) (runs : List Run) : Counts :=
  ((runs.filterMap fun r => r.outcome.toOption).getLast?.map Success.counts).getD before

/-! ### The counts of a success -/

theorem finish_exact {options : Options} {source : Source} {program : Syntax.Node}
    {markers : List Marker} {s : Success}
    (h : finish options source (Scope.analyze program) markers = .ok s) : s.Exact := by
  obtain ⟨later, count, htake, heq⟩ := finish_eq options source program markers
  rw [heq, map_eq_ok_iff] at h
  obtain ⟨fragments, hg, rfl⟩ := h
  have hlater : later.length = markers.length := by
    rw [htake.1, Block.segment, Block.length_segmentFrom]
  have hserver := (Fragment.generate_eq_ok hg).length_eq
  rw [List.filter_map, List.length_map] at hserver
  constructor
  · simp [hlater]
  · simp
  · rfl
  · rw [Summary.filter_server, List.length_map]
    exact hserver

theorem compile_exact {options : Options} {path text : String} {tree : Option Concrete.Node}
    {s : Success} (h : (compile options path text tree).outcome = .ok s) : s.Exact := by
  rw [outcome_eq] at h
  obtain ⟨root, -, h⟩ := bind_eq_ok_iff.1 h
  obtain ⟨program, -, h⟩ := bind_eq_ok_iff.1 h
  obtain ⟨graph, hgraph, h⟩ := bind_eq_ok_iff.1 h
  obtain ⟨-, rfl⟩ := Scope.analyzeWithin_eq_ok_iff.1 hgraph
  obtain ⟨markers, -, h⟩ := bind_eq_ok_iff.1 h
  exact finish_exact h

/-! ### One call after another -/

theorem latest_cons (before : Counts) (run : Run) (runs : List Run) :
    latest before (run :: runs) = latest (latest before [run]) runs := by
  unfold latest
  cases hs : run.outcome.toOption with
  | none => simp [hs]
  | some s =>
    simp only [List.filterMap_cons, hs, List.getLast?_cons, List.filterMap_nil, List.getLast?_nil]
    cases (runs.filterMap fun r => r.outcome.toOption).getLast? <;> rfl

theorem answer_eq (c : Compiler) (r : Request) :
    c.answer r = (compile c.options r.path r.text r.tree,
      ⟨c.options, latest c.stats [compile c.options r.path r.text r.tree]⟩) := by
  unfold answer next latest
  cases hr : (compile c.options r.path r.text r.tree).outcome <;> simp [hr, Except.toOption]

theorem serve_eq (c : Compiler) (requests : List Request) :
    c.serve requests = requests.mapIdx fun i r => (compile c.options r.path r.text r.tree,
      ⟨c.options, latest c.stats ((requests.take (i + 1)).map fun r =>
        compile c.options r.path r.text r.tree)⟩) := by
  induction requests generalizing c with
  | nil => rfl
  | cons r rest ih =>
    rw [serve, ih, List.mapIdx_cons, answer_eq]
    simp only [List.take_succ_cons, List.take_zero, List.map_cons, List.map_nil, ← latest_cons]

/-- Call `i` of a sequence answers as a new compiler does. Behind it the compiler shows the counts of the
latest success up to then, which are exact; calls that failed have left no trace. -/
theorem failures_leave_no_trace (options : Options) (requests : List Request) :
    (new options).serve requests = requests.mapIdx (fun i r =>
      (((new options).answer r).1, ⟨options, latest .zero
        ((requests.take (i + 1)).map fun r => ((new options).answer r).1)⟩)) ∧
    ∀ r s, ((new options).answer r).1.outcome = .ok s → s.Exact := by
  simp only [answer_eq]
  constructor
  · exact serve_eq (new options) requests
  · intro r s h
    exact compile_exact h

/-- A failure before a success and one after it. -/
example :
    let broken : Request := ⟨"broken", brokenText, some brokenTree⟩
    let sample : Request := ⟨"sample", sampleText, some sampleTree⟩
    ((new sampleOptions).serve [broken, sample, broken]).map (fun a => a.2.stats) =
      [.zero, ⟨3, 3, 2, 2⟩, ⟨3, 3, 2, 2⟩] := by
  decide +kernel

end Compiler

end TierSplit

import TierSplit.Block.Crossing
import TierSplit.Concrete.Conversion
import TierSplit.Concrete.Parsed
import TierSplit.Result

/-! Compiling a module: the tree is accepted and converted, names are resolved, markers are found, the
text is cut into blocks, the references are classified, and every server block becomes a fragment.
A compiler remembers the counts of its latest success. -/

namespace TierSplit

/-- What the compiler needs to know of the settings, and how many calls may be open at once while names
are resolved. -/
structure Options where
  label : String
  language : String
  channels : Channels
  room : Nat
deriving Repr, DecidableEq

structure Counts where
  markers : Nat
  blocks : Nat
  fragments : Nat
  references : Nat
deriving Repr, DecidableEq

def Counts.zero : Counts := ⟨0, 0, 0, 0⟩

structure Success where
  result : Result
  counts : Counts
  uses : Nat
deriving Repr, DecidableEq

/-- One run of the compiler. The trace holds the events before the last one. -/
structure Run where
  path : String
  trace : List Log.Event
  outcome : Except Failure Success

namespace Compiler

def markerEvent (m : Marker) : Log.Event :=
  ⟨.debug, "marker_found", [("tiers", .strs (m.tiers.map Tier.name)), ("offset", .int m.stop)]⟩

/-- The uses that spell the tiers of a marker. -/
def isTierToken (markers : List Marker) (r : Scope.Reference) : Bool :=
  markers.any fun m => m.identifiers.any fun o => o.path == r.use.path

def finish (options : Options) (source : Source) (graph : Scope.Graph) (markers : List Marker) :
    Except Failure Success :=
  let blocks := Block.segment markers source.size
  let classified := Block.classify graph.resolved (isTierToken markers) blocks
  match classified.failure with
  | some e => .error e
  | none =>
    let frozen := classified.blocks.map Block.freeze
    match Fragment.generate source.bytes options.channels frozen with
    | .error e => .error e
    | .ok fragments =>
      .ok ⟨⟨fragments, frozen.map Summary.ofBlock⟩,
        ⟨markers.length, frozen.length, fragments.length, classified.count⟩, graph.references.length⟩

def compileSyntax (options : Options) (source : Source) (program : Syntax.Node) :
    List Log.Event × Except Failure Success :=
  match Scope.analyzeWithin options.room program with
  | .error e => ([], .error e)
  | .ok graph =>
    let scan := Marker.scan options.label program
    (scan.found.map markerEvent,
      match scan.markers with
      | .error d => .error (.diagnostic d)
      | .ok markers => finish options source graph markers)

def compile (options : Options) (path text : String) (tree : Option Concrete.Node) : Run :=
  let source : Source := ⟨path, text, options.language⟩
  let parsed := Concrete.accept source false tree
  match parsed.tree with
  | .error e => ⟨path, parsed.events, .error e⟩
  | .ok root =>
    match Concrete.toSyntax source.bytes root with
    | .error e => ⟨path, parsed.events, .error e⟩
    | .ok program =>
      let done := compileSyntax options source program
      ⟨path, parsed.events ++ done.1, done.2⟩

end Compiler

namespace Run

def cause (r : Run) : Option Log.Cause :=
  match r.outcome with
  | .error e => some (.ofFailure e)
  | .ok _ => none

def countFields (s : Success) : Fields :=
  [("markers", .nat s.counts.markers), ("blocks", .nat s.counts.blocks),
    ("fragments", .nat s.counts.fragments), ("references", .nat s.counts.references),
    ("uses", .nat s.uses)]

def extra (r : Run) : Fields :=
  ("file_path", .str r.path) ::
    match r.outcome with
    | .ok s => countFields s
    | .error _ => []

def events (r : Run) (elapsed : Float) : List Log.Event :=
  r.trace ++ [Log.ended "tier_compile" elapsed r.cause r.extra]

end Run

/-- A compiler with its settings and the counts of its latest success. -/
structure Compiler where
  options : Options
  stats : Counts
deriving Repr, DecidableEq

namespace Compiler

def new (options : Options) : Compiler := ⟨options, .zero⟩

def next (c : Compiler) (path text : String) (tree : Option Concrete.Node) : Run × Compiler :=
  let r := compile c.options path text tree
  match r.outcome with
  | .ok s => (r, { c with stats := s.counts })
  | .error _ => (r, c)

end Compiler

end TierSplit

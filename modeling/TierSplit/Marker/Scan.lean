import TierSplit.Marker.Payload
import TierSplit.Syntax.Walk
import TierSplit.Tier

/-! Finding the tier markers of a module. The module opens with a marker. A marker inside a function
needs the innermost function around it to be async, and stands directly in the module body or in
the body of that function. Nothing below a marker is looked at. -/

namespace TierSplit

open Syntax

structure Marker where
  tiers : List Tier
  start : Int
  stop : Int
  function : Option Path
  node : Path
  identifiers : List Occurrence
deriving Repr, DecidableEq

namespace Marker

def isMarker (label : String) (n : Node) : Bool :=
  match n.role with
  | .labeled l => l == label
  | _ => false

def isAsync (n : Node) : Bool :=
  match n.role with
  | .function isAsync => isAsync
  | _ => false

/-- Whether a marker stands directly in the body it belongs to: that of the innermost function
around it, or that of the module. -/
def atHome (function parent : Option Site) : Bool :=
  match function, parent with
  | _, none => false
  | none, some parent => parent.node.kind == "program"
  | some function, some parent =>
    match function.child? "body" with
    | some body => parent.path == body.path
    | none => false

def checkPlacement (function parent : Option Site) (site : Site) : Except Diagnostic Unit :=
  match function with
  | some f =>
    if isAsync f.node then
      if atHome function parent then .ok () else .error (.misplaced site.node.start)
    else .error (.notAsync site.node.start f.node.start)
  | none => if atHome function parent then .ok () else .error (.misplaced site.node.start)

def tiersOf : List Occurrence → Except Diagnostic (List Tier)
  | [] => .ok []
  | o :: rest =>
    match Tier.ofName? o.name with
    | some tier => (tiersOf rest).map (tier :: ·)
    | none => .error (.unknownTier o.name o.start)

/-- Validates one marker: its placement, then the shape of its payload, then its tiers. -/
def validate (function parent : Option Site) (site : Site) : Except Diagnostic Marker := do
  checkPlacement function parent site
  let found ← Payload.identifiers site
  let tiers ← tiersOf found
  return ⟨tiers, site.node.start, site.node.stop, function.map Site.path, site.path, found⟩

/-- A scan under way: the markers found, latest first, and the functions entered and not left,
innermost first. -/
structure Progress where
  found : List Marker
  functions : List Site

/-- A scan stops at the first diagnostic. -/
abbrev ScanM := ExceptT Diagnostic (StateM Progress)

def enter (label : String) (ancestors : List Site) (site : Site) : ScanM Choice := do
  if site.node.isFunction then
    modify fun p => { p with functions := site :: p.functions }
  if isMarker label site.node then
    let p ← get
    match validate p.functions.head? ancestors.getLast? site with
    | .ok marker =>
      set { p with found := marker :: p.found }
      return .skip
    | .error d => throw d
  else return .descend

def leave (_ : List Site) (site : Site) : ScanM Unit :=
  modify fun p =>
    match p.functions with
    | f :: rest => if f.path == site.path then { p with functions := rest } else p
    | [] => p

/-- A scan: the markers validated, in the order in which the walk met them, and the diagnostic that
ended it early. -/
structure Scan where
  found : List Marker
  error : Option Diagnostic
deriving Repr, DecidableEq

def opens (label : String) (program : Node) : Bool :=
  match program.children with
  | first :: _ => isMarker label first
  | [] => false

def scan (label : String) (program : Node) : Scan :=
  if opens label program then
    match (walk (enter label) leave program : ScanM Unit).run.run ⟨[], []⟩ with
    | (.ok (), p) => ⟨p.found.reverse, p.functions.head?.map fun f => .unterminated f.node.start⟩
    | (.error d, p) => ⟨p.found.reverse, some d⟩
  else ⟨[], some (.unopened label)⟩

def Scan.markers (s : Scan) : Except Diagnostic (List Marker) :=
  match s.error with
  | some d => .error d
  | none => .ok (sortBy (fun a b => a.start ≤ b.start) s.found)

end Marker

end TierSplit

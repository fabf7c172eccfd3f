import TierSplit.Proofs.Crossings

/-! What server code reads comes through the channel. A name that a server block reads from a block
that does not run on the server is an input of the one and an output of the other, and the fragment
takes it from the input channel before its code runs. The exception is a block of both tiers that
reads from a client block: client blocks share one live scope, so nothing is passed. -/

namespace TierSplit.Compiler

open Syntax Concrete Scope

/-- Both blocks run on the client, where they share one scope. -/
def ShareClient (b b' : Summary) : Prop := .client ∈ b.tiers ∧ .client ∈ b'.tiers

instance (b b' : Summary) : Decidable (ShareClient b b') :=
  inferInstanceAs (Decidable (.client ∈ b.tiers ∧ .client ∈ b'.tiers))

theorem disjoint_iff_of_server {b b' : Summary} (hb : .server ∈ b.tiers) :
    b.Disjoint b' ↔ .server ∉ b'.tiers ∧ ¬ShareClient b b' := by
  constructor
  · intro hd
    exact ⟨hd .server hb, fun hc => hd .client hc.1 hc.2⟩
  · rintro ⟨hserver, hclient⟩ t ht ht'
    cases t with
    | server => exact hserver ht'
    | client => exact hclient ⟨ht, ht'⟩

section

variable {label : String} {program : Syntax.Node} {length : Int} {markers : List Marker}
  {later : List Block} (hscan : (Marker.scan label program).markers = .ok markers)
  (htake : Block.TakesAll (Block.segment markers length) (links program markers length) later)
  {i : Nat} {b : Summary} (hi : (later.map Summary.ofBlock)[i]? = some b)
  (hserver : .server ∈ b.tiers)
include hscan htake hi hserver

theorem marshalled_of_readsAcross {j : Nat} {b' : Summary} {n : String}
    (hj : (later.map Summary.ofBlock)[j]? = some b') (hserver' : .server ∉ b'.tiers)
    (hshare : ¬ShareClient b b')
    (hread : ReadsAcross label program (Block.segment markers length) n i j) :
    n ∈ b.inputs ∧ n ∈ b'.outputs := by
  obtain ⟨x, hs⟩ := summarizes_of_getElem? htake hi
  obtain ⟨x', hs'⟩ := summarizes_of_getElem? htake hj
  have hne : i ≠ j := by
    rintro rfl
    rw [hi] at hj
    cases hj
    exact hserver' hserver
  have hlink := (mem_links_iff_readsAcross hscan hs.lt hs'.lt n).2 hread
  have hcross := (hs.crosses_channel_iff hs').2
    ⟨hne, (disjoint_iff_of_server hserver).2 ⟨hserver', hshare⟩⟩
  exact ⟨(hs.inputs n).2 ⟨j, hlink, hcross⟩, (hs'.outputs n).2 ⟨i, hlink, hcross⟩⟩

theorem readsAcross_of_mem_inputs {n : String} (hn : n ∈ b.inputs) :
    ∃ j b', (later.map Summary.ofBlock)[j]? = some b' ∧ .server ∉ b'.tiers ∧ ¬ShareClient b b' ∧
      ReadsAcross label program (Block.segment markers length) n i j := by
  obtain ⟨x, hs⟩ := summarizes_of_getElem? htake hi
  obtain ⟨j, hlink, hcross⟩ := (hs.inputs n).1 hn
  obtain ⟨-, b', hj⟩ := exists_of_crosses htake hcross
  obtain ⟨x', hs'⟩ := summarizes_of_getElem? htake hj
  obtain ⟨hserver', hshare⟩ :=
    (disjoint_iff_of_server hserver).1 ((hs.crosses_channel_iff hs').1 hcross).2
  exact ⟨j, b', hj, hserver', hshare, (mem_links_iff_readsAcross hscan hs.lt hs'.lt n).1 hlink⟩

end

/-- A server block takes as inputs exactly the names that it reads from blocks that do not run on the
server, those apart with which it shares the client; they put them out, and its fragment opens with
the line that takes them in. -/
theorem server_reads_marshalled {options : Options} {path text : String} {root : Concrete.Node}
    {program : Syntax.Node} {s : Success}
    (h : (compile options path text (some root)).outcome = .ok s)
    (hp : toSyntax text.toUTF8 root = .ok program) :
    ∃ markers, (Marker.scan options.label program).markers = .ok markers ∧
      ∀ i b, s.result.blocks[i]? = some b → .server ∈ b.tiers →
        (∀ j b' n, s.result.blocks[j]? = some b' → .server ∉ b'.tiers → ¬ShareClient b b' →
          ReadsAcross options.label program (Block.segment markers text.utf8ByteSize) n i j →
          n ∈ b.inputs ∧ n ∈ b'.outputs) ∧
        (∀ n ∈ b.inputs, ∃ j b', s.result.blocks[j]? = some b' ∧ .server ∉ b'.tiers ∧
          ¬ShareClient b b' ∧
          ReadsAcross options.label program (Block.segment markers text.utf8ByteSize) n i j) ∧
        ∃ f ∈ s.result.server, f.id = b.id ∧ f.inputs = b.inputs ∧
          (b.inputs ≠ [] → ∃ rest, f.code =
            ";const " ++ Fragment.bag b.inputs ++ " = " ++ options.channels.input ++ ";" ++ "\n" ++ rest) := by
  obtain ⟨markers, hscan, hfinish⟩ := compile_eq_ok h hp
  obtain ⟨later, htake, hblocks, hfragments⟩ := finish_generates hfinish
  change Block.TakesAll (Block.segment markers text.utf8ByteSize)
    (links program markers text.utf8ByteSize) later at htake
  rw [hblocks]
  refine ⟨markers, hscan, fun i b hi hserver => ⟨?_, ?_, ?_⟩⟩
  · intro j b' n hj hserver' hshare hread
    exact marshalled_of_readsAcross hscan htake hi hserver hj hserver' hshare hread
  · intro n hn
    exact readsAcross_of_mem_inputs hscan htake hi hserver hn
  · obtain ⟨f, hf, hrenders⟩ := exists_fragment hfragments (List.mem_of_getElem? hi) hserver
    refine ⟨f, hf, hrenders.id, hrenders.inputs, fun hne => ?_⟩
    rw [← hrenders.inputs]
    exact hrenders.opening hne

def sampleMarkers : List Marker :=
  ((Marker.scan "on" sampleProgram).markers).toOption.getD default

theorem scan_sampleProgram : (Marker.scan "on" sampleProgram).markers = .ok sampleMarkers :=
  eq_ok_getD (by decide +kernel)

theorem sampleText_marshalled :
    ∃ s, (compile sampleOptions "sample" sampleText (some sampleTree)).outcome = .ok s ∧
      ReadsAcross "on" sampleProgram (Block.segment sampleMarkers sampleText.utf8ByteSize) "x" 1 0 ∧
      ∃ b b', s.result.blocks[1]? = some b ∧ s.result.blocks[0]? = some b' ∧ .server ∈ b.tiers ∧
        .server ∉ b'.tiers ∧ ¬ShareClient b b' ∧ "x" ∈ b.inputs ∧ "x" ∈ b'.outputs ∧
        ∃ f ∈ s.result.server, f.id = b.id ∧ f.inputs = ["x"] ∧
          ∃ rest, f.code = ";const \x7b x \x7d = __tierIn;\n" ++ rest := by
  obtain ⟨s, hs, hblocks⟩ := compile_sampleTree
  obtain ⟨markers, hscan, h⟩ := server_reads_marshalled hs toSyntax_sampleTree
  obtain rfl : markers = sampleMarkers := Except.ok.inj (hscan.symm.trans scan_sampleProgram)
  rw [hblocks] at h
  obtain ⟨hreads, -, f, hf, hid, hinputs, hcode⟩ := h 1 _ rfl (by decide)
  have hread : ReadsAcross "on" sampleProgram
      (Block.segment sampleMarkers sampleText.utf8ByteSize) "x" 1 0 :=
    (mem_links_iff_readsAcross scan_sampleProgram (by decide +kernel) (by decide +kernel) _).1
      (by decide +kernel)
  have hx := hreads 0 _ "x" rfl (by decide) (by decide) hread
  refine ⟨s, hs, hread, _, _, congrArg (·[1]?) hblocks, congrArg (·[0]?) hblocks, by decide, by decide,
    by decide, hx.1, hx.2, f, hf, hid, hinputs, ?_⟩
  obtain ⟨rest, hrest⟩ := hcode (by decide)
  exact ⟨rest, hrest.trans (congrArg (· ++ rest) (by decide))⟩

/-! ### A block of both tiers -/

/-- The client declares `x`, and a block that runs on both tiers reads it. -/
def dualText : String := "on:client;let x;on:server,client;x"

def dualTree : Concrete.Node :=
  nodeAt "program" 0 34 none
    [sampleMarker 0,
      nodeAt "lexical_declaration" 10 16 none
        [nodeAt "variable_declarator" 14 15 none [nodeAt "identifier" 14 15 (some "name") []]],
      nodeAt "labeled_statement" 16 33 none
        [nodeAt "statement_identifier" 16 18 (some "label") [],
          nodeAt "expression_statement" 19 33 (some "body")
            [nodeAt "sequence_expression" 19 32 none
              [nodeAt "identifier" 19 25 none [], nodeAt "identifier" 26 32 none []]]],
      nodeAt "expression_statement" 33 34 none [nodeAt "identifier" 33 34 none []]]

def dualProgram : Syntax.Node := (toSyntax dualText.toUTF8 dualTree).toOption.getD default

def dualMarkers : List Marker := ((Marker.scan "on" dualProgram).markers).toOption.getD default

def dualBlocks : List Summary :=
  [⟨0, [.client], 10, 16, false, [], []⟩, ⟨1, [.client, .server], 33, 34, false, [], []⟩]

/-- The block runs on the server and the declaration does not, but nothing is passed. -/
theorem dualText_not_marshalled :
    ∃ s, (compile sampleOptions "sample" dualText (some dualTree)).outcome = .ok s ∧
      toSyntax dualText.toUTF8 dualTree = .ok dualProgram ∧
      (Marker.scan "on" dualProgram).markers = .ok dualMarkers ∧
      ∃ b b', s.result.blocks[1]? = some b ∧ s.result.blocks[0]? = some b' ∧ .server ∈ b.tiers ∧
        .server ∉ b'.tiers ∧
        ReadsAcross "on" dualProgram (Block.segment dualMarkers dualText.utf8ByteSize) "x" 1 0 ∧
        "x" ∉ b.inputs ∧ "x" ∉ b'.outputs := by
  have hscan : (Marker.scan "on" dualProgram).markers = .ok dualMarkers :=
    eq_ok_getD (by decide +kernel)
  have hread : ReadsAcross "on" dualProgram
      (Block.segment dualMarkers dualText.utf8ByteSize) "x" 1 0 :=
    (mem_links_iff_readsAcross hscan (by decide +kernel) (by decide +kernel) _).1 (by decide +kernel)
  obtain ⟨s, hs, hblocks⟩ : ∃ s,
      (compile sampleOptions "sample" dualText (some dualTree)).outcome = .ok s ∧
        s.result.blocks = dualBlocks := exists_eq_ok (by decide +kernel)
  exact ⟨s, hs, eq_ok_getD (by decide +kernel), hscan, _, _, congrArg (·[1]?) hblocks,
    congrArg (·[0]?) hblocks, by decide, by decide, hread, by decide, by decide⟩

end TierSplit.Compiler

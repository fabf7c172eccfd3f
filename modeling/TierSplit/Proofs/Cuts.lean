import TierSplit.Proofs.Crossings

/-! Where blocks cut the tree. A block runs from the end of one marker to the start of the next, so a
node that overlaps it lies in it, lies around it, or has exactly one of the two markers in it. Only
nodes of the last kind can be cut: the functions around a marker, and what lies around these. Where
both markers stand in one body nothing is cut. -/

namespace TierSplit

open Syntax

def Syntax.Node.Overlaps (n : Node) (lo hi : Int) : Prop := n.start < hi ∧ lo < n.stop

def Syntax.Node.Nests (n : Node) (lo hi : Int) : Prop :=
  (lo ≤ n.start ∧ n.stop ≤ hi) ∨ (n.start ≤ lo ∧ hi ≤ n.stop)

instance (n : Node) (lo hi : Int) : Decidable (n.Overlaps lo hi) :=
  inferInstanceAs (Decidable (_ ∧ _))

instance (n : Node) (lo hi : Int) : Decidable (n.Nests lo hi) :=
  inferInstanceAs (Decidable ((_ ∧ _) ∨ (_ ∧ _)))

namespace Marker

/-- The site is above one of the two markers that bound a block, and not above the other one. The last
block has no marker behind it. -/
def AroundOne (a : Site) (opening : Lineage) (closing : Option Lineage) : Prop :=
  (a ∈ opening.ancestors ∧ ∀ k ∈ closing, a ∉ k.ancestors) ∨
    (a ∉ opening.ancestors ∧ ∃ k ∈ closing, a ∈ k.ancestors)

theorem not_aroundOne_of_same_body {a : Site} {opening closing : Lineage}
    (h : closing.ancestors = opening.ancestors) : ¬AroundOne a opening (some closing) := by
  simp only [AroundOne, Option.mem_some_iff, forall_eq', exists_eq_left', h]
  tauto

theorem not_aroundOne_of_root {a root : Site} {opening : Lineage} {closing : Option Lineage}
    (ho : opening.ancestors = [root]) (hc : ∀ k ∈ closing, k.ancestors = [root]) (ha : a ≠ root) :
    ¬AroundOne a opening closing := by
  rintro (⟨hmem, -⟩ | ⟨-, k, hk, hmem⟩)
  · rw [ho] at hmem
    exact ha (List.mem_singleton.1 hmem)
  · rw [hc k hk] at hmem
    exact ha (List.mem_singleton.1 hmem)

/-- Where the stretch behind a marker ends: at the next marker, or with the text. -/
def boundary (closing : Option Lineage) (length : Int) : Int :=
  (closing.map fun k => k.site.node.start).getD length

/-- Between two markers, only a node that has exactly one of them in it can be cut. -/
theorem nests_or_aroundOne {program : Node} (hw : program.Everywhere Node.Ordered) {length : Int}
    (hlen : program.stop ≤ length) {opening : Lineage} {closing : Option Lineage}
    (ho : opening ∈ program.lineages [] []) (hc : ∀ k ∈ closing, k ∈ program.lineages [] [])
    {l : Lineage} (hl : l ∈ program.lineages [] [])
    (hover : l.site.node.Overlaps opening.site.node.stop (boundary closing length)) :
    l.site.node.Nests opening.site.node.stop (boundary closing length) ∨
      AroundOne l.site opening closing := by
  obtain ⟨hbefore, hbehind⟩ := hover
  have hspan := span_within hw ho
  have hopening : l.site ∈ opening.ancestors ∨ opening.site.node.stop ≤ l.site.node.start := by
    rcases above_or_apart hw hl ho (by omega) with hmem | hle | hle
    · exact .inl hmem
    · omega
    · exact .inr hle
  cases closing with
  | none =>
    rcases hopening with hmem | hle
    · exact .inr (.inl ⟨hmem, by simp⟩)
    · exact .inl (.inl ⟨hle, Int.le_trans (span_within hw hl).2.2 hlen⟩)
  | some k =>
    simp only [Node.Nests, AroundOne, boundary, Option.map_some, Option.getD_some,
      Option.mem_some_iff, forall_eq', exists_eq_left'] at hc hbefore ⊢
    have hkspan := span_within hw hc
    have hclosing : l.site ∈ k.ancestors ∨ l.site.node.stop ≤ k.site.node.start := by
      rcases above_or_apart hw hl hc (by omega) with hmem | hle | hle
      · exact .inl hmem
      · exact .inr hle
      · omega
    by_cases hmem : l.site ∈ opening.ancestors <;> by_cases hmem' : l.site ∈ k.ancestors
    · have := (span_around hw ho hmem).resolve_left List.not_mem_nil
      have := (span_around hw hc hmem').resolve_left List.not_mem_nil
      exact .inl (.inr (by omega))
    · exact .inr (.inl ⟨hmem, hmem'⟩)
    · exact .inr (.inr ⟨hmem, hmem'⟩)
    · exact .inl (.inl ⟨hopening.resolve_left hmem, hclosing.resolve_left hmem'⟩)

theorem block_bounds {label : String} {program : Node} {markers : List Marker}
    (hdesc : List.Forall₂ Describes (topmost label program) markers) {length : Int} {i : Nat}
    {b : Block} (hb : (Block.segment markers length)[i]? = some b) :
    ∃ opening, (topmost label program)[i]? = some opening ∧ b.start = opening.site.node.stop ∧
      b.stop = boundary (topmost label program)[i + 1]? length := by
  obtain ⟨m, hm, hstart, hstop⟩ := Block.getElem?_segment_eq_some hb
  obtain ⟨opening, ho, hom⟩ := exists_getElem?_right hdesc hm
  have hstarts : markers.map Marker.start =
      (topmost label program).map fun k => k.site.node.start := by
    rw [← List.forall₂_eq_eq_eq, List.forall₂_map_left_iff, List.forall₂_map_right_iff]
    exact hdesc.flip.imp fun _ _ h => h.start
  refine ⟨opening, ho, hstart.trans hom.stop, ?_⟩
  rw [hstop, Block.endOf, boundary, ← List.getElem?_map, ← List.getElem?_map, hstarts]

end Marker

namespace Compiler

/-- The fragment of a server block holds the text between two markers. A node that overlaps it lies in
it or around it, unless it has exactly one of the two markers in it; so nothing is cut between two
markers of one body, and with all markers in the module's body nothing below the root is. -/
theorem fragments_cut_only_around_markers {options : Options} {path text : String}
    {root : Concrete.Node} {program : Syntax.Node} {s : Success}
    (h : (compile options path text (some root)).outcome = .ok s)
    (hp : Concrete.toSyntax text.toUTF8 root = .ok program) (hw : program.Everywhere Node.Ordered)
    (hlen : program.stop ≤ text.utf8ByteSize) :
    ∀ i b, s.result.blocks[i]? = some b → .server ∈ b.tiers →
      (∃ f ∈ s.result.server, f.Renders text.toUTF8 options.channels b) ∧
      ∃ opening, (Marker.topmost options.label program)[i]? = some opening ∧
        b.start = opening.site.node.stop ∧
        b.stop = Marker.boundary (Marker.topmost options.label program)[i + 1]? text.utf8ByteSize ∧
        (∀ l ∈ program.lineages [] [], l.site.node.Overlaps b.start b.stop →
          l.site.node.Nests b.start b.stop ∨
            Marker.AroundOne l.site opening (Marker.topmost options.label program)[i + 1]?) ∧
        (∀ closing, (Marker.topmost options.label program)[i + 1]? = some closing →
          closing.ancestors = opening.ancestors →
          ∀ l ∈ program.lineages [] [], l.site.node.Overlaps b.start b.stop →
            l.site.node.Nests b.start b.stop) ∧
        ((∀ k ∈ Marker.topmost options.label program, k.ancestors = [Site.root program]) →
          ∀ l ∈ program.lineages [] [], l.site ≠ Site.root program →
            l.site.node.Overlaps b.start b.stop → l.site.node.Nests b.start b.stop) := by
  obtain ⟨markers, hscan, hfinish⟩ := compile_eq_ok h hp
  obtain ⟨later, htake, hblocks, hfragments⟩ := finish_generates hfinish
  change Block.TakesAll (Block.segment markers text.utf8ByteSize)
    (links program markers text.utf8ByteSize) later at htake
  rw [hblocks]
  intro i b hi hserver
  refine ⟨exists_fragment hfragments (List.mem_of_getElem? hi) hserver, ?_⟩
  obtain ⟨x, hs⟩ := summarizes_of_getElem? htake hi
  obtain ⟨hdesc, -⟩ := Block.scan_apart hw hlen hscan
  obtain ⟨opening, ho, hstart, hstop⟩ := Marker.block_bounds hdesc hs.block
  rw [← hs.start] at hstart
  rw [← hs.stop] at hstop
  have htop : ∀ k ∈ (Marker.topmost options.label program)[i + 1]?,
      k ∈ Marker.topmost options.label program := fun k hk => List.mem_of_getElem? hk
  have hcut : ∀ l ∈ program.lineages [] [], l.site.node.Overlaps b.start b.stop →
      l.site.node.Nests b.start b.stop ∨
        Marker.AroundOne l.site opening (Marker.topmost options.label program)[i + 1]? := by
    intro l hl hover
    rw [hstart, hstop] at hover ⊢
    exact Marker.nests_or_aroundOne hw hlen (Marker.mem_topmost (List.mem_of_getElem? ho)).1
      (fun k hk => (Marker.mem_topmost (htop k hk)).1) hl hover
  refine ⟨opening, ho, hstart, hstop, hcut, ?_, ?_⟩
  · intro closing hc hbody l hl hover
    refine (hcut l hl hover).resolve_right ?_
    rw [hc]
    exact Marker.not_aroundOne_of_same_body hbody
  · intro hroot l hl hne hover
    refine (hcut l hl hover).resolve_right ?_
    exact Marker.not_aroundOne_of_root (hroot _ (List.mem_of_getElem? ho))
      (fun k hk => hroot k (htop k hk)) hne

set_option maxRecDepth 8000 in
theorem topmost_sampleProgram :
    ∃ opening closing, (Marker.topmost "on" sampleProgram)[1]? = some opening ∧
      (Marker.topmost "on" sampleProgram)[2]? = some closing ∧
      closing.ancestors = opening.ancestors := by
  rw [sampleProgram, Concrete.toSyntax_eq]
  exact ⟨_, _, rfl, rfl, rfl⟩

theorem sampleText_uncut :
    (∃ s, (compile sampleOptions "sample" sampleText (some sampleTree)).outcome = .ok s ∧
      s.result.blocks[1]? = some ⟨1, [.server], 26, 34, false, ["x"], []⟩) ∧
    sampleProgram.Everywhere Node.Ordered ∧ sampleProgram.stop ≤ sampleText.utf8ByteSize ∧
    ∀ l ∈ sampleProgram.lineages [] [], l.site.node.Overlaps 26 34 → l.site.node.Nests 26 34 := by
  obtain ⟨s, hs, hblocks⟩ := compile_sampleTree
  have hw : sampleProgram.Everywhere Node.Ordered := by decide +kernel
  have hlen : sampleProgram.stop ≤ sampleText.utf8ByteSize := by decide +kernel
  have hb : s.result.blocks[1]? = some ⟨1, [.server], 26, 34, false, ["x"], []⟩ := by
    rw [hblocks]
    rfl
  obtain ⟨-, opening, ho, -, -, -, hbody, -⟩ :=
    fragments_cut_only_around_markers hs toSyntax_sampleTree hw hlen 1 _ hb (by decide)
  obtain ⟨opening', closing, ho', hc, hsame⟩ := topmost_sampleProgram
  obtain rfl : opening = opening' := Option.some.inj (ho.symm.trans ho')
  exact ⟨⟨s, hs, hb⟩, hw, hlen, hbody closing hc hsame⟩

/-! ### A marker in a function -/

/-- The last marker stands in a function, and the text goes on behind the function. -/
def asyncText : String := "on:client;async function f()\x7bon:server;g()\x7dh()"

def asyncTree : Concrete.Node :=
  nodeAt "program" 0 46 none
    [sampleMarker 0,
      ⟨"function_declaration", 10, 43, true, false, false, none,
        [⟨"async", 10, 15, false, false, false, none, []⟩,
          ⟨"function", 16, 24, false, false, false, none, []⟩,
          nodeAt "identifier" 25 26 (some "name") [],
          nodeAt "formal_parameters" 26 28 (some "parameters") [],
          nodeAt "statement_block" 28 43 (some "body")
            [sampleMarker 29,
              nodeAt "expression_statement" 39 42 none
                [nodeAt "call_expression" 39 42 none
                  [nodeAt "identifier" 39 40 (some "function") [],
                    nodeAt "arguments" 40 42 (some "arguments") []]]]]⟩,
      nodeAt "expression_statement" 43 46 none
        [nodeAt "call_expression" 43 46 none
          [nodeAt "identifier" 43 44 (some "function") [],
            nodeAt "arguments" 44 46 (some "arguments") []]]]

def asyncProgram : Syntax.Node := (Concrete.toSyntax asyncText.toUTF8 asyncTree).toOption.getD default

/-- The fragment of the server block has the end of the function in it, and not its beginning. -/
theorem asyncText_cut :
    ∃ s, (compile sampleOptions "sample" asyncText (some asyncTree)).outcome = .ok s ∧
      Concrete.toSyntax asyncText.toUTF8 asyncTree = .ok asyncProgram ∧
      asyncProgram.Everywhere Node.Ordered ∧ asyncProgram.stop ≤ asyncText.utf8ByteSize ∧
      ∃ b ∈ s.result.blocks, .server ∈ b.tiers ∧
        (∃ f ∈ s.result.server, f.id = b.id ∧ f.code = "g()\x7dh()\n;__tierOut = \x7b\x7d;") ∧
        ∃ l ∈ asyncProgram.lineages [] [], l.site.node.isFunction = true ∧
          l.site.node.Overlaps b.start b.stop ∧ ¬l.site.node.Nests b.start b.stop := by
  obtain ⟨s, hs, hresult⟩ : ∃ s,
      (compile sampleOptions "sample" asyncText (some asyncTree)).outcome = .ok s ∧
        s.result = ⟨[⟨1, false, "g()\x7dh()\n;__tierOut = \x7b\x7d;", [], []⟩],
          [⟨0, [.client], 10, 29, false, [], []⟩, ⟨1, [.server], 39, 46, false, [], []⟩]⟩ :=
    exists_eq_ok (by decide +kernel)
  refine ⟨s, hs, eq_ok_getD (by decide +kernel), by decide +kernel, by decide +kernel, ?_⟩
  rw [hresult]
  exact ⟨_, List.mem_cons_of_mem _ List.mem_cons_self, by decide,
    ⟨_, List.mem_cons_self, rfl, rfl⟩, by decide +kernel⟩

end Compiler

end TierSplit

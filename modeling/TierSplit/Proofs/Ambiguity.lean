import TierSplit.Proofs.Cuts
import TierSplit.Proofs.Parting

/-! What a marshalled name stands for. Two references that put it into a block, or out of it, read one
declaration, unless a scope parts them: it holds one of the two uses and not the other, and declares
what the one in it reads. A block that runs over the end of such a scope reads the name in it and behind
it. Every node around a use and a declaration in different blocks is around a marker; so with all
markers in the module's body there is no such scope. -/

namespace TierSplit.Syntax

theorem under_of_suffix {n : Node} {ancestors : List Site} {path : Path} {l : Lineage}
    (hl : l ∈ n.lineages ancestors path) {t : Site} (ht : t ∈ n.sites path)
    (hsuffix : t.path <:+ l.site.path) : t = l.site ∨ t ∈ l.ancestors := by
  induction n using Node.childInduction generalizing ancestors path with
  | step n ih =>
    rw [Node.sites_eq, List.mem_cons, List.mem_flatMap] at ht
    rcases ht with rfl | ⟨u, hu, ht⟩
    · exact (Scope.eq_or_mem_ancestors hl).imp_left Eq.symm
    · obtain ⟨i, -, hi⟩ := Site.mem_children.1 hu
      have hui := (suffix_of_mem_sites ht).trans hsuffix
      rw [hi] at hui
      rw [Node.lineages_eq, List.mem_cons, List.mem_flatMap] at hl
      rcases hl with rfl | ⟨v, hv, hl⟩
      · exact absurd hui (not_cons_suffix i path)
      · -- the path of the site tells the child that both are in
        obtain ⟨j, -, hj⟩ := Site.mem_children.1 hv
        have hvj := suffix_of_mem_sites (Lineage.site_mem hl)
        rw [hj] at hvj
        obtain rfl : u = v := by
          refine Scope.eq_of_mem_children hu hv ?_
          rw [hi, hj, eq_of_suffix hui hvj]
        exact ih _ (Site.node_mem_of_mem_children hu) hl ht

end TierSplit.Syntax

namespace TierSplit

open Syntax Concrete Scope

/-- A use of the name in the first block, no tier token, that reads the declaration in the second. -/
structure Carries (label : String) (program : Syntax.Node) (name : String) (user declarer : Summary)
    (r : Reference) (d : Occurrence) : Prop where
  recorded : r ∈ (analyze program).references
  declaration : r.declaration = some d
  name : r.use.name = name
  plain : ¬TierToken label program r.use
  user : user.Owns r.use
  declarer : declarer.Owns d

/-- The reference puts the name into the inputs of the block. -/
def BringsIn (label : String) (program : Syntax.Node) (blocks : List Summary) (b : Summary)
    (name : String) (r : Reference) (d : Occurrence) : Prop :=
  ∃ b' ∈ blocks, b' ≠ b ∧ b.Disjoint b' ∧ Carries label program name b b' r d

/-- The reference puts the name into the outputs of the block. -/
def SendsOut (label : String) (program : Syntax.Node) (blocks : List Summary) (b : Summary)
    (name : String) (r : Reference) (d : Occurrence) : Prop :=
  ∃ b' ∈ blocks, b' ≠ b ∧ b'.Disjoint b ∧ Carries label program name b' b r d

/-- A scope parts the second use from the first one and its declaration, and every node below the root
that is around these two is around a marker. -/
structure Parted (label : String) (program : Syntax.Node) (u d u' : Occurrence) : Prop where
  scope : Parts program u d u'
  around : ∀ t ∈ program.sites [], t ≠ Site.root program → t.path <:+ u.path → t.path <:+ d.path →
    ∃ k ∈ Marker.topmost label program, t ∈ k.ancestors

theorem readsFrom_iff {label : String} {program : Syntax.Node} {name : String}
    {user declarer : Summary} : ReadsFrom label program name user declarer ↔
      ∃ r d, Carries label program name user declarer r d := by
  constructor
  · rintro ⟨r, hr, d, hd, hn, htoken, hu, hdo⟩
    exact ⟨r, d, hr, hd, hn, htoken, hu, hdo⟩
  · rintro ⟨r, d, h⟩
    exact ⟨r, h.recorded, d, h.declaration, h.name, h.plain, h.user, h.declarer⟩

theorem exists_readsFrom_iff {label : String} {program : Syntax.Node} {name : String}
    {blocks : List Summary} {b : Summary} {apart : Summary → Prop}
    (user declarer : Summary → Summary) :
    (∃ b' ∈ blocks, b' ≠ b ∧ apart b' ∧ ReadsFrom label program name (user b') (declarer b')) ↔
      ∃ r d, ∃ b' ∈ blocks, b' ≠ b ∧ apart b' ∧
        Carries label program name (user b') (declarer b') r d := by
  simp only [readsFrom_iff]
  constructor
  · rintro ⟨b', hb', hne, htiers, r, d, hr⟩
    exact ⟨r, d, b', hb', hne, htiers, hr⟩
  · rintro ⟨r, d, b', hb', hne, htiers, hr⟩
    exact ⟨b', hb', hne, htiers, r, d, hr⟩

theorem not_parted_of_root {label : String} {program : Syntax.Node} {u d u' : Occurrence}
    (h : ∀ k ∈ Marker.topmost label program, k.ancestors = [Site.root program]) :
    ¬Parted label program u d u' := by
  rintro ⟨⟨t, items, hcaptures, -⟩, haround⟩
  obtain ⟨kind, hopens, -⟩ := hcaptures.opens
  have hne : t ≠ Site.root program := by
    rintro rfl
    exact hopens.path_ne_nil rfl
  obtain ⟨k, hk, hmem⟩ := haround t hopens.mem_sites hne hcaptures.suffix.1 hcaptures.suffix.2
  rw [h k hk] at hmem
  exact hne (List.mem_singleton.1 hmem)

/-! ### Nodes without markers -/

theorem span_of_suffix {program : Syntax.Node} (hw : program.Everywhere Node.Ordered) {leaf : Item}
    {o : Occurrence} (ho : Stems program leaf o) {t : Site} (ht : t ∈ program.sites [])
    (hsuffix : t.path <:+ o.path) : t.node.start ≤ o.start ∧ o.stop ≤ t.node.stop := by
  obtain ⟨l, hl, hlo, -⟩ := ho
  obtain ⟨-, hpath, hstart, hstop⟩ := Site.eq_of_occurrence? hlo
  rw [hpath] at hsuffix
  rw [hstart, hstop]
  rcases under_of_suffix hl ht hsuffix with rfl | hmem
  · exact ⟨Int.le_refl _, Int.le_refl _⟩
  · exact (span_around hw hl hmem).resolve_left List.not_mem_nil

section

variable {label : String} {program : Syntax.Node} {length : Int} {markers : List Marker}
  (hw : program.Everywhere (WellFormed length)) (hf : program.Everywhere Fits)
  (hscan : (Marker.scan label program).markers = .ok markers)
include hw hf hscan

/-- A node that is around a declaration and around no marker touches no marker. -/
theorem clear_of_unmarked {hoisted : Bool} {d : Occurrence} (hd : Stems program (.bind hoisted d) d)
    {t : Site} (ht : t ∈ program.sites []) (hroot : t ≠ Site.root program) (hsuffix : t.path <:+ d.path)
    (hout : ∀ k ∈ Marker.topmost label program, t ∉ k.ancestors) :
    Block.Clear markers length t.node.start t.node.stop := by
  have hordered := everywhere_ordered hw
  have hclear := clear_of_declared hw hf hscan hd
  have hspan := span_of_suffix hordered hd ht hsuffix
  rw [← map_site_lineages program [] []] at ht
  obtain ⟨l, hl, rfl⟩ := List.mem_map.1 ht
  have hpos := hclear.lt
  refine Block.clear_of_apart hordered hw.here.stop_le hscan hl hroot (by omega) fun k hk => ?_
  -- a marker at the node or above it would span the declaration
  have hunder : ¬l.Under k := by
    intro hunder
    have hkspan : k.site.node.start ≤ l.site.node.start ∧ l.site.node.stop ≤ k.site.node.stop := by
      rcases hunder with heq | hmem
      · rw [heq]
        exact ⟨Int.le_refl _, Int.le_refl _⟩
      · exact (span_around hordered hl hmem).resolve_left List.not_mem_nil
    obtain ⟨m, hm, hkm⟩ := exists_of_mem_right (scan_describes hw hscan).1.flip hk
    have hapart := hclear.apart m hm
    rw [hkm.start, hkm.stop] at hapart
    omega
  refine ⟨hunder, ?_⟩
  rintro (heq | hmem)
  · exact hunder (.inl heq.symm)
  · exact hout k hk hmem

end

namespace Compiler

/-- Any two of the references read one declaration, unless a scope around a marker parts them. With all
markers in the module's body they all read one. -/
def OneBinding (label : String) (program : Syntax.Node) (puts : Reference → Occurrence → Prop) : Prop :=
  ∀ r d r' d', puts r d → puts r' d' →
    (d = d' ∨ Parted label program r.use d r'.use ∨ Parted label program r'.use d' r.use) ∧
    ((∀ k ∈ Marker.topmost label program, k.ancestors = [Site.root program]) → d = d')

section

variable {label : String} {program : Syntax.Node} {length : Int} {markers : List Marker}
  (hw : program.Everywhere (WellFormed length)) (hf : program.Everywhere Fits)
  (hscan : (Marker.scan label program).markers = .ok markers)
  {ls : List Block.Link} {later : List Block}
  (htake : Block.TakesAll (Block.segment markers length) ls later)
include hw hf hscan htake

/-- Where use and declaration are in different blocks, every node around both is around a marker. -/
theorem around_marker_of_carries {name : String} {b b' : Summary} (hb : b ∈ later.map Summary.ofBlock)
    (hb' : b' ∈ later.map Summary.ofBlock) (hne : b' ≠ b) {r : Reference} {d : Occurrence}
    (h : Carries label program name b b' r d) :
    ∀ t ∈ program.sites [], t ≠ Site.root program → t.path <:+ r.use.path → t.path <:+ d.path →
      ∃ k ∈ Marker.topmost label program, t ∈ k.ancestors := by
  intro t ht hroot hu hd
  obtain ⟨huse, hdecl⟩ := reference_stems h.recorded
  obtain ⟨hoisted, hstems⟩ := hdecl d h.declaration
  by_contra hout
  push Not at hout
  -- the block that owns the node owns both ends
  have hclear := clear_of_unmarked hw hf hscan hstems ht hroot hd hout
  obtain ⟨c, ⟨hc, hstart, hstop⟩, -⟩ :=
    existsUnique_owner hw hscan htake (o := ⟨t.path, "", t.node.start, t.node.stop⟩) hclear
  have hordered := everywhere_ordered hw
  have huspan := span_of_suffix hordered huse ht hu
  have hdspan := span_of_suffix hordered hstems ht hd
  have hown : c.Owns r.use := ⟨Int.le_trans hstart huspan.1, Int.le_trans huspan.2 hstop⟩
  have hown' : c.Owns d := ⟨Int.le_trans hstart hdspan.1, Int.le_trans hdspan.2 hstop⟩
  have hbc := (existsUnique_owner hw hscan htake (clear_of_used hw hf hscan huse h.plain)).unique
    ⟨hb, h.user⟩ ⟨hc, hown⟩
  have hbc' := (existsUnique_owner hw hscan htake (clear_of_declared hw hf hscan hstems)).unique
    ⟨hb', h.declarer⟩ ⟨hc, hown'⟩
  exact hne (hbc'.trans hbc.symm)

theorem oneBinding_of_carries (name : String) {puts : Reference → Occurrence → Prop}
    (h : ∀ r d, puts r d → ∃ b ∈ later.map Summary.ofBlock, ∃ b' ∈ later.map Summary.ofBlock,
      b' ≠ b ∧ Carries label program name b b' r d) : OneBinding label program puts := by
  intro r d r' d' hr hr'
  obtain ⟨b, hb, c, hc, hne, hcarries⟩ := h r d hr
  obtain ⟨b', hb', c', hc', hne', hcarries'⟩ := h r' d' hr'
  have hpair : d = d' ∨ Parted label program r.use d r'.use ∨ Parted label program r'.use d' r.use :=
    (eq_or_parts hcarries.recorded hcarries'.recorded (hcarries.name.trans hcarries'.name.symm)
      hcarries.declaration hcarries'.declaration).imp_right <| Or.imp
        (fun hparts => ⟨hparts, around_marker_of_carries hw hf hscan htake hb hc hne hcarries⟩)
        fun hparts => ⟨hparts, around_marker_of_carries hw hf hscan htake hb' hc' hne' hcarries'⟩
  refine ⟨hpair, fun hroot => ?_⟩
  exact hpair.resolve_right (not_or.2 ⟨not_parted_of_root hroot, not_parted_of_root hroot⟩)

end

/-- The references that put a name into the inputs of a block read one declaration, and so do those that
put one into its outputs, but for pairs that a scope around a marker parts. -/
theorem marshalled_names_denote_one_binding {options : Options} {path text : String}
    {root : Concrete.Node} {program : Syntax.Node} {s : Success}
    (h : (compile options path text (some root)).outcome = .ok s)
    (hp : toSyntax text.toUTF8 root = .ok program)
    (hw : program.Everywhere (WellFormed text.utf8ByteSize)) :
    ∀ b ∈ s.result.blocks, ∀ n,
      (n ∈ b.inputs ↔ ∃ r d, BringsIn options.label program s.result.blocks b n r d) ∧
      (n ∈ b.outputs ↔ ∃ r d, SendsOut options.label program s.result.blocks b n r d) ∧
      OneBinding options.label program (BringsIn options.label program s.result.blocks b n) ∧
      OneBinding options.label program (SendsOut options.label program s.result.blocks b n) := by
  have hf : program.Everywhere Fits := toSyntax_fits hp
  obtain ⟨markers, hscan, hfinish⟩ := compile_eq_ok h hp
  obtain ⟨later, htake, hblocks, -⟩ := finish_eq_ok hfinish
  change Block.TakesAll (Block.segment markers text.utf8ByteSize)
    (links program markers text.utf8ByteSize) later at htake
  rw [hblocks]
  intro b hb n
  obtain ⟨i, hi⟩ := List.getElem?_of_mem hb
  refine ⟨?_, ?_, oneBinding_of_carries hw hf hscan htake n ?_,
    oneBinding_of_carries hw hf hscan htake n ?_⟩
  · rw [mem_inputs_iff hw hf hscan htake hi]
    exact exists_readsFrom_iff (fun _ => b) id
  · rw [mem_outputs_iff hw hf hscan htake hi]
    exact exists_readsFrom_iff id fun _ => b
  · rintro r d ⟨b', hb', hne, -, hcarries⟩
    exact ⟨b, hb, b', hb', hne, hcarries⟩
  · rintro r d ⟨b', hb', hne, -, hcarries⟩
    exact ⟨b', hb', b, hb, hne.symm, hcarries⟩

/-- All markers of the sample stand in the module's body. -/
theorem sampleBlocks_unambiguous :
    (∃ s, (compile sampleOptions "sample" sampleText (some sampleTree)).outcome = .ok s ∧
      s.result.blocks = sampleBlocks) ∧
    toSyntax sampleText.toUTF8 sampleTree = .ok sampleProgram ∧
    sampleProgram.Everywhere (WellFormed sampleText.utf8ByteSize) ∧
    ∀ b ∈ sampleBlocks, ∀ n,
      (n ∈ b.inputs ↔ ∃ r d, BringsIn "on" sampleProgram sampleBlocks b n r d) ∧
      (n ∈ b.outputs ↔ ∃ r d, SendsOut "on" sampleProgram sampleBlocks b n r d) ∧
      OneBinding "on" sampleProgram (BringsIn "on" sampleProgram sampleBlocks b n) ∧
      OneBinding "on" sampleProgram (SendsOut "on" sampleProgram sampleBlocks b n) := by
  have hw : sampleProgram.Everywhere (WellFormed sampleText.utf8ByteSize) := by decide +kernel
  refine ⟨compile_sampleTree, toSyntax_sampleTree, hw, ?_⟩
  obtain ⟨s, hs, hblocks⟩ := compile_sampleTree
  rw [← hblocks]
  exact marshalled_names_denote_one_binding hs toSyntax_sampleTree hw

/-! ### A local variable on both sides of a marker -/

/-- The module and a function in it declare `x` for the client, and the server reads both. -/
def shadowText : String := "on:client;let x;async function f()\x7blet x;on:server;x\x7dx"

def shadowTree : Concrete.Node :=
  nodeAt "program" 0 54 none
    [sampleMarker 0,
      nodeAt "lexical_declaration" 10 16 none
        [nodeAt "variable_declarator" 14 15 none [nodeAt "identifier" 14 15 (some "name") []]],
      ⟨"function_declaration", 16, 53, true, false, false, none,
        [⟨"async", 16, 21, false, false, false, none, []⟩,
          ⟨"function", 22, 30, false, false, false, none, []⟩,
          nodeAt "identifier" 31 32 (some "name") [],
          nodeAt "formal_parameters" 32 34 (some "parameters") [],
          nodeAt "statement_block" 34 53 (some "body")
            [nodeAt "lexical_declaration" 35 41 none
              [nodeAt "variable_declarator" 39 40 none [nodeAt "identifier" 39 40 (some "name") []]],
              sampleMarker 41,
              nodeAt "expression_statement" 51 52 none [nodeAt "identifier" 51 52 none []]]]⟩,
      nodeAt "expression_statement" 53 54 none [nodeAt "identifier" 53 54 none []]]

def shadowProgram : Syntax.Node :=
  (toSyntax shadowText.toUTF8 shadowTree).toOption.getD default

def shadowMarkers : List Marker := ((Marker.scan "on" shadowProgram).markers).toOption.getD default

def shadowClient : Summary := ⟨0, [.client], 10, 41, false, [], ["x"]⟩

def shadowServer : Summary := ⟨1, [.server], 51, 54, false, ["x"], []⟩

/-- One name goes into the server block for two declarations. -/
theorem shadowText_ambiguous :
    ∃ s, (compile sampleOptions "sample" shadowText (some shadowTree)).outcome = .ok s ∧
      toSyntax shadowText.toUTF8 shadowTree = .ok shadowProgram ∧
      shadowProgram.Everywhere (WellFormed shadowText.utf8ByteSize) ∧
      ∃ b ∈ s.result.blocks, ∃ b' ∈ s.result.blocks, "x" ∈ b.inputs ∧ "x" ∈ b'.outputs ∧
        ∃ r d r' d', d ≠ d' ∧
          BringsIn "on" shadowProgram s.result.blocks b "x" r d ∧
          BringsIn "on" shadowProgram s.result.blocks b "x" r' d' ∧
          SendsOut "on" shadowProgram s.result.blocks b' "x" r d ∧
          SendsOut "on" shadowProgram s.result.blocks b' "x" r' d' := by
  have hscan : (Marker.scan "on" shadowProgram).markers = .ok shadowMarkers :=
    eq_ok_getD (by decide +kernel)
  obtain ⟨s, hs, hblocks⟩ : ∃ s,
      (compile sampleOptions "sample" shadowText (some shadowTree)).outcome = .ok s ∧
        s.result.blocks = [shadowClient, shadowServer] := exists_eq_ok (by decide +kernel)
  have hcarries : ∀ r d, r ∈ (analyze shadowProgram).references → r.declaration = some d →
      r.use.name = "x" → isTierToken shadowMarkers r = false → shadowServer.Owns r.use →
      shadowClient.Owns d → Carries "on" shadowProgram "x" shadowServer shadowClient r d := by
    intro r d hr hd hname htoken huser hdeclarer
    refine ⟨hr, hd, hname, ?_, huser, hdeclarer⟩
    rw [← isTierToken_iff_of_scan hscan, htoken]
    exact Bool.false_ne_true
  have hinner := hcarries ⟨⟨[0, 2, 2, 2], "x", 51, 52⟩, some ⟨[0, 0, 0, 2, 2], "x", 39, 40⟩⟩ _
    (by decide +kernel) rfl rfl (by decide +kernel) ⟨by decide, by decide⟩ ⟨by decide, by decide⟩
  have houter := hcarries ⟨⟨[0, 3], "x", 53, 54⟩, some ⟨[0, 0, 1], "x", 14, 15⟩⟩ _
    (by decide +kernel) rfl rfl (by decide +kernel) ⟨by decide, by decide⟩ ⟨by decide, by decide⟩
  refine ⟨s, hs, eq_ok_getD (by decide +kernel), by decide +kernel, ?_⟩
  rw [hblocks]
  have hclient : shadowClient ∈ [shadowClient, shadowServer] := .head _
  have hserver : shadowServer ∈ [shadowClient, shadowServer] := .tail _ (.head _)
  have hdisjoint : shadowServer.Disjoint shadowClient := by
    unfold Summary.Disjoint
    decide
  exact ⟨_, hserver, _, hclient, by decide, by decide, _, _, _, _, by decide,
    ⟨_, hclient, by decide, hdisjoint, hinner⟩, ⟨_, hclient, by decide, hdisjoint, houter⟩,
    ⟨_, hserver, by decide, hdisjoint, hinner⟩, ⟨_, hserver, by decide, hdisjoint, houter⟩⟩

/-- The server block reads `x` for the module's variable in the computed name of a method, and for that of
the method's body in a default value. -/
def methodText : String :=
  "on:client;let x;on:server;(\x7basync [x](a=x)\x7bon:client;var x\x7d\x7d)"

def methodTree : Concrete.Node :=
  nodeAt "program" 0 61 none
    [sampleMarker 0,
      nodeAt "lexical_declaration" 10 16 none
        [nodeAt "variable_declarator" 14 15 none [nodeAt "identifier" 14 15 (some "name") []]],
      sampleMarker 16,
      nodeAt "expression_statement" 26 61 none
        [nodeAt "parenthesized_expression" 26 61 none
          [nodeAt "object" 27 60 none
            [⟨"method_definition", 28, 59, true, false, false, none,
              [⟨"async", 28, 33, false, false, false, none, []⟩,
                nodeAt "computed_property_name" 34 37 (some "name") [nodeAt "identifier" 35 36 none []],
                nodeAt "formal_parameters" 37 42 (some "parameters")
                  [nodeAt "assignment_pattern" 38 41 none
                    [nodeAt "identifier" 38 39 (some "left") [],
                      nodeAt "identifier" 40 41 (some "right") []]],
                nodeAt "statement_block" 42 59 (some "body")
                  [sampleMarker 43,
                    nodeAt "variable_declaration" 53 58 none
                      [nodeAt "variable_declarator" 57 58 none
                        [nodeAt "identifier" 57 58 (some "name") []]]]]⟩]]]]

example : ((toSyntax methodText.toUTF8 methodTree).map fun program =>
    (analyze program).resolved.map fun r => (r.use.start, r.declaration.map Occurrence.start)).toOption =
      some [(35, some 14), (40, some 57)] := by
  decide +kernel

example : ((compile sampleOptions "sample" methodText (some methodTree)).outcome.map fun s =>
    s.result.blocks).toOption =
      some [⟨0, [.client], 10, 16, false, [], ["x"]⟩, ⟨1, [.server], 26, 43, false, ["x"], []⟩,
        ⟨2, [.client], 53, 61, false, [], ["x"]⟩] := by
  decide +kernel

end Compiler

end TierSplit

import TierSplit.Compiler
import TierSplit.Proofs.Classification
import TierSplit.Proofs.Fallible
import TierSplit.Proofs.Fragments
import TierSplit.Proofs.Nesting
import TierSplit.Proofs.Outside

/-! What a compilation reports is exact. A block has a name as input exactly if a use of the name lies
in it and reads a declaration in another block that shares no tier with it; as output, exactly if it
holds such a declaration; and it needs session state exactly if it runs on the server and reads from
another block that does. Summaries and fragments agree on all of this. -/

namespace TierSplit

open Syntax Concrete Scope

/-- The block holds the identifier. -/
def Summary.Owns (b : Summary) (o : Occurrence) : Prop := b.start ≤ o.start ∧ o.stop ≤ b.stop

/-- No tier runs both blocks. -/
def Summary.Disjoint (b b' : Summary) : Prop := ∀ t ∈ b.tiers, t ∉ b'.tiers

/-- A use of the name in the first block, no tier token, that reads a declaration in the second. -/
def ReadsFrom (label : String) (program : Syntax.Node) (name : String) (user declarer : Summary) :
    Prop :=
  ∃ r ∈ (analyze program).references, ∃ d, r.declaration = some d ∧ r.use.name = name ∧
    ¬TierToken label program r.use ∧ user.Owns r.use ∧ declarer.Owns d

/-- A use of the name, no tier token, that block `user` owns and that reads a declaration that block
`declarer` owns. -/
def ReadsAcross (label : String) (program : Syntax.Node) (blocks : List Block) (name : String)
    (user declarer : Nat) : Prop :=
  ∃ r ∈ (analyze program).references, ∃ d, r.declaration = some d ∧ r.use.name = name ∧
    ¬TierToken label program r.use ∧ Block.ownerIndex blocks r.use.stop = user ∧
    Block.ownerIndex blocks d.stop = declarer

/-! ### Tiers -/

theorem TierSet.mem_toList_ofList (tiers : List Tier) (t : Tier) :
    t ∈ (TierSet.ofList tiers).toList ↔ t ∈ tiers := by
  rw [TierSet.mem_toList]
  cases t <;> exact decide_eq_true_iff

/-! ### Tokens -/

theorem isTierToken_iff {label : String} {program : Syntax.Node} {markers : List Marker}
    (h : List.Forall₂ Marker.Describes (Marker.topmost label program) markers) (r : Reference) :
    Compiler.isTierToken markers r = true ↔ TierToken label program r.use := by
  simp only [Compiler.isTierToken, List.any_eq_true, beq_iff_eq]
  constructor
  · rintro ⟨m, hm, o, ho, hpath⟩
    obtain ⟨k, hk, hkm⟩ := exists_of_mem_right h hm
    obtain ⟨tokens, hs, hperm, -⟩ := hkm.tokens
    obtain ⟨t, ht, hto⟩ := List.mem_filterMap.1 (hperm.mem_iff.1 ho)
    exact ⟨k, hk, tokens, hs, t, ht, (Site.eq_of_occurrence? hto).2.1.symm.trans hpath⟩
  · rintro ⟨k, hk, tokens, hs, t, ht, hpath⟩
    obtain ⟨m, hm, hkm⟩ := exists_of_mem_right h.flip hk
    obtain ⟨tokens', hs', hperm, -⟩ := hkm.tokens
    obtain ⟨o, ho⟩ := Site.exists_occurrence? (hs.isIdentifier ht)
    refine ⟨m, hm, o, hperm.mem_iff.2 (List.mem_filterMap.2 ⟨t, ?_, ho⟩), ?_⟩
    · rw [← hs.unique hs']
      exact ht
    · rw [(Site.eq_of_occurrence? ho).2.1, hpath]

/-! ### The compiler -/

namespace Compiler

theorem unfrozen_segment (markers : List Marker) (length : Int) :
    Block.Unfrozen (Block.segment markers length) := by
  intro b hb
  obtain ⟨i, hi⟩ := List.getElem?_of_mem hb
  rw [Block.getElem?_segment, Option.map_eq_some_iff] at hi
  obtain ⟨m, -, rfl⟩ := hi
  rfl

def links (program : Syntax.Node) (markers : List Marker) (length : Int) : List Block.Link :=
  (analyze program).resolved.filterMap
    (Block.link? (Block.segment markers length) (isTierToken markers))

/-- The blocks take what the links bring; then only rendering them can fail. -/
theorem finish_eq (options : Options) (source : Source) (program : Syntax.Node)
    (markers : List Marker) :
    ∃ later count,
      Block.TakesAll (Block.segment markers source.size) (links program markers source.size) later ∧
      finish options source (analyze program) markers =
        (Fragment.generate source.bytes options.channels (later.map Block.freeze)).map fun fragments =>
          ⟨⟨fragments, later.map Summary.ofBlock⟩,
            ⟨markers.length, later.length, fragments.length, count⟩,
            (analyze program).references.length⟩ := by
  obtain ⟨hfail, htake⟩ := Block.classifyFrom_takesAll (unfrozen_segment markers source.size) 0
    (isTierToken markers) (analyze program).resolved
  refine ⟨_, (Block.classify (analyze program).resolved (isTierToken markers)
    (Block.segment markers source.size)).count, htake, ?_⟩
  unfold finish
  simp only [Block.classify, hfail, List.map_map, List.length_map]
  cases Fragment.generate source.bytes options.channels _ <;> rfl

/-- A successful run has classified, cut and rendered: the blocks have taken what the links bring, and
each server block has its fragment. -/
theorem finish_generates {options : Options} {source : Source} {program : Syntax.Node}
    {markers : List Marker} {s : Success}
    (h : finish options source (analyze program) markers = .ok s) :
    ∃ later, Block.TakesAll (Block.segment markers source.size) (links program markers source.size) later ∧
      s.result.blocks = later.map Summary.ofBlock ∧
      List.Forall₂ (fun f b => Fragment.ofBlock source.bytes options.channels b.freeze = .ok f)
        s.result.server (later.filter Block.isServer) := by
  obtain ⟨later, count, htake, heq⟩ := finish_eq options source program markers
  rw [heq, map_eq_ok_iff] at h
  obtain ⟨fragments, hg, rfl⟩ := h
  refine ⟨later, htake, rfl, ?_⟩
  have hfragments := Fragment.generate_eq_ok hg
  rwa [List.filter_map, List.forall₂_map_right_iff] at hfragments

theorem finish_eq_ok {options : Options} {source : Source} {program : Syntax.Node}
    {markers : List Marker} {s : Success}
    (h : finish options source (analyze program) markers = .ok s) :
    ∃ later, Block.TakesAll (Block.segment markers source.size) (links program markers source.size) later ∧
      s.result.blocks = later.map Summary.ofBlock ∧
      List.Forall₂ Fragment.Shows s.result.server (later.filter Block.isServer) := by
  obtain ⟨later, htake, hblocks, hserver⟩ := finish_generates h
  refine ⟨later, htake, hblocks, hserver.imp fun f b hf => ?_⟩
  have hshows := (Fragment.ofBlock_eq_ok hf).1
  exact ⟨hshows.id, hshows.session, hshows.inputs, hshows.outputs⟩

theorem exists_fragment {bytes : ByteArray} {channels : Channels} {later : List Block}
    {server : List Fragment}
    (h : List.Forall₂ (fun f b => Fragment.ofBlock bytes channels b.freeze = .ok f) server
      (later.filter Block.isServer)) {b : Summary} (hb : b ∈ later.map Summary.ofBlock)
    (hserver : .server ∈ b.tiers) : ∃ f ∈ server, f.Renders bytes channels b := by
  obtain ⟨x, hx, rfl⟩ := List.mem_map.1 hb
  have hx : x ∈ later.filter Block.isServer :=
    List.mem_filter.2 ⟨hx, (TierSet.mem_toList x.tiers .server).1 hserver⟩
  obtain ⟨f, hf, hfx⟩ := exists_of_mem_right h hx
  exact ⟨f, hf, (Fragment.ofBlock_eq_ok hfx).2⟩

theorem accept_eq_ok {source : Source} {allowErrors : Bool} {tree : Option Concrete.Node}
    {root : Concrete.Node} (h : (accept source allowErrors tree).tree = .ok root) :
    tree = some root := by
  unfold accept at h
  split at h
  · cases tree with
    | none => cases h
    | some given =>
      simp only at h
      split at h
      · cases h
      · cases h
        rfl
  · cases h

/-- The outcome of a run: each stage works on what the one before it has made. -/
theorem outcome_eq (options : Options) (path text : String) (tree : Option Concrete.Node) :
    (compile options path text tree).outcome = (do
      let root ← (accept ⟨path, text, options.language⟩ false tree).tree
      let program ← toSyntax text.toUTF8 root
      let graph ← analyzeWithin options.room program
      let markers ← (Marker.scan options.label program).markers.mapError .diagnostic
      finish options ⟨path, text, options.language⟩ graph markers) := by
  have hbytes : Source.bytes ⟨path, text, options.language⟩ = text.toUTF8 := rfl
  unfold compile
  simp only [hbytes]
  cases (accept ⟨path, text, options.language⟩ false tree).tree with
  | error e => rfl
  | ok root =>
    simp only [ok_bind]
    cases toSyntax text.toUTF8 root with
    | error e => rfl
    | ok program =>
      simp only [ok_bind, compileSyntax]
      cases analyzeWithin options.room program with
      | error e => rfl
      | ok graph => cases (Marker.scan options.label program).markers <;> rfl

theorem compile_eq_ok {options : Options} {path text : String} {root : Concrete.Node} {s : Success}
    {program : Syntax.Node} (h : (compile options path text (some root)).outcome = .ok s)
    (hp : toSyntax text.toUTF8 root = .ok program) :
    ∃ markers, (Marker.scan options.label program).markers = .ok markers ∧
      finish options ⟨path, text, options.language⟩ (analyze program) markers = .ok s := by
  rw [outcome_eq] at h
  obtain ⟨root', hroot, h⟩ := bind_eq_ok_iff.1 h
  obtain ⟨program', hp', h⟩ := bind_eq_ok_iff.1 h
  cases accept_eq_ok hroot
  obtain rfl : program = program' := by
    rw [hp] at hp'
    exact Except.ok.inj hp'
  obtain ⟨graph, hgraph, h⟩ := bind_eq_ok_iff.1 h
  obtain ⟨-, rfl⟩ := analyzeWithin_eq_ok_iff.1 hgraph
  obtain ⟨markers, hscan, h⟩ := bind_eq_ok_iff.1 h
  exact ⟨markers, mapError_eq_ok_iff.1 hscan, h⟩

theorem exists_index_iff {α : Type} {l : List α} {p : Nat → Prop} {q : α → Prop}
    (hp : ∀ j, p j → ∃ a, l[j]? = some a) (h : ∀ j a, l[j]? = some a → (p j ↔ q a)) :
    (∃ j, p j) ↔ ∃ a ∈ l, q a := by
  constructor
  · rintro ⟨j, hj⟩
    obtain ⟨a, ha⟩ := hp j hj
    exact ⟨a, List.mem_of_getElem? ha, (h j a ha).1 hj⟩
  · rintro ⟨a, ha, hq⟩
    obtain ⟨j, hj⟩ := List.getElem?_of_mem ha
    exact ⟨j, (h j a hj).2 hq⟩

/-- Block `i` of a module and its summary. -/
structure Summarizes (markers : List Marker) (length : Int) (links : List Block.Link) (i : Nat)
    (b : Summary) (x : Block) : Prop where
  block : (Block.segment markers length)[i]? = some x
  id : b.id = i
  tiers : b.tiers = x.tiers.toList
  start : b.start = x.start
  stop : b.stop = x.stop
  inputs : ∀ n, n ∈ b.inputs ↔
    ∃ j, (i, j, n) ∈ links ∧ Block.Crosses .channel (Block.segment markers length) i j
  outputs : ∀ n, n ∈ b.outputs ↔
    ∃ j, (j, i, n) ∈ links ∧ Block.Crosses .channel (Block.segment markers length) j i
  session : b.session = true ↔
    ∃ j n, (i, j, n) ∈ links ∧ Block.Crosses .session (Block.segment markers length) i j

theorem Summarizes.lt {markers : List Marker} {length : Int} {links : List Block.Link} {i : Nat}
    {b : Summary} {x : Block} (h : Summarizes markers length links i b x) :
    i < (Block.segment markers length).length :=
  (List.getElem?_eq_some_iff.1 h.block).1

section

variable {markers : List Marker} {length : Int} {ls : List Block.Link} {later : List Block}
  (htake : Block.TakesAll (Block.segment markers length) ls later)
include htake

theorem summarizes_of_getElem? {i : Nat} {b : Summary}
    (hb : (later.map Summary.ofBlock)[i]? = some b) :
    ∃ x, Summarizes markers length ls i b x := by
  rw [List.getElem?_map, Option.map_eq_some_iff] at hb
  obtain ⟨x', hx', rfl⟩ := hb
  obtain ⟨x, hx, ht⟩ := htake.exists_before hx'
  have hnew := hx
  rw [Block.getElem?_segment, Option.map_eq_some_iff] at hnew
  obtain ⟨m, -, rfl⟩ := hnew
  refine ⟨_, hx, ?_, ?_, ht.kept.start, ht.kept.stop, fun n => ?_, fun n => ?_, ?_⟩
  · exact congrArg Int.ofNat ht.kept.id
  · exact congrArg TierSet.toList ht.kept.tiers
  · exact (ht.inputs n).trans (by simp [Block.new])
  · exact (ht.outputs n).trans (by simp [Block.new])
  · exact ht.session.trans (by simp [Block.new])

theorem blocks_of_markers :
    List.Forall₂ (fun b m => b.start = m.stop ∧ ∀ t, t ∈ b.tiers ↔ t ∈ m.tiers)
      (later.map Summary.ofBlock) markers := by
  have hlen : (later.map Summary.ofBlock).length = markers.length := by
    rw [List.length_map, htake.1, Block.segment, Block.length_segmentFrom]
  rw [List.forall₂_iff_get]
  refine ⟨hlen, fun i hi hm => ?_⟩
  obtain ⟨x, hs⟩ := summarizes_of_getElem? htake (List.getElem?_eq_getElem hi)
  have hx := hs.block
  rw [Block.getElem?_segment, List.getElem?_eq_getElem hm, Option.map_some, Option.some.injEq] at hx
  rw [List.get_eq_getElem, List.get_eq_getElem, hs.start, hs.tiers, ← hx]
  exact ⟨rfl, TierSet.mem_toList_ofList _⟩

theorem exists_summary {i : Nat} {x : Block} (hx : (Block.segment markers length)[i]? = some x) :
    ∃ b, (later.map Summary.ofBlock)[i]? = some b ∧ Summarizes markers length ls i b x := by
  obtain ⟨x', hx', -⟩ := htake.2 i x hx
  have hb : (later.map Summary.ofBlock)[i]? = some (Summary.ofBlock x') := by
    rw [List.getElem?_map, hx', Option.map_some]
  obtain ⟨y, hy⟩ := summarizes_of_getElem? htake hb
  obtain rfl : x = y := by
    have := hy.block
    rw [hx] at this
    cases this
    rfl
  exact ⟨_, hb, hy⟩

end

namespace Summarizes

variable {markers : List Marker} {length : Int} {ls : List Block.Link} {i j : Nat} {b b' : Summary}
  {x x' : Block} (h : Summarizes markers length ls i b x) (h' : Summarizes markers length ls j b' x')
include h h'

theorem ne_iff {blocks : List Summary} (hb : blocks[i]? = some b) (hb' : blocks[j]? = some b') :
    i ≠ j ↔ b' ≠ b := by
  refine not_congr ⟨?_, ?_⟩
  · rintro rfl
    rw [hb] at hb'
    cases hb'
    rfl
  · rintro rfl
    have := h.id.symm.trans h'.id
    omega

theorem crosses_channel_iff :
    Block.Crosses .channel (Block.segment markers length) i j ↔ i ≠ j ∧ b.Disjoint b' := by
  rw [Block.crosses_unique h.block h'.block, Block.crossing_eq_channel, Summary.Disjoint, h.tiers,
    h'.tiers]

theorem crosses_session_iff :
    Block.Crosses .session (Block.segment markers length) i j ↔
      i ≠ j ∧ .server ∈ b.tiers ∧ .server ∈ b'.tiers := by
  rw [Block.crosses_unique h.block h'.block, Block.crossing_eq_session, h.tiers, h'.tiers]

end Summarizes

section

variable {label : String} {program : Syntax.Node} {markers : List Marker}
  (hscan : (Marker.scan label program).markers = .ok markers)
include hscan

/-- The order of the markers does not matter for what is a tier token. -/
theorem isTierToken_iff_of_scan (r : Reference) :
    isTierToken markers r = true ↔ TierToken label program r.use := by
  obtain ⟨-, hn, rfl⟩ := Marker.markers_eq_ok hscan
  rw [← isTierToken_iff (Marker.checkAll_eq_none hn).2, isTierToken, isTierToken,
    (sortBy_perm _ _).any_eq]

theorem mem_links_iff_readsAcross {length : Int} {i j : Nat}
    (hi : i < (Block.segment markers length).length) (hj : j < (Block.segment markers length).length)
    (n : String) :
    (i, j, n) ∈ links program markers length ↔
      ReadsAcross label program (Block.segment markers length) n i j := by
  rw [links, List.mem_filterMap]
  constructor
  · rintro ⟨r, hr, hl⟩
    obtain ⟨d, hd, htoken, hn, ⟨hu, -⟩, hdo, -⟩ := Block.link?_eq_some.1 hl
    rw [isTierToken_iff_of_scan hscan] at htoken
    exact ⟨r, (List.mem_filter.1 hr).1, d, hd, hn, htoken, hu, hdo⟩
  · rintro ⟨r, hr, d, hd, hn, htoken, hu, hdo⟩
    rw [← isTierToken_iff_of_scan hscan] at htoken
    exact ⟨r, List.mem_filter.2 ⟨hr, by simp [hd]⟩,
      Block.link?_eq_some.2 ⟨d, hd, htoken, hn, ⟨hu, hi⟩, hdo, hj⟩⟩

end

section

variable {label : String} {program : Syntax.Node} {length : Int} {markers : List Marker}
  (hw : program.Everywhere (WellFormed length)) (hf : program.Everywhere Fits)
  (hscan : (Marker.scan label program).markers = .ok markers)
include hw hf hscan

/-- The links are the uses that read from one block into another, tier tokens apart. -/
theorem mem_links_iff {i j : Nat} {b b' : Summary} {x x' : Block} {ls : List Block.Link}
    (h : Summarizes markers length ls i b x) (h' : Summarizes markers length ls j b' x') (n : String) :
    (i, j, n) ∈ links program markers length ↔ ReadsFrom label program n b b' := by
  obtain ⟨-, hapart⟩ := scan_describes hw hscan
  have howner : ∀ r ∈ (analyze program).references, ∀ d, r.declaration = some d →
      ¬TierToken label program r.use →
      (Block.ownerIndex (Block.segment markers length) r.use.stop = i ↔ b.Owns r.use) ∧
      (Block.ownerIndex (Block.segment markers length) d.stop = j ↔ b'.Owns d) := by
    intro r hr d hd htoken
    obtain ⟨huse, hdecl⟩ := reference_stems hr
    obtain ⟨hoisted, hstems⟩ := hdecl d hd
    have hu := (clear_of_used hw hf hscan huse htoken).ownerIndex_eq_iff hapart h.block
    have hd := (clear_of_declared hw hf hscan hstems).ownerIndex_eq_iff hapart h'.block
    rw [Summary.Owns, Summary.Owns, h.start, h.stop, h'.start, h'.stop]
    exact ⟨hu, hd⟩
  rw [mem_links_iff_readsAcross hscan h.lt h'.lt]
  constructor
  · rintro ⟨r, hr, d, hd, hn, htoken, hu, hdo⟩
    obtain ⟨hown, hown'⟩ := howner r hr d hd htoken
    exact ⟨r, hr, d, hd, hn, htoken, hown.1 hu, hown'.1 hdo⟩
  · rintro ⟨r, hr, d, hd, hn, htoken, hu, hdo⟩
    obtain ⟨hown, hown'⟩ := howner r hr d hd htoken
    exact ⟨r, hr, d, hd, hn, htoken, hown.2 hu, hown'.2 hdo⟩

omit hf in
theorem existsUnique_owner {ls : List Block.Link} {later : List Block}
    (htake : Block.TakesAll (Block.segment markers length) ls later) {o : Occurrence}
    (hc : Block.Clear markers length o.start o.stop) :
    ∃! b, b ∈ later.map Summary.ofBlock ∧ b.Owns o := by
  obtain ⟨-, hapart⟩ := scan_describes hw hscan
  have hx := List.getElem?_eq_getElem (hc.ownerIndex_lt hapart)
  obtain ⟨b, hb, hs⟩ := exists_summary htake hx
  refine ⟨b, ⟨List.mem_of_getElem? hb, ?_⟩, ?_⟩
  · rw [Summary.Owns, hs.start, hs.stop]
    exact (hc.ownerIndex_eq_iff hapart hs.block).1 rfl
  · rintro b' ⟨hb', hown⟩
    obtain ⟨j, hj⟩ := List.getElem?_of_mem hb'
    obtain ⟨x', hs'⟩ := summarizes_of_getElem? htake hj
    rw [Summary.Owns, hs'.start, hs'.stop] at hown
    rw [← (hc.ownerIndex_eq_iff hapart hs'.block).2 hown, hb] at hj
    cases hj
    rfl

variable {later : List Block}
  (htake : Block.TakesAll (Block.segment markers length) (links program markers length) later)
include htake

omit hw hf hscan in
theorem exists_of_crosses {c : Block.Crossing} {i j : Nat}
    (hc : Block.Crosses c (Block.segment markers length) i j) :
    (∃ b, (later.map Summary.ofBlock)[i]? = some b) ∧ ∃ b, (later.map Summary.ofBlock)[j]? = some b := by
  obtain ⟨-, x, y, hx, hy, -⟩ := hc
  obtain ⟨b, hb, -⟩ := exists_summary htake hx
  obtain ⟨b', hb', -⟩ := exists_summary htake hy
  exact ⟨⟨b, hb⟩, b', hb'⟩

variable {i : Nat} {b : Summary} (hi : (later.map Summary.ofBlock)[i]? = some b)
include hi

theorem mem_inputs_iff (n : String) : n ∈ b.inputs ↔
    ∃ b' ∈ later.map Summary.ofBlock, b' ≠ b ∧ b.Disjoint b' ∧ ReadsFrom label program n b b' := by
  obtain ⟨x, hs⟩ := summarizes_of_getElem? htake hi
  rw [hs.inputs]
  refine exists_index_iff (fun j hj => (exists_of_crosses htake hj.2).2) fun j b' hj => ?_
  obtain ⟨x', hs'⟩ := summarizes_of_getElem? htake hj
  rw [mem_links_iff hw hf hscan hs hs', hs.crosses_channel_iff hs', hs.ne_iff hs' hi hj]
  tauto

theorem mem_outputs_iff (n : String) : n ∈ b.outputs ↔
    ∃ b' ∈ later.map Summary.ofBlock, b' ≠ b ∧ b'.Disjoint b ∧ ReadsFrom label program n b' b := by
  obtain ⟨x, hs⟩ := summarizes_of_getElem? htake hi
  rw [hs.outputs]
  refine exists_index_iff (fun j hj => (exists_of_crosses htake hj.2).1) fun j b' hj => ?_
  obtain ⟨x', hs'⟩ := summarizes_of_getElem? htake hj
  rw [mem_links_iff hw hf hscan hs' hs, hs'.crosses_channel_iff hs, hs'.ne_iff hs hj hi, ne_comm]
  tauto

theorem session_iff : b.session = true ↔ .server ∈ b.tiers ∧
    ∃ b' ∈ later.map Summary.ofBlock, b' ≠ b ∧ .server ∈ b'.tiers ∧
      ∃ n, ReadsFrom label program n b b' := by
  obtain ⟨x, hs⟩ := summarizes_of_getElem? htake hi
  have hlink : ∀ j b', (later.map Summary.ofBlock)[j]? = some b' →
      ((∃ n, (i, j, n) ∈ links program markers length ∧
        Block.Crosses .session (Block.segment markers length) i j) ↔
      .server ∈ b.tiers ∧ b' ≠ b ∧ .server ∈ b'.tiers ∧ ∃ n, ReadsFrom label program n b b') := by
    intro j b' hj
    obtain ⟨x', hs'⟩ := summarizes_of_getElem? htake hj
    simp only [mem_links_iff hw hf hscan hs hs', hs.crosses_session_iff hs', hs.ne_iff hs' hi hj,
      exists_and_right]
    tauto
  rw [hs.session, exists_index_iff
    (fun j ⟨n, _, hc⟩ => (exists_of_crosses htake hc).2) hlink]
  constructor
  · rintro ⟨b', hb', hserver, h⟩
    exact ⟨hserver, b', hb', h⟩
  · rintro ⟨hserver, b', hb', h⟩
    exact ⟨b', hb', hserver, h⟩

end

/-- Inputs, outputs and session state of a compiled module are exactly what its resolved uses call
for, block by block, and the fragments say the same as the summaries. -/
theorem compile_crossings_exact {options : Options} {path text : String} {root : Concrete.Node}
    {program : Syntax.Node} {s : Success}
    (h : (compile options path text (some root)).outcome = .ok s)
    (hp : toSyntax text.toUTF8 root = .ok program)
    (hw : program.Everywhere (WellFormed text.utf8ByteSize)) :
    (∃ markers, (Marker.scan options.label program).markers = .ok markers ∧
      List.Forall₂ (fun b m => b.start = m.stop ∧ ∀ t, t ∈ b.tiers ↔ t ∈ m.tiers)
        s.result.blocks markers) ∧
    (∀ b ∈ s.result.blocks,
      (∀ n, n ∈ b.inputs ↔ ∃ b' ∈ s.result.blocks, b' ≠ b ∧ b.Disjoint b' ∧
        ReadsFrom options.label program n b b') ∧
      (∀ n, n ∈ b.outputs ↔ ∃ b' ∈ s.result.blocks, b' ≠ b ∧ b'.Disjoint b ∧
        ReadsFrom options.label program n b' b) ∧
      (b.session = true ↔ .server ∈ b.tiers ∧ ∃ b' ∈ s.result.blocks, b' ≠ b ∧
        .server ∈ b'.tiers ∧ ∃ n, ReadsFrom options.label program n b b')) ∧
    (∀ r ∈ (analyze program).references,
      (¬TierToken options.label program r.use → ∃! b, b ∈ s.result.blocks ∧ b.Owns r.use) ∧
      ∀ d, r.declaration = some d → ∃! b, b ∈ s.result.blocks ∧ b.Owns d) ∧
    List.Forall₂ (fun f b => f.id = b.id ∧ f.session = b.session ∧ f.inputs = b.inputs ∧
        f.outputs = b.outputs)
      s.result.server (s.result.blocks.filter fun b => .server ∈ b.tiers) := by
  have hf : program.Everywhere Fits := toSyntax_fits hp
  obtain ⟨markers, hscan, hfinish⟩ := compile_eq_ok h hp
  obtain ⟨later, htake, hblocks, hserver⟩ := finish_eq_ok hfinish
  change Block.TakesAll (Block.segment markers text.utf8ByteSize)
    (links program markers text.utf8ByteSize) later at htake
  rw [hblocks]
  refine ⟨⟨markers, hscan, blocks_of_markers htake⟩, fun b hb => ?_, fun r hr => ?_, ?_⟩
  · obtain ⟨i, hi⟩ := List.getElem?_of_mem hb
    exact ⟨mem_inputs_iff hw hf hscan htake hi, mem_outputs_iff hw hf hscan htake hi,
      session_iff hw hf hscan htake hi⟩
  · obtain ⟨huse, hdecl⟩ := reference_stems hr
    refine ⟨fun ht => existsUnique_owner hw hscan htake (clear_of_used hw hf hscan huse ht),
      fun d hd => ?_⟩
    obtain ⟨hoisted, hstems⟩ := hdecl d hd
    exact existsUnique_owner hw hscan htake (clear_of_declared hw hf hscan hstems)
  · have hfilter : (later.map Summary.ofBlock).filter (fun b => decide (.server ∈ b.tiers)) =
        (later.filter Block.isServer).map Summary.ofBlock := by
      rw [List.filter_map]
      refine congrArg _ (List.filter_congr fun x _ => ?_)
      rw [Function.comp_apply, Bool.eq_iff_iff, decide_eq_true_iff]
      exact TierSet.mem_toList x.tiers .server
    rw [hfilter, List.forall₂_map_right_iff]
    exact hserver.imp fun f x hx => ⟨hx.id, hx.session, hx.inputs, hx.outputs⟩

/-! ### A sample -/

/-- A named node of a concrete tree. -/
def nodeAt (kind : String) (start stop : Int) (field : Option String)
    (children : List Concrete.Node) : Concrete.Node :=
  ⟨kind, start, stop, true, false, false, field, children⟩

/-- A marker that names one tier and covers ten bytes. -/
def sampleMarker (start : Int) : Concrete.Node :=
  nodeAt "labeled_statement" start (start + 10) none
    [nodeAt "statement_identifier" start (start + 2) (some "label") [],
      nodeAt "expression_statement" (start + 3) (start + 10) (some "body")
        [nodeAt "identifier" (start + 3) (start + 9) none []]]

/-- The client declares `x`, one server block reads it and declares `y`, another one reads `y`. -/
def sampleText : String := "on:client;let x;on:server;let y=x;on:server;y"

def sampleTree : Concrete.Node :=
  nodeAt "program" 0 45 none
    [sampleMarker 0,
      nodeAt "lexical_declaration" 10 16 none
        [nodeAt "variable_declarator" 14 15 none [nodeAt "identifier" 14 15 (some "name") []]],
      sampleMarker 16,
      nodeAt "lexical_declaration" 26 34 none
        [nodeAt "variable_declarator" 30 33 none
          [nodeAt "identifier" 30 31 (some "name") [], nodeAt "identifier" 32 33 (some "value") []]],
      sampleMarker 34,
      nodeAt "expression_statement" 44 45 none [nodeAt "identifier" 44 45 none []]]

def sampleOptions : Options := ⟨"on", "javascript", ⟨"__tierIn", "__tierOut"⟩, usualRoom⟩

def sampleProgram : Syntax.Node := (toSyntax sampleText.toUTF8 sampleTree).toOption.getD default

def sampleBlocks : List Summary :=
  [⟨0, [.client], 10, 16, false, [], ["x"]⟩, ⟨1, [.server], 26, 34, false, ["x"], []⟩,
    ⟨2, [.server], 44, 45, true, [], []⟩]

theorem toSyntax_sampleTree : toSyntax sampleText.toUTF8 sampleTree = .ok sampleProgram :=
  eq_ok_getD (by decide +kernel)

theorem compile_sampleTree :
    ∃ s, (compile sampleOptions "sample" sampleText (some sampleTree)).outcome = .ok s ∧
      s.result.blocks = sampleBlocks :=
  exists_eq_ok (by decide +kernel)

theorem sampleBlocks_exact :
    (∃ s, (compile sampleOptions "sample" sampleText (some sampleTree)).outcome = .ok s ∧
      s.result.blocks = sampleBlocks) ∧
    ∀ b ∈ sampleBlocks,
      (∀ n, n ∈ b.inputs ↔ ∃ b' ∈ sampleBlocks, b' ≠ b ∧ b.Disjoint b' ∧
        ReadsFrom "on" sampleProgram n b b') ∧
      (∀ n, n ∈ b.outputs ↔ ∃ b' ∈ sampleBlocks, b' ≠ b ∧ b'.Disjoint b ∧
        ReadsFrom "on" sampleProgram n b' b) ∧
      (b.session = true ↔ .server ∈ b.tiers ∧ ∃ b' ∈ sampleBlocks, b' ≠ b ∧ .server ∈ b'.tiers ∧
        ∃ n, ReadsFrom "on" sampleProgram n b b') := by
  refine ⟨compile_sampleTree, ?_⟩
  obtain ⟨s, hs, hblocks⟩ := compile_sampleTree
  have hexact := compile_crossings_exact hs toSyntax_sampleTree (by decide +kernel)
  rw [← hblocks]
  exact hexact.2.1

end Compiler

end TierSplit

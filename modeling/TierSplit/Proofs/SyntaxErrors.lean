import TierSplit.Proofs.Failures

/-! Which syntax errors are reported. A tree is rejected exactly if an error or a missing node lies
somewhere in it, tokens included. The report names the first five of them as a visit of the tree meets
them, and its message the first. Where the spans are nested these offsets are in order, and no error
starts before the first one. -/

namespace TierSplit.Concrete

/-- The children of a node lie within it, in order and without overlap. -/
structure Node.Ordered (n : Node) : Prop where
  start_le_stop : n.start ≤ n.stop
  within : ∀ c ∈ n.children, n.start ≤ c.start ∧ c.stop ≤ n.stop
  apart : n.children.Pairwise fun a b => a.stop ≤ b.start

instance (n : Node) : Decidable n.Ordered :=
  decidable_of_iff (n.start ≤ n.stop ∧ (∀ c ∈ n.children, n.start ≤ c.start ∧ c.stop ≤ n.stop) ∧
      n.children.Pairwise fun a b => a.stop ≤ b.start)
    ⟨fun h => ⟨h.1, h.2.1, h.2.2⟩, fun h => ⟨h.1, h.2, h.3⟩⟩

namespace Node

theorem span_within {n : Node} (h : n.Everywhere Ordered) {m : Node} (hm : m ∈ n.preorder) :
    n.start ≤ m.start ∧ m.start ≤ m.stop ∧ m.stop ≤ n.stop := by
  induction n using partInduction with
  | step n ih =>
    rw [preorder_eq, List.mem_cons, List.mem_flatMap] at hm
    obtain rfl | ⟨c, hc, hm⟩ := hm
    · exact ⟨Int.le_refl _, h.here.start_le_stop, Int.le_refl _⟩
    · obtain ⟨hlo, hle, hhi⟩ := ih c hc (h.child hc) hm
      obtain ⟨hs, he⟩ := h.here.within c hc
      exact ⟨Int.le_trans hs hlo, hle, Int.le_trans hhi he⟩

/-- Where the spans are nested, a visit meets the nodes in order of their starts. -/
theorem starts_ordered {n : Node} (h : n.Everywhere Ordered) :
    n.preorder.Pairwise fun a b => a.start ≤ b.start := by
  induction n using partInduction with
  | step n ih =>
    rw [preorder_eq, List.pairwise_cons, List.pairwise_flatMap]
    refine ⟨?_, ?_, ?_⟩
    · intro m hm
      apply And.left
      apply span_within h
      rw [preorder_eq]
      exact List.mem_cons_of_mem _ hm
    · intro c hc
      exact ih c hc (h.child hc)
    · -- what lies below a node ends before the next node starts
      refine h.here.apart.imp_of_mem fun {c d} hc hd hle a ha b hb => ?_
      have hca := span_within (h.child hc) ha
      have hdb := span_within (h.child hd) hb
      omega

end Node

theorem errorOffsets_eq (root : Node) :
    errorOffsets root = ((root.preorder.filter Node.isError).take 5).map Node.start := by
  rw [errorOffsets, reportedErrors, Node.errors_eq]

theorem errorOffsets_ordered {root : Node} (h : root.Everywhere Node.Ordered) :
    (errorOffsets root).Pairwise (· ≤ ·) := by
  rw [errorOffsets_eq, List.pairwise_map]
  apply List.Pairwise.take
  apply List.Pairwise.filter
  exact Node.starts_ordered h

/-- The offset reported first is the smallest of all, also of those that are not reported. -/
theorem errorOffsets_least {root : Node} (h : root.Everywhere Node.Ordered) {first : Int}
    {others : List Int} (ho : errorOffsets root = first :: others) {e : Node} (he : e ∈ root.preorder)
    (herror : e.isError = true) : first ≤ e.start := by
  have hordered := (Node.starts_ordered h).filter Node.isError
  have hmem : e ∈ root.preorder.filter Node.isError := List.mem_filter.2 ⟨he, herror⟩
  rw [errorOffsets_eq] at ho
  cases hall : root.preorder.filter Node.isError with
  | nil =>
    rw [hall] at hmem
    cases hmem
  | cons met rest =>
    rw [hall] at hordered hmem ho
    obtain ⟨rfl, -⟩ : met.start = first ∧ _ := List.cons.inj ho
    rcases List.mem_cons.1 hmem with rfl | hrest
    · exact Int.le_refl _
    · exact (List.pairwise_cons.1 hordered).1 e hrest

section

variable (source : Source) {root : Node}
  (hlanguage : Grammar.supports Grammar.known source.language = true)
include hlanguage

theorem accept_of_flag (hflag : root.hasError = true) :
    accept source false (some root) =
      ⟨[syntaxEvent source.path (errorOffsets root)],
        .error (syntaxFailure source.path (errorOffsets root))⟩ := by
  simp only [accept, if_pos hlanguage, hflag, Bool.not_false, Bool.and_self, if_true]

theorem accept_of_no_flag (hflag : root.hasError = false) :
    accept source false (some root) = ⟨[], .ok root⟩ := by
  simp only [accept, if_pos hlanguage, hflag, Bool.and_false, if_neg Bool.false_ne_true]

end

/-- Where the parser's flag says whether a tree has errors, a tree with an error or a missing node
anywhere is rejected, and no other one. The failure names the first five error nodes of the tree, parents
before children, children left to right. -/
theorem syntax_errors_reported (source : Source) {root : Node}
    (hlanguage : Grammar.supports Grammar.known source.language = true) (hflag : root.Flagged) :
    ((∃ e ∈ root.preorder, e.isError = true) ↔
      ∃ d, (accept source false (some root)).tree = .error (.diagnostic d) ∧
        d.report.category = .parse) ∧
    ((¬∃ e ∈ root.preorder, e.isError = true) →
      (accept source false (some root)).tree = .ok root) ∧
    ∀ failure, (accept source false (some root)).tree = .error failure →
      ∃ first others, failure = .diagnostic (.syntaxErrors source.path first others) ∧
        first :: others = ((root.preorder.filter Node.isError).take 5).map Node.start ∧
        (Diagnostic.syntaxErrors source.path first others).report =
          ⟨.parse, "Syntax error in " ++ source.path ++ " at byte offset " ++ intLiteral first,
            [("file_path", .str source.path), ("offsets", .ints (first :: others))]⟩ ∧
        (root.Everywhere Node.Ordered →
          (first :: others).Pairwise (· ≤ ·) ∧
            ∀ e ∈ root.preorder, e.isError = true → first ≤ e.start) := by
  have hexists : root.hasError = true ↔ ∃ e ∈ root.preorder, e.isError = true := hflag
  rw [← hexists]
  cases he : root.hasError with
  | false =>
    rw [accept_of_no_flag source hlanguage he]
    exact ⟨⟨nofun, nofun⟩, fun _ => rfl, nofun⟩
  | true =>
    obtain ⟨first, others, ho⟩ := List.exists_cons_of_ne_nil (errorOffsets_ne_nil hflag he)
    rw [accept_of_flag source hlanguage he, ho, syntaxFailure]
    refine ⟨⟨fun _ => ⟨_, rfl, rfl⟩, fun _ => rfl⟩, fun hno => absurd rfl hno, ?_⟩
    rintro failure ⟨⟩
    refine ⟨first, others, rfl, ho ▸ errorOffsets_eq root, rfl, fun hordered => ⟨?_, ?_⟩⟩
    · exact ho ▸ errorOffsets_ordered hordered
    · intro e hmem herror
      exact errorOffsets_least hordered ho hmem herror

/-- Six errors, one inside another and two of them missing tokens. -/
def tangledTree : Node :=
  ⟨"program", 0, 9, true, false, true, none,
    [⟨"ERROR", 1, 5, true, false, true, none,
        [⟨"(", 1, 2, false, false, false, none, []⟩,
          ⟨"ERROR", 2, 4, true, false, true, none, [⟨"identifier", 2, 4, true, false, false, none, []⟩]⟩,
          ⟨")", 5, 5, false, true, true, none, []⟩]⟩,
      ⟨"expression_statement", 5, 7, true, false, true, none,
        [⟨"identifier", 5, 7, true, false, false, none, []⟩, ⟨";", 7, 7, false, true, true, none, []⟩]⟩,
      ⟨"ERROR", 7, 8, true, false, true, none, []⟩, ⟨"ERROR", 8, 9, true, false, true, none, []⟩]⟩

theorem tangledTree_reported :
    Grammar.supports Grammar.known "JS" = true ∧ tangledTree.Flagged ∧
      tangledTree.Everywhere Node.Ordered ∧
      (accept ⟨"m.js", "", "JS"⟩ false (some tangledTree)).tree =
        .error (.diagnostic (.syntaxErrors "m.js" 1 [2, 5, 7, 7])) ∧
      ([1, 2, 5, 7, 7] : List Int).Pairwise (· ≤ ·) ∧
      ∀ e ∈ tangledTree.preorder, e.isError = true → 1 ≤ e.start := by
  have hlanguage : Grammar.supports Grammar.known "JS" = true := by decide +kernel
  have hflag : tangledTree.Flagged := by decide +kernel
  have hordered : tangledTree.Everywhere Node.Ordered := by decide +kernel
  obtain ⟨hrejected, -, hfailure⟩ :=
    syntax_errors_reported ⟨"m.js", "", "JS"⟩ hlanguage hflag
  obtain ⟨d, hd, -⟩ := hrejected.1 (hflag.1 rfl)
  obtain ⟨first, others, hsame, hoffsets, -, hspans⟩ := hfailure _ hd
  obtain ⟨rfl, rfl⟩ : first = 1 ∧ others = [2, 5, 7, 7] := List.cons.inj hoffsets
  exact ⟨hlanguage, hflag, hordered, hsame ▸ hd, hspans hordered⟩

end TierSplit.Concrete

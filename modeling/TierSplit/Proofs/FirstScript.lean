import TierSplit.Component.Script
import TierSplit.Proofs.Failures

/-! Which script a component has. The search keeps the nodes to visit on a stack, yet the element it finds
is the first one of the whole document, parents before children, children left to right. Its text is what
the document holds in the range that is returned with it. -/

namespace TierSplit.Component

open Concrete Source

/-- The range of a script in the parts of its element: that of the first raw text, or nothing, right
behind the first part. -/
inductive ScriptRange : List Node → Int → Int → Prop
  | raw {before after : List Node} {raw : Node} : (∀ c ∈ before, c.kind ≠ "raw_text") →
      raw.kind = "raw_text" → ScriptRange (before ++ raw :: after) raw.start raw.stop
  | blank {tag : Node} {others : List Node} : (∀ c ∈ tag :: others, c.kind ≠ "raw_text") →
      ScriptRange (tag :: others) tag.stop tag.stop

/-- The script is that of an element of the document. -/
structure Script.Within (document : String) (element : Node) (s : Script) : Prop where
  range : ScriptRange element.children s.start s.stop
  text : s.text.toUTF8 = document.toUTF8.extract s.start.toNat s.stop.toNat

theorem findScript?_eq (root : Node) :
    findScript? root = root.preorder.find? (·.kind == "script_element") := by
  rw [findScript?, Node.search_eq, Node.visit_eq, Node.preorderAll, Node.preorderAll,
    List.append_nil]

theorem find?_kind_eq_none {kind : String} {ns : List Node} :
    ns.find? (·.kind == kind) = none ↔ ∀ n ∈ ns, n.kind ≠ kind := by
  rw [List.find?_eq_none]
  simp only [beq_iff_eq, ne_eq]

theorem find?_kind_eq_some {kind : String} {ns : List Node} {n : Node} :
    ns.find? (·.kind == kind) = some n ↔
      ∃ before after, ns = before ++ n :: after ∧ (∀ m ∈ before, m.kind ≠ kind) ∧ n.kind = kind := by
  rw [List.find?_eq_some_iff_append, beq_iff_eq]
  constructor
  · rintro ⟨hkind, before, after, hsplit, hbefore⟩
    exact ⟨before, after, hsplit, fun m hm => by simpa using hbefore m hm, hkind⟩
  · rintro ⟨before, after, hsplit, hbefore, hkind⟩
    exact ⟨hkind, before, after, hsplit, fun m hm => by simpa using hbefore m hm⟩

theorem findScript?_eq_none {root : Node} :
    findScript? root = none ↔ ∀ n ∈ root.preorder, n.kind ≠ "script_element" := by
  rw [findScript?_eq, find?_kind_eq_none]

theorem findScript?_eq_some {root element : Node} :
    findScript? root = some element ↔
      ∃ before after, root.preorder = before ++ element :: after ∧
        (∀ n ∈ before, n.kind ≠ "script_element") ∧ element.kind = "script_element" := by
  rw [findScript?_eq, find?_kind_eq_some]

/-- Leave is given for errors, so every tree is taken over. -/
theorem accept_html (document path : String) (root : Node) :
    (accept ⟨path, document, "html"⟩ true (some root)).tree = .ok root := by
  have hlanguage : Grammar.supports Grammar.known "html" = true := by decide +kernel
  rw [accept, if_pos hlanguage]
  rfl

theorem extract_of_none (document path : String) {root : Node} (h : findScript? root = none) :
    extract document path (some root) = .error (.diagnostic (.noScript path)) := by
  rw [extract, accept_html]
  simp only [h]

theorem extract_of_some (document path : String) {root element : Node}
    (h : findScript? root = some element) :
    extract document path (some root) = scriptOf document.toUTF8 element := by
  rw [extract, accept_html]
  simp only [h]
  rfl

theorem exists_scriptOf {document : String} {element : Node}
    (hbounds : ∀ c ∈ element.children, c.OnCharacters document) (hparts : element.children ≠ []) :
    ∃ s, scriptOf document.toUTF8 element = .ok s ∧ s.Within document element := by
  cases hfind : element.children.find? (·.kind == "raw_text") with
  | some raw =>
    obtain ⟨before, after, hsplit, hbefore, hkind⟩ := find?_kind_eq_some.1 hfind
    obtain ⟨hstart, hstop⟩ := hbounds raw (List.mem_of_find?_eq_some hfind)
    obtain ⟨text, htext⟩ := hstart.exists_slice hstop
    refine ⟨⟨text, raw.start, raw.stop⟩, ?_, ?_, hstart.toUTF8_of_slice hstop htext⟩
    · simp only [scriptOf, hfind, htext]
      rfl
    · rw [hsplit]
      exact .raw hbefore hkind
  | none =>
    obtain ⟨tag, others, hchildren⟩ := List.exists_cons_of_ne_nil hparts
    refine ⟨⟨"", tag.stop, tag.stop⟩, ?_, ?_, ?_⟩
    · rw [scriptOf, hfind, hchildren]
    · rw [hchildren] at hfind ⊢
      exact .blank (find?_kind_eq_none.1 hfind)
    · exact (ByteArray.extract_eq_empty_iff.2 (Nat.min_le_left _ _)).symm

/-- Where the parser's nodes begin and end between characters and no script element is empty, there is
no script exactly if the document has no script element at any depth, and this is the only failure. If
it has some, the script is that of the first one. -/
theorem first_script_extracted (document path : String) {root : Node}
    (hbounds : root.Everywhere (Node.OnCharacters document))
    (hparts : root.Everywhere fun n => n.kind = "script_element" → n.children ≠ []) :
    ((∃ d, extract document path (some root) = .error (.diagnostic d) ∧
        d.report.category = .component) ↔ ∀ n ∈ root.preorder, n.kind ≠ "script_element") ∧
    (∀ e, extract document path (some root) = .error e →
      e = .diagnostic (.noScript path) ∧
        (Diagnostic.noScript path).report =
          ⟨.component, "No <script> element in " ++ path, [("resource_path", .str path)]⟩) ∧
    ∀ before element after, root.preorder = before ++ element :: after →
      (∀ n ∈ before, n.kind ≠ "script_element") → element.kind = "script_element" →
        ∃ s, extract document path (some root) = .ok s ∧ s.Within document element := by
  rw [← findScript?_eq_none]
  cases hfind : findScript? root with
  | none =>
    rw [extract_of_none document path hfind]
    refine ⟨⟨fun _ => rfl, fun _ => ⟨_, rfl, rfl⟩⟩, ?_, ?_⟩
    · rintro e ⟨⟩
      exact ⟨rfl, rfl⟩
    · intro before element after hsplit hbefore hkind
      rw [findScript?_eq_some.2 ⟨before, after, hsplit, hbefore, hkind⟩] at hfind
      cases hfind
  | some found =>
    obtain ⟨before, after, hsplit, -, hkind⟩ := findScript?_eq_some.1 hfind
    have hmem : found ∈ root.preorder := by
      rw [hsplit]
      exact List.mem_append_right _ List.mem_cons_self
    obtain ⟨s, hs, hwithin⟩ :=
      exists_scriptOf (fun c hc => ((hbounds.below hmem).child hc).here) (hparts found hmem hkind)
    rw [extract_of_some document path hfind, hs]
    refine ⟨⟨?_, nofun⟩, nofun, ?_⟩
    · rintro ⟨d, hd, -⟩
      cases hd
    · intro before' element after' hsplit' hbefore' hkind'
      rw [findScript?_eq_some.2 ⟨before', after', hsplit', hbefore', hkind'⟩] at hfind
      cases hfind
      exact ⟨s, rfl, hwithin⟩

/-- A script deep in the document, and an empty one behind it. -/
def nestedDocument : String := "é<div><script>ö</script></div><script></script>"

def deepScript : Node :=
  Compiler.nodeAt "script_element" 7 26 none
    [Compiler.nodeAt "start_tag" 7 15 none [], Compiler.nodeAt "raw_text" 15 17 none [],
      Compiler.nodeAt "end_tag" 17 26 none []]

def lateScript : Node :=
  Compiler.nodeAt "script_element" 32 49 none
    [Compiler.nodeAt "start_tag" 32 40 none [], Compiler.nodeAt "end_tag" 40 49 none []]

def nestedTree : Node :=
  Compiler.nodeAt "document" 0 49 none
    [Compiler.nodeAt "text" 0 2 none [],
      Compiler.nodeAt "element" 2 32 none
        [Compiler.nodeAt "start_tag" 2 7 none [], deepScript, Compiler.nodeAt "end_tag" 26 32 none []],
      lateScript]

theorem nestedDocument_extracted :
    nestedTree.Everywhere (Node.OnCharacters nestedDocument) ∧
      (nestedTree.Everywhere fun n => n.kind = "script_element" → n.children ≠ []) ∧
      ∃ s, extract nestedDocument "Nested.vue" (some nestedTree) = .ok s ∧
        s = ⟨"ö", 15, 17⟩ ∧ s.Within nestedDocument deepScript := by
  have hbounds : nestedTree.Everywhere (Node.OnCharacters nestedDocument) := by decide +kernel
  have hparts : nestedTree.Everywhere fun n => n.kind = "script_element" → n.children ≠ [] := by
    decide +kernel
  obtain ⟨-, -, hfirst⟩ := first_script_extracted nestedDocument "Nested.vue" hbounds hparts
  obtain ⟨s, hs, hwithin⟩ := hfirst (nestedTree.preorder.take 4) deepScript
    (nestedTree.preorder.drop 5) rfl (by decide +kernel) rfl
  obtain ⟨s', hs', hvalue⟩ : ∃ s', extract nestedDocument "Nested.vue" (some nestedTree) = .ok s' ∧
      s' = ⟨"ö", 15, 17⟩ := exists_eq_ok (by decide +kernel)
  rw [hs] at hs'
  cases hs'
  exact ⟨hbounds, hparts, s, hs, hvalue, hwithin⟩

end TierSplit.Component

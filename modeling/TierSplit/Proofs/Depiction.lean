import TierSplit.Proofs.Conversion
import TierSplit.Proofs.Names
import TierSplit.Proofs.Slices

/-! The syntax tree that a concrete tree depicts: which parts stay, which words are keywords, and what
the kind of a node decides. Conversion gives just this tree. It fails exactly where a label or a name
that it reads begins or ends inside a character, and comments and punctuation do not change it. -/

namespace TierSplit.Concrete

open Source

def Node.IsComment (n : Node) : Prop := n.kind = "comment" ∨ n.kind = "html_comment"

instance : DecidablePred Node.IsComment := fun _ => inferInstanceAs (Decidable (_ ∨ _))

def Node.IsFunction (n : Node) : Prop :=
  n.kind = "function_declaration" ∨ n.kind = "function_expression" ∨ n.kind = "function" ∨
    n.kind = "generator_function_declaration" ∨ n.kind = "generator_function" ∨
    n.kind = "arrow_function" ∨ n.kind = "method_definition"

def Node.IsBlock (n : Node) : Prop :=
  n.kind = "program" ∨ n.kind = "statement_block" ∨ n.kind = "class_body" ∨ n.kind = "switch_body"

def Node.IsIdentifier (n : Node) : Prop :=
  n.kind = "identifier" ∨ n.kind = "shorthand_property_identifier" ∨
    n.kind = "shorthand_property_identifier_pattern"

/-- The parts that stay: the named ones that are no comments. -/
def Node.keptParts (n : Node) : List Node := n.children.filter fun c => c.named ∧ ¬c.IsComment

/-- The keywords of a node are the words among its own anonymous parts. -/
structure HasKeywords (n : Node) (words : Names) : Prop where
  increasing : words.Increasing
  mem_iff : ∀ w, w ∈ words ↔
    ∃ c ∈ n.children, c.named = false ∧ Text.isWord c.kind = true ∧ c.kind = w

/-- The label is the text of the first part in field `label`, if there is one. -/
def HasLabel (text : String) (n : Node) (label : String) : Prop :=
  match n.child? "label" with
  | some part => label.toByteArray = cut text.toUTF8 part.start part.stop
  | none => label = ""

/-- The role that the kind of a node decides. -/
inductive HasRole (text : String) (n : Node) (words : Names) : Syntax.Role → Prop
  | labeled {label : String} (kind : n.kind = "labeled_statement") (h : HasLabel text n label) :
    HasRole text n words (.labeled label)
  | function {isAsync : Bool} (kind : n.IsFunction) (h : isAsync = true ↔ "async" ∈ words) :
    HasRole text n words (.function isAsync)
  | block (kind : n.IsBlock) : HasRole text n words .block
  | identifier {name : String} (kind : n.IsIdentifier)
      (h : name.toByteArray = cut text.toUTF8 n.start n.stop) :
    HasRole text n words (.identifier name)
  | other (unlabeled : n.kind ≠ "labeled_statement") (notFunction : ¬n.IsFunction)
      (notBlock : ¬n.IsBlock) (notIdentifier : ¬n.IsIdentifier) : HasRole text n words .other

/-- The syntax node of a concrete node in a field. -/
inductive Depicts (text : String) : Option String → Node → Syntax.Node → Prop
  | node {field : Option String} {n : Node} {r : Syntax.Role} {words : Names}
      {children : List Syntax.Node} (keywords : HasKeywords n words) (role : HasRole text n words r)
      (parts : List.Forall₂ (fun c d => Depicts text c.field c d) n.keptParts children) :
    Depicts text field n ⟨r, n.kind, n.start, n.stop, field, words, children⟩

/-- The nodes that stay: the root, and of a node that stays the parts that do. -/
inductive Keeps : Node → Node → Prop
  | root (n : Node) : Keeps n n
  | part {n c m : Node} (hc : c ∈ n.keptParts) (hm : Keeps c m) : Keeps n m

/-- The label or the name of the node is cut inside a character. -/
inductive Unreadable (text : String) (n : Node) : Prop
  | label {part : Node} (kind : n.kind = "labeled_statement") (hpart : n.child? "label" = some part)
    (h : SplitsCharacter text part.start part.stop)
  | name (kind : n.IsIdentifier) (h : SplitsCharacter text n.start n.stop)

/-! ### The kinds of nodes -/

theorem isComment_iff {n : Node} : n.IsComment ↔ n.kind ∈ commentKinds := by
  simp [Node.IsComment, commentKinds]

theorem isFunction_iff {n : Node} : n.IsFunction ↔ n.kind ∈ functionKinds := by
  simp [Node.IsFunction, functionKinds]

theorem isBlock_iff {n : Node} : n.IsBlock ↔ n.kind ∈ blockKinds := by
  simp [Node.IsBlock, blockKinds]

theorem isIdentifier_iff {n : Node} : n.IsIdentifier ↔ n.kind ∈ identifierKinds := by
  simp [Node.IsIdentifier, identifierKinds]

/-! ### One node -/

theorem keptParts_eq (n : Node) : n.keptParts = n.children.filter isKept := by
  unfold Node.keptParts isKept
  congr 1
  funext c
  simp [isComment_iff]

theorem hasKeywords_keywords (n : Node) : HasKeywords n (keywords n) := by
  refine ⟨Names.increasing_ofList _, fun w => ?_⟩
  rw [keywords, Names.mem_ofList]
  simp [isKeyword, and_assoc]

theorem HasKeywords.eq_keywords {n : Node} {words : Names} (h : HasKeywords n words) :
    words = keywords n :=
  h.increasing.ext (hasKeywords_keywords n).increasing fun w =>
    (h.mem_iff w).trans ((hasKeywords_keywords n).mem_iff w).symm

theorem labelText_eq_ok_iff {text : String} {n : Node} {label : String} :
    labelText text.toUTF8 n = .ok label ↔ HasLabel text n label := by
  unfold labelText HasLabel
  cases n.child? "label" with
  | some part => exact slice_eq_ok_iff
  | none => simp [eq_comm]

theorem labelText_eq_error_iff {text : String} {n : Node} {e : Failure} :
    labelText text.toUTF8 n = .error e ↔ e = .cutCharacter ∧
      ∃ part, n.child? "label" = some part ∧ SplitsCharacter text part.start part.stop := by
  unfold labelText
  cases n.child? "label" with
  | some part => simp only [slice_eq_error_iff, Option.some.injEq, exists_eq_left']
  | none => simp

section

variable {bytes : ByteArray} {n : Node}

theorem role_labeled (h : n.kind = "labeled_statement") :
    role bytes n = (labelText bytes n).map .labeled := by
  simp [role, h]

theorem role_function (h : n.IsFunction) :
    role bytes n = .ok (.function ((keywords n).contains "async")) := by
  rw [isFunction_iff] at h
  have hlabeled : n.kind ≠ "labeled_statement" := ne_of_mem_of_not_mem h (by decide)
  simp [role, hlabeled, h]

theorem role_block (h : n.IsBlock) : role bytes n = .ok .block := by
  rw [isBlock_iff] at h
  have hlabeled : n.kind ≠ "labeled_statement" := ne_of_mem_of_not_mem h (by decide)
  have hfunction : n.kind ∉ functionKinds :=
    (by decide : ∀ kind ∈ blockKinds, kind ∉ functionKinds) n.kind h
  simp [role, hlabeled, hfunction, h]

theorem role_identifier (h : n.IsIdentifier) :
    role bytes n = (slice bytes n.start n.stop).map .identifier := by
  rw [isIdentifier_iff] at h
  have hlabeled : n.kind ≠ "labeled_statement" := ne_of_mem_of_not_mem h (by decide)
  obtain ⟨hfunction, hblock⟩ : n.kind ∉ functionKinds ∧ n.kind ∉ blockKinds :=
    (by decide : ∀ kind ∈ identifierKinds, kind ∉ functionKinds ∧ kind ∉ blockKinds) n.kind h
  simp [role, hlabeled, hfunction, hblock, h]

theorem role_other (hlabeled : n.kind ≠ "labeled_statement") (hfunction : ¬n.IsFunction)
    (hblock : ¬n.IsBlock) (hidentifier : ¬n.IsIdentifier) : role bytes n = .ok .other := by
  rw [isFunction_iff] at hfunction
  rw [isBlock_iff] at hblock
  rw [isIdentifier_iff] at hidentifier
  simp [role, hlabeled, hfunction, hblock, hidentifier]

end

theorem role_eq_ok_iff {text : String} {n : Node} {r : Syntax.Role} :
    role text.toUTF8 n = .ok r ↔ HasRole text n (keywords n) r := by
  constructor
  · intro h
    by_cases hlabeled : n.kind = "labeled_statement"
    · rw [role_labeled hlabeled, map_eq_ok_iff] at h
      obtain ⟨label, hlabel, rfl⟩ := h
      exact .labeled hlabeled (labelText_eq_ok_iff.1 hlabel)
    by_cases hfunction : n.IsFunction
    · rw [role_function hfunction] at h
      cases h
      exact .function hfunction (by simp)
    by_cases hblock : n.IsBlock
    · rw [role_block hblock] at h
      cases h
      exact .block hblock
    by_cases hidentifier : n.IsIdentifier
    · rw [role_identifier hidentifier, map_eq_ok_iff] at h
      obtain ⟨name, hname, rfl⟩ := h
      exact .identifier hidentifier (slice_eq_ok_iff.1 hname)
    rw [role_other hlabeled hfunction hblock hidentifier] at h
    cases h
    exact .other hlabeled hfunction hblock hidentifier
  · intro h
    cases h with
    | labeled kind h =>
      rw [role_labeled kind, labelText_eq_ok_iff.2 h]
      rfl
    | function kind h =>
      rw [role_function kind, Bool.eq_iff_iff.2 (h.trans List.contains_iff_mem.symm)]
    | block kind => exact role_block kind
    | identifier kind h =>
      rw [role_identifier kind, slice_eq_ok_iff.2 h]
      rfl
    | other hlabeled hfunction hblock hidentifier =>
      exact role_other hlabeled hfunction hblock hidentifier

theorem role_eq_error_iff {text : String} {n : Node} {e : Failure} :
    role text.toUTF8 n = .error e ↔ e = .cutCharacter ∧ Unreadable text n := by
  constructor
  · intro h
    unfold role at h
    split at h
    · next kind =>
      rw [map_eq_error_iff, labelText_eq_error_iff] at h
      obtain ⟨he, part, hpart, hsplit⟩ := h
      exact ⟨he, .label (by simpa using kind) hpart hsplit⟩
    split at h
    · cases h
    split at h
    · cases h
    split at h
    · next kind =>
      rw [map_eq_error_iff, slice_eq_error_iff] at h
      exact ⟨h.1, .name (isIdentifier_iff.2 (by simpa using kind)) h.2⟩
    · cases h
  · rintro ⟨rfl, hu⟩
    cases hu with
    | label kind hpart hsplit =>
      rw [role_labeled kind, map_eq_error_iff, labelText_eq_error_iff]
      exact ⟨rfl, _, hpart, hsplit⟩
    | name kind hsplit =>
      rw [role_identifier kind, map_eq_error_iff, slice_eq_error_iff]
      exact ⟨rfl, hsplit⟩

/-! ### The whole tree -/

theorem convert_depicts {text : String} {field : Option String} {n : Node} {t : Syntax.Node} :
    convert text.toUTF8 field n = .ok t ↔ Depicts text field n t := by
  induction n using Node.partInduction generalizing field t with
  | step n ih =>
    have hparts : ∀ children, List.Forall₂ (fun c d => convert text.toUTF8 c.field c = .ok d)
          (n.children.filter isKept) children ↔
        List.Forall₂ (fun c d => Depicts text c.field c d) n.keptParts children := by
      intro children
      rw [keptParts_eq]
      exact forall₂_congr_of_mem fun c hc d => ih c (List.mem_of_mem_filter hc)
    rw [convert_eq_ok_iff]
    constructor
    · obtain ⟨r, kind, start, stop, own, words, children⟩ := t
      rintro ⟨⟨hrole, rfl, rfl, rfl, rfl, hchildren⟩, rfl⟩
      exact .node (hasKeywords_keywords n) (role_eq_ok_iff.1 hrole) ((hparts children).1 hchildren)
    · rintro ⟨hwords, hrole, hchildren⟩
      cases hwords.eq_keywords
      exact ⟨⟨role_eq_ok_iff.2 hrole, rfl, rfl, rfl, rfl, (hparts _).2 hchildren⟩, rfl⟩

theorem unreadable_of_convert {text : String} {field : Option String} {n : Node} {e : Failure}
    (h : convert text.toUTF8 field n = .error e) :
    e = .cutCharacter ∧ ∃ m, Keeps n m ∧ Unreadable text m := by
  induction n using Node.partInduction generalizing field with
  | step n ih =>
    rw [convert_eq] at h
    cases hkept : (n.children.filter isKept).mapM fun c => convert text.toUTF8 c.field c with
    | error e' =>
      rw [hkept] at h
      cases h
      obtain ⟨c, hc, hce⟩ := exists_of_mapM_eq_error hkept
      obtain ⟨he, m, hm, hu⟩ := ih c (List.mem_of_mem_filter hc) hce
      exact ⟨he, m, .part (keptParts_eq n ▸ hc) hm, hu⟩
    | ok kept =>
      cases hrole : role text.toUTF8 n with
      | error e' =>
        rw [hkept, hrole] at h
        cases h
        obtain ⟨he, hu⟩ := role_eq_error_iff.1 hrole
        exact ⟨he, n, .root n, hu⟩
      | ok r =>
        rw [hkept, hrole] at h
        cases h

theorem readable_of_convert {text : String} {field : Option String} {n m : Node} {t : Syntax.Node}
    (h : convert text.toUTF8 field n = .ok t) (hm : Keeps n m) : ¬Unreadable text m := by
  induction hm generalizing field t with
  | root n =>
    intro hu
    have hrole := (convert_eq_ok_iff.1 h).1.role
    rw [role_eq_error_iff.2 ⟨rfl, hu⟩] at hrole
    cases hrole
  | part hc _ ih =>
    rw [keptParts_eq] at hc
    obtain ⟨d, -, hd⟩ := exists_of_mem_left (convert_eq_ok_iff.1 h).1.children hc
    exact ih hd

theorem convert_eq_error_iff {text : String} {field : Option String} {n : Node} {e : Failure} :
    convert text.toUTF8 field n = .error e ↔
      e = .cutCharacter ∧ ∃ m, Keeps n m ∧ Unreadable text m := by
  constructor
  · exact unreadable_of_convert
  · rintro ⟨rfl, m, hm, hu⟩
    cases h : convert text.toUTF8 field n with
    | ok t => exact absurd hu (readable_of_convert h hm)
    | error e => rw [(unreadable_of_convert h).1]

/-! ### Comments and punctuation

Trivia fill no field: a comment in field `label` would be the label. -/

/-- A comment, or a token that is no word, in no field. -/
def Node.IsTrivia (n : Node) : Prop :=
  n.field = none ∧
    (n.named = true ∧ n.IsComment ∨ n.named = false ∧ Text.isWord n.kind = false)

/-- The second tree is the first with one piece of trivia put in somewhere below the root. -/
inductive Inserts : Node → Node → Prop
  | here {n x : Node} (before after : List Node) (hn : n.children = before ++ after)
      (hx : x.IsTrivia) : Inserts n { n with children := before ++ x :: after }
  | inside {n c c' : Node} (before after : List Node) (hn : n.children = before ++ c :: after)
      (hc : Inserts c c') : Inserts n { n with children := before ++ c' :: after }

/-- The parts are read alike: the same nodes stay, with the same keywords and the same label. -/
structure ReadAlike (bytes : ByteArray) (ns ns' : List Node) : Prop where
  kept : convertKept bytes ns' = convertKept bytes ns
  words : (ns'.filter isKeyword).map Node.kind = (ns.filter isKeyword).map Node.kind
  label : (ns'.find? (·.field == some "label")).map (fun c => (c.start, c.stop)) =
    (ns.find? (·.field == some "label")).map fun c => (c.start, c.stop)

theorem ReadAlike.cons {bytes : ByteArray} {ns ns' : List Node} (h : ReadAlike bytes ns ns')
    (c : Node) : ReadAlike bytes (c :: ns) (c :: ns') := by
  refine ⟨?_, ?_, ?_⟩
  · simp only [convertKept, h.kept]
  · simp only [List.filter_cons, apply_ite (List.map Node.kind), List.map_cons, h.words]
  · simp only [List.find?_cons]
    split
    · rfl
    · exact h.label

theorem ReadAlike.append {bytes : ByteArray} {ns ns' : List Node} (h : ReadAlike bytes ns ns')
    (before : List Node) : ReadAlike bytes (before ++ ns) (before ++ ns') := by
  induction before with
  | nil => exact h
  | cons c rest ih => exact ih.cons c

theorem readAlike_trivia {bytes : ByteArray} {x : Node} (hx : x.IsTrivia) (ns : List Node) :
    ReadAlike bytes ns (x :: ns) := by
  obtain ⟨hfield, hx⟩ := hx
  obtain ⟨hkept, hkeyword⟩ : isKept x = false ∧ isKeyword x = false := by
    rcases hx with ⟨hnamed, hkind⟩ | ⟨hnamed, hword⟩
    · simp [isKept, isKeyword, hnamed, isComment_iff.1 hkind]
    · simp [isKept, isKeyword, hnamed, hword]
  exact ⟨by simp [convertKept, hkept], by simp [hkeyword], by simp [hfield]⟩

theorem labelText_eq (bytes : ByteArray) (n : Node) :
    labelText bytes n = ((n.child? "label").map fun c => (c.start, c.stop)).elim (.ok "")
      fun span => slice bytes span.1 span.2 := by
  unfold labelText
  cases n.child? "label" with
  | none => rfl
  | some part => simp only [Option.map_some, Option.elim_some]

theorem convert_of_readAlike {bytes : ByteArray} {n : Node} {cs : List Node}
    (h : ReadAlike bytes n.children cs) (field : Option String) :
    convert bytes field { n with children := cs } = convert bytes field n := by
  have hwords : keywords { n with children := cs } = keywords n := congrArg Names.ofList h.words
  have hlabel : labelText bytes { n with children := cs } = labelText bytes n := by
    rw [labelText_eq, labelText_eq]
    exact congrArg (Option.elim · _ _) h.label
  have hrole : role bytes { n with children := cs } = role bytes n := by
    simp only [role, hwords, hlabel]
  rw [convert_eq, convert_eq, ← convertKept_eq, ← convertKept_eq, h.kept, hwords, hrole]

theorem readAlike_part {bytes : ByteArray} {c : Node} {cs : List Node}
    (h : ∀ field, convert bytes field { c with children := cs } = convert bytes field c)
    (ns : List Node) : ReadAlike bytes (c :: ns) ({ c with children := cs } :: ns) := by
  have hkept : isKept { c with children := cs } = isKept c := rfl
  have hkeyword : isKeyword { c with children := cs } = isKeyword c := rfl
  refine ⟨?_, ?_, ?_⟩
  · simp only [convertKept, hkept, h]
  · simp only [List.filter_cons, hkeyword, apply_ite (List.map Node.kind), List.map_cons]
  · simp only [List.find?_cons]
    split <;> rfl

theorem convert_of_inserts {bytes : ByteArray} {n n' : Node} (h : Inserts n n')
    (field : Option String) : convert bytes field n' = convert bytes field n := by
  induction h generalizing field with
  | here before after hn hx =>
    apply convert_of_readAlike
    rw [hn]
    exact (readAlike_trivia hx after).append before
  | inside before after hn hc ih =>
    apply convert_of_readAlike
    rw [hn]
    apply ReadAlike.append
    -- the part keeps its head, so all that is read of it besides its conversion is as before
    cases hc with
    | here => exact readAlike_part ih after
    | inside => exact readAlike_part ih after

/-- Conversion returns the tree that the concrete tree depicts. It fails exactly if the label or the
name of some node that stays is cut inside a character. And trivia put in or taken out, however often
and wherever below the root, leave the outcome as it is. -/
theorem conversion_is_structural (text : String) (root : Node) :
    (∀ program, toSyntax text.toUTF8 root = .ok program ↔ Depicts text none root program) ∧
    (∀ e, toSyntax text.toUTF8 root = .error e ↔
      e = .cutCharacter ∧ ∃ n, Keeps root n ∧ Unreadable text n) ∧
    ∀ root', Relation.EqvGen Inserts root root' →
      toSyntax text.toUTF8 root' = toSyntax text.toUTF8 root := by
  refine ⟨fun program => ?_, fun e => ?_, fun root' h => ?_⟩
  · rw [toSyntax_eq]
    exact convert_depicts
  · rw [toSyntax_eq]
    exact convert_eq_error_iff
  · induction h with
    | rel n n' h => rw [toSyntax_eq, toSyntax_eq, convert_of_inserts h]
    | refl n => rfl
    | symm n n' _ ih => exact ih.symm
    | trans n n' n'' _ _ ih ih' => exact ih'.trans ih

end TierSplit.Concrete

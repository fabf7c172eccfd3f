import TierSplit.Concrete.Conversion
import TierSplit.Proofs.Ancestry
import TierSplit.Proofs.Fallible

/-! What conversion keeps of a tree. Conversion follows the tree: the stack of frames gives what a
recursion over the concrete nodes gives. A syntax node stands for one concrete node, over the same span,
and its children stand for the parts that are kept. So what the concrete nodes satisfy carries over to
the syntax nodes, one node at a time. -/

namespace TierSplit.Concrete

namespace Node

theorem sizeOf_lt_of_mem_children {n c : Node} (h : c ∈ n.children) : sizeOf c < sizeOf n := by
  have hc := List.sizeOf_lt_of_mem h
  cases n
  simp only [Node.mk.sizeOf_spec] at hc ⊢
  omega

/-- What carries over from the parts to a node holds of every concrete node. -/
@[elab_as_elim]
theorem partInduction {motive : Node → Prop}
    (step : ∀ n, (∀ c ∈ n.children, motive c) → motive n) (n : Node) : motive n :=
  step n fun c _ => partInduction step c
termination_by sizeOf n
decreasing_by exact sizeOf_lt_of_mem_children ‹_›

theorem preorderAll_eq (ns : List Node) : preorderAll ns = ns.flatMap preorder := by
  induction ns with
  | nil => rfl
  | cons c rest ih => rw [preorderAll, ih, List.flatMap_cons]

theorem preorder_eq (n : Node) : n.preorder = n :: n.children.flatMap preorder := by
  cases n
  rw [preorder, preorderAll_eq]

def Everywhere (P : Node → Prop) (n : Node) : Prop := ∀ m ∈ n.preorder, P m

instance (P : Node → Prop) [DecidablePred P] (n : Node) : Decidable (n.Everywhere P) :=
  inferInstanceAs (Decidable (∀ m ∈ n.preorder, P m))

theorem Everywhere.here {P : Node → Prop} {n : Node} (h : n.Everywhere P) : P n :=
  h n (by rw [preorder_eq]; exact List.mem_cons_self)

theorem Everywhere.child {P : Node → Prop} {n c : Node} (h : n.Everywhere P) (hc : c ∈ n.children) :
    c.Everywhere P := by
  intro m hm
  apply h
  rw [preorder_eq]
  exact List.mem_cons_of_mem _ (List.mem_flatMap_of_mem hc hm)

theorem Everywhere.below {P : Node → Prop} {n m : Node} (h : n.Everywhere P) (hm : m ∈ n.preorder) :
    m.Everywhere P := by
  induction n using partInduction with
  | step n ih =>
    rw [preorder_eq, List.mem_cons, List.mem_flatMap] at hm
    rcases hm with rfl | ⟨c, hc, hm⟩
    · exact h
    · exact ih c hc (h.child hc) hm

end Node

mutual

/-- The syntax node of a concrete node in a field, by recursion over the tree. -/
def convert (bytes : ByteArray) (field : Option String) : Node → Except Failure Syntax.Node
  | ⟨kind, start, stop, named, missing, hasError, ownField, children⟩ => do
    let n : Node := ⟨kind, start, stop, named, missing, hasError, ownField, children⟩
    let kept ← convertKept bytes children
    let r ← role bytes n
    return ⟨r, kind, start, stop, field, keywords n, kept⟩

def convertKept (bytes : ByteArray) : List Node → Except Failure (List Syntax.Node)
  | [] => .ok []
  | c :: rest =>
    if isKept c then do
      let first ← convert bytes c.field c
      let others ← convertKept bytes rest
      return first :: others
    else convertKept bytes rest

end

variable {bytes : ByteArray}

theorem convertKept_eq (ns : List Node) :
    convertKept bytes ns = (ns.filter isKept).mapM fun c => convert bytes c.field c := by
  induction ns with
  | nil => rfl
  | cons c rest ih =>
    rw [convertKept]
    split
    · next hk => rw [List.filter_cons_of_pos hk, List.mapM_cons, ih]
    · next hk => rw [List.filter_cons_of_neg hk, ih]

theorem convert_eq (field : Option String) (n : Node) :
    convert bytes field n = (do
      let kept ← (n.children.filter isKept).mapM fun c => convert bytes c.field c
      let r ← role bytes n
      return ⟨r, n.kind, n.start, n.stop, field, keywords n, kept⟩) := by
  rw [← convertKept_eq]
  cases n
  rw [convert]

/-! ### The stack of frames -/

/-- What becomes of a frame: its waiting parts are converted, behind those that are. -/
def Frame.value (bytes : ByteArray) (f : Frame) : Except Failure Syntax.Node := do
  let others ← f.pending.mapM fun c => convert bytes c.field c
  let r ← role bytes f.node
  return ⟨r, f.node.kind, f.node.start, f.node.stop, f.field, keywords f.node,
    f.converted.toList ++ others⟩

/-- What becomes of the frames around a node, once it is converted. -/
def unwind (bytes : ByteArray) : List Frame → Syntax.Node → Except Failure Syntax.Node
  | [], m => .ok m
  | parent :: outer, m => (parent.receive m).value bytes >>= unwind bytes outer

theorem Frame.value_enter (field : Option String) (n : Node) :
    (Frame.enter field n).value bytes = convert bytes field n := by
  rw [convert_eq]
  rfl

theorem Frame.value_leave (n : Node) (field : Option String) (converted : Array Syntax.Node) :
    Frame.value bytes ⟨n, field, [], converted⟩ = Frame.leave bytes ⟨n, field, [], converted⟩ := by
  simp [Frame.value, Frame.leave]

theorem Frame.value_next (n c : Node) (field : Option String) (waiting : List Node)
    (converted : Array Syntax.Node) :
    Frame.value bytes ⟨n, field, c :: waiting, converted⟩ =
      convert bytes c.field c >>= fun m =>
        (Frame.receive ⟨n, field, waiting, converted⟩ m).value bytes := by
  simp only [Frame.value, Frame.receive, List.mapM_cons, bind_assoc, pure_bind, Array.toList_push,
    List.append_assoc, List.singleton_append]

/-- Every turn keeps what the stack comes to: the node on top goes into the frame below it, and so on
down to the root. -/
theorem run_eq (top : Frame) (around : List Frame) :
    run bytes top around = top.value bytes >>= unwind bytes around := by
  fun_induction run with
  | case1 n field c waiting converted around ih =>
    rw [ih, Frame.value_enter, Frame.value_next, bind_assoc]
    rfl
  | case2 n field converted around ih =>
    rw [Frame.value_leave]
    congr 1
    funext m
    cases around with
    | nil => rfl
    | cons parent outer => exact ih m

theorem toSyntax_eq (root : Node) : toSyntax bytes root = convert bytes none root := by
  rw [toSyntax, run_eq, Frame.value_enter]
  exact bind_pure _

/-! ### Nodes that stand for each other -/

structure StandsFor (bytes : ByteArray) (m : Syntax.Node) (n : Node) : Prop where
  role : role bytes n = .ok m.role
  kind : m.kind = n.kind
  start : m.start = n.start
  stop : m.stop = n.stop
  keywords : m.keywords = keywords n
  children : List.Forall₂ (fun c d => convert bytes c.field c = .ok d) (n.children.filter isKept)
    m.children

theorem convert_eq_ok_iff {field : Option String} {n : Node} {m : Syntax.Node} :
    convert bytes field n = .ok m ↔ StandsFor bytes m n ∧ m.field = field := by
  rw [convert_eq, bind_eq_ok_iff]
  constructor
  · rintro ⟨kept, hkept, h⟩
    obtain ⟨r, hr, h⟩ := bind_eq_ok_iff.1 h
    cases h
    exact ⟨⟨hr, rfl, rfl, rfl, rfl, mapM_eq_ok_iff.1 hkept⟩, rfl⟩
  · obtain ⟨r, kind, start, stop, own, words, kept⟩ := m
    rintro ⟨⟨hr, rfl, rfl, rfl, rfl, hkept⟩, rfl⟩
    exact ⟨kept, mapM_eq_ok_iff.2 hkept, bind_eq_ok_iff.2 ⟨r, hr, rfl⟩⟩

/-- What carries over from a concrete node to the syntax node that stands for it carries over to the
whole tree. -/
theorem convert_everywhere {P : Node → Prop} {Q : Syntax.Node → Prop}
    (hstep : ∀ m n, StandsFor bytes m n → P n → Q m) {field : Option String} {n : Node}
    {m : Syntax.Node} (h : convert bytes field n = .ok m) (hn : n.Everywhere P) : m.Everywhere Q := by
  induction m using Syntax.Node.childInduction generalizing field n with
  | step m ih =>
    have hm := (convert_eq_ok_iff.1 h).1
    refine .intro (hstep m n hm hn.here) fun d hd => ?_
    obtain ⟨c, hc, hcd⟩ := exists_of_mem_right hm.children hd
    exact ih d hd hcd (hn.child (List.mem_of_mem_filter hc))

/-- Where every node has a role, conversion succeeds. -/
theorem exists_convert {n : Node} (h : n.Everywhere fun m => ∃ r, role bytes m = .ok r)
    (field : Option String) : ∃ m, convert bytes field n = .ok m := by
  induction n using Node.partInduction generalizing field with
  | step n ih =>
    obtain ⟨kept, hkept⟩ : ∃ kept, (n.children.filter isKept).mapM
        (fun c => convert bytes c.field c) = .ok kept :=
      exists_mapM_eq_ok fun c hc =>
        have hc := List.mem_of_mem_filter hc
        ih c hc (h.child hc) c.field
    obtain ⟨r, hr⟩ := h.here
    refine ⟨⟨r, n.kind, n.start, n.stop, field, keywords n, kept⟩, ?_⟩
    rw [convert_eq, hkept, hr]
    rfl

end TierSplit.Concrete

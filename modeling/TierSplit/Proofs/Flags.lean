import Mathlib.Data.List.Basic
import Mathlib.Logic.Relation
import TierSplit.Component.Resource

/-! Which resources ask to be compiled. The query collects the values of each key, yet only one piece of
it counts: the last one that carries the flag. So the answer is the same after any edit of the query
that leaves this piece the last one. -/

namespace TierSplit.Resource

/-- A resource read as a path and the pieces of its query. Without a question mark there are none. -/
inductive Spells : String → List Char → List (List Char) → Prop
  | bare {path : List Char} : '?' ∉ path → Spells (String.ofList path) path []
  | query {path : List Char} {ps : List (List Char)} : '?' ∉ path → (∀ p ∈ ps, '&' ∉ p) →
      Spells (String.ofList (path ++ '?' :: ['&'].intercalate ps)) path ps

/-- The piece gives a value to the flag. -/
def Carries (flag : String) (piece : List Char) : Prop := piece ≠ [] ∧ (parameter piece).1 = flag

instance (flag : String) (piece : List Char) : Decidable (Carries flag piece) :=
  inferInstanceAs (Decidable (piece ≠ [] ∧ (parameter piece).1 = flag))

/-- Edits of a query that leave the last piece with the flag: one without the flag is put anywhere, or
passes another piece, and any piece is put before one with the flag. -/
inductive Edit (flag : String) : List (List Char) → List (List Char) → Prop
  | insert {before after : List (List Char)} {p : List Char} : ¬Carries flag p →
      Edit flag (before ++ after) (before ++ p :: after)
  | swap {before after : List (List Char)} {p q : List Char} : ¬Carries flag p →
      Edit flag (before ++ p :: q :: after) (before ++ q :: p :: after)
  | earlier {before between after : List (List Char)} {p q : List Char} : Carries flag q →
      Edit flag (before ++ (between ++ q :: after)) (before ++ p :: (between ++ q :: after))

/-! ### Cutting a resource -/

theorem splitFirst_of_notMem {separator : Char} {cs : List Char} (h : separator ∉ cs) :
    splitFirst separator cs = (cs, none) := by
  induction cs with
  | nil => rfl
  | cons c rest ih =>
    obtain ⟨hc, hrest⟩ := not_or.1 (mt List.mem_cons.2 h)
    rw [splitFirst, if_neg (Ne.symm hc), ih hrest]

theorem splitFirst_append {separator : Char} {cs : List Char} (h : separator ∉ cs)
    (rest : List Char) : splitFirst separator (cs ++ separator :: rest) = (cs, some rest) := by
  induction cs with
  | nil => rw [List.nil_append, splitFirst, if_pos rfl]
  | cons c cs ih =>
    obtain ⟨hc, hcs⟩ := not_or.1 (mt List.mem_cons.2 h)
    rw [List.cons_append, splitFirst, if_neg (Ne.symm hc), ih hcs]

theorem pieces_eq (separator : Char) (cs : List Char) : pieces separator cs = cs.splitOn separator := by
  induction cs with
  | nil => rfl
  | cons c rest ih =>
    rw [pieces, ih, List.splitOn_cons_eq_if_modifyHead]
    by_cases hc : c = separator
    · rw [if_pos hc, if_pos (beq_iff_eq.2 hc)]
    · rw [if_neg hc, if_neg (hc ∘ eq_of_beq)]
      cases hrest : rest.splitOn separator with
      | nil => exact absurd hrest (List.splitOn_ne_nil separator rest)
      | cons piece more => rfl

theorem notMem_of_mem_pieces {separator : Char} {cs p : List Char} (h : p ∈ pieces separator cs) :
    separator ∉ p := by
  induction cs generalizing p with
  | nil =>
    rw [List.mem_singleton.1 h]
    exact List.not_mem_nil
  | cons c rest ih =>
    rw [pieces] at h
    split at h
    · rcases List.mem_cons.1 h with rfl | h
      · exact List.not_mem_nil
      · exact ih h
    · next hc =>
      split at h
      · next piece more hrest =>
        rw [hrest] at ih
        rcases List.mem_cons.1 h with rfl | h
        · rw [List.mem_cons, not_or]
          exact ⟨Ne.symm hc, ih List.mem_cons_self⟩
        · exact ih (List.mem_cons_of_mem _ h)
      · rw [List.mem_singleton.1 h, List.mem_singleton]
        exact Ne.symm hc

theorem exists_spells (resource : String) : ∃ path ps, Spells resource path ps := by
  rw [← String.ofList_toList (s := resource)]
  by_cases h : '?' ∈ resource.toList
  · obtain ⟨path, rest, hresource, hpath⟩ := List.eq_append_cons_of_mem h
    have hrest : ['&'].intercalate (pieces '&' rest) = rest := by
      rw [pieces_eq, List.intercalate_splitOn]
    rw [hresource, ← hrest]
    exact ⟨path, pieces '&' rest, .query hpath fun p hp => notMem_of_mem_pieces hp⟩
  · exact ⟨_, _, .bare h⟩

/-! ### The values of a key -/

theorem filter_carries (flag : String) (ps : List (List Char)) :
    ps.filter (Carries flag ·) = (ps.filter (!·.isEmpty)).filter fun p => (parameter p).1 = flag := by
  rw [List.filter_filter]
  apply List.filter_congr
  intro p _
  rw [Bool.eq_iff_iff, decide_eq_true_iff, Carries]
  simp [and_comm]

namespace Query

theorem values_cons (entry : String × List String) (rest : Query) (flag : String) :
    values (entry :: rest) flag = if entry.1 = flag then entry.2 else values rest flag := by
  unfold values
  by_cases h : entry.1 = flag <;> simp [h]

theorem values_add (q : Query) (key value flag : String) :
    (q.add key value).values flag =
      if key = flag then q.values flag ++ [value] else q.values flag := by
  induction q with
  | nil =>
    rw [add, values_cons]
    rfl
  | cons entry rest ih =>
    rw [add, values_cons entry rest]
    by_cases hkey : entry.1 = key
    · rw [if_pos hkey, values_cons, hkey]
      split <;> rfl
    · rw [if_neg hkey, values_cons, ih]
      by_cases hflag : entry.1 = flag
      · rw [if_pos hflag, if_pos hflag, if_neg fun h => hkey (hflag.trans h.symm)]
      · rw [if_neg hflag, if_neg hflag]

theorem values_foldl (ps : List (List Char)) (q : Query) (flag : String) :
    (ps.foldl (fun q piece => q.add (parameter piece).1 (parameter piece).2) q).values flag =
      q.values flag ++
        (ps.filter fun p => (parameter p).1 = flag).map fun p => (parameter p).2 := by
  induction ps generalizing q with
  | nil => rw [List.foldl_nil, List.filter_nil, List.map_nil, List.append_nil]
  | cons p rest ih =>
    rw [List.foldl_cons, ih, values_add, List.filter_cons]
    by_cases h : (parameter p).1 = flag
    · rw [if_pos h, if_pos (decide_eq_true h), List.map_cons, List.append_assoc,
        List.singleton_append]
    · rw [if_neg h, if_neg (by simpa using h)]

theorem values_parse {ps : List (List Char)} (h : ∀ p ∈ ps, '&' ∉ p) (flag : String) :
    (parse (['&'].intercalate ps)).values flag =
      (ps.filter (Carries flag ·)).map fun p => (parameter p).2 := by
  rw [parse, values_foldl, ← filter_carries]
  by_cases hps : ps = []
  · subst hps
    rfl
  · rw [pieces_eq, List.splitOn_intercalate '&' h hps]
    rfl

end Query

/-! ### The piece that counts -/

theorem hasExtension_iff {extensions : List String} {path : List Char} :
    hasExtension extensions path = true ↔
      ∃ e ∈ extensions, Text.lowerCase e = Text.lowerCase (String.ofList (suffix path)) := by
  rw [hasExtension, List.contains_iff_mem, List.mem_map]

/-- The last piece that carries the flag. -/
def deciding? (flag : String) (ps : List (List Char)) : Option (List Char) :=
  (ps.filter (Carries flag ·)).getLast?

theorem isFlagged_of_spells {extensions : List String} {flag resource : String} {path : List Char}
    {ps : List (List Char)} (h : Spells resource path ps) :
    isFlagged extensions flag resource =
      (hasExtension extensions path && (deciding? flag ps).any fun p => meansYes (parameter p).2) := by
  unfold isFlagged deciding?
  cases h with
  | bare hpath =>
    rw [String.toList_ofList, splitFirst_of_notMem hpath]
    rfl
  | query hpath hps =>
    rw [String.toList_ofList, splitFirst_append hpath]
    dsimp only [Option.getD_some]
    rw [Query.values_parse hps, List.getLast?_map]
    cases (ps.filter (Carries flag ·)).getLast? with
    | none => rw [Option.map_none, Option.any_none]
    | some piece => rw [Option.map_some, Option.any_some]

theorem meansYes_iff {value : String} :
    meansYes value = true ↔ Text.lowerCase value ∈ ["", "1", "true", "yes"] := by
  rw [meansYes, List.contains_iff_mem]

/-- Looked for from the right among the pieces that are not empty. -/
theorem deciding?_eq_find? (flag : String) (ps : List (List Char)) :
    deciding? flag ps = (ps.filter (!·.isEmpty)).reverse.find? fun p => (parameter p).1 = flag := by
  rw [deciding?, filter_carries, List.getLast?_filter]

theorem deciding?_eq_some {flag : String} {ps : List (List Char)} {piece : List Char} :
    deciding? flag ps = some piece ↔
      ∃ before after, ps.filter (!·.isEmpty) = before ++ piece :: after ∧ (parameter piece).1 = flag ∧
        ∀ p ∈ after, (parameter p).1 ≠ flag := by
  rw [deciding?_eq_find?, List.find?_eq_some_iff_append, decide_eq_true_iff]
  constructor
  · rintro ⟨hflag, later, earlier, hsplit, hlater⟩
    refine ⟨earlier.reverse, later.reverse, ?_, hflag, fun p hp => ?_⟩
    · rw [← List.reverse_reverse (ps.filter (!·.isEmpty)), hsplit]
      simp
    · simpa using hlater p (List.mem_reverse.1 hp)
  · rintro ⟨before, after, hsplit, hflag, hafter⟩
    refine ⟨hflag, after.reverse, before.reverse, ?_, fun p hp => ?_⟩
    · rw [hsplit, List.reverse_append, List.reverse_cons, List.append_assoc, List.singleton_append]
    · simpa using hafter p (List.mem_reverse.1 hp)

theorem Edit.deciding?_eq {flag : String} {ps ps' : List (List Char)} (h : Edit flag ps ps') :
    deciding? flag ps = deciding? flag ps' := by
  unfold deciding?
  cases h with
  | insert hp =>
    rw [List.filter_append, List.filter_append, List.filter_cons_of_neg (by simpa using hp)]
  | swap hp =>
    rw [List.filter_append, List.filter_append, List.filter_cons_of_neg (by simpa using hp),
      List.filter_cons, List.filter_cons, List.filter_cons_of_neg (by simpa using hp)]
  | @earlier before between after p q hq =>
    -- the last part has a piece with the flag, so what comes before it does not count
    have hlast : ∀ front : List (List Char),
        ((front ++ q :: after).filter (Carries flag ·)).getLast? =
          ((q :: after).filter (Carries flag ·)).getLast? := by
      intro front
      rw [List.filter_append, List.getLast?_append_of_ne_nil]
      exact List.ne_nil_of_mem (List.mem_filter.2 ⟨List.mem_cons_self, decide_eq_true hq⟩)
    rw [← List.append_assoc, hlast, ← List.cons_append, ← List.append_assoc, hlast]

theorem edits_deciding?_eq {flag : String} {ps ps' : List (List Char)}
    (h : Relation.EqvGen (Edit flag) ps ps') : deciding? flag ps = deciding? flag ps' := by
  induction h with
  | rel _ _ h => exact h.deciding?_eq
  | refl _ => rfl
  | symm _ _ _ ih => exact ih.symm
  | trans _ _ _ _ _ ih ih' => exact ih.trans ih'

/-- A resource is compiled exactly if its path ends like a component and the last of its pieces with the
flag gives it a value that means yes. No edit that leaves this piece the last one changes that. -/
theorem last_flag_decides (extensions : List String) (flag resource : String) :
    (∃ path ps, Spells resource path ps) ∧
    ∀ path ps, Spells resource path ps →
      (isFlagged extensions flag resource = true ↔
        (∃ e ∈ extensions, Text.lowerCase e = Text.lowerCase (String.ofList (suffix path))) ∧
          ∃ before piece after, ps.filter (!·.isEmpty) = before ++ piece :: after ∧
            (parameter piece).1 = flag ∧ (∀ p ∈ after, (parameter p).1 ≠ flag) ∧
            Text.lowerCase (parameter piece).2 ∈ ["", "1", "true", "yes"]) ∧
      ∀ resource' ps', Spells resource' path ps' → Relation.EqvGen (Edit flag) ps ps' →
        isFlagged extensions flag resource' = isFlagged extensions flag resource := by
  refine ⟨exists_spells resource, fun path ps h => ⟨?_, fun resource' ps' h' hedits => ?_⟩⟩
  · rw [isFlagged_of_spells h, Bool.and_eq_true, hasExtension_iff, Option.any_eq_true]
    apply and_congr_right
    intro _
    constructor
    · rintro ⟨piece, hpiece, hyes⟩
      obtain ⟨before, after, hsplit, hflag, hafter⟩ := deciding?_eq_some.1 hpiece
      exact ⟨before, piece, after, hsplit, hflag, hafter, meansYes_iff.1 hyes⟩
    · rintro ⟨before, piece, after, hsplit, hflag, hafter, hyes⟩
      exact ⟨piece, deciding?_eq_some.2 ⟨before, after, hsplit, hflag, hafter⟩, meansYes_iff.2 hyes⟩
  · rw [isFlagged_of_spells h, isFlagged_of_spells h', edits_deciding?_eq hedits]

/-- An escape spells the flag, a later value wins, and a second question mark is text. -/
example : isFlagged [".vue"] "tiers" "src/App.VUE?tiers=0&lang=ts?&%74iers=Yes&&%zz=%26tiers" = true := by
  decide +kernel

end TierSplit.Resource

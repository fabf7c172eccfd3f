import TierSplit.Proofs.Fallible
import TierSplit.Proofs.Fragments
import TierSplit.Settings.Layers

/-! The reserved names of accepted settings. Wherever a name comes from, it is an identifier with at most one
newline behind it; that newline is the only way in which a name is no identifier, and the only way in which
both channels are one variable. -/

namespace TierSplit.Settings

def NameStart (c : Char) : Prop := ('A' ≤ c ∧ c ≤ 'Z') ∨ ('a' ≤ c ∧ c ≤ 'z') ∨ c = '_' ∨ c = '$'

def NamePart (c : Char) : Prop := NameStart c ∨ ('0' ≤ c ∧ c ≤ '9')

instance : DecidablePred NameStart := fun _ => inferInstanceAs (Decidable (_ ∨ _))

instance : DecidablePred NamePart := fun _ => inferInstanceAs (Decidable (_ ∨ _))

/-- The whole text is an identifier. -/
def IsIdentifier (text : String) : Prop :=
  ∃ first rest, text.toList = first :: rest ∧ NameStart first ∧ ∀ c ∈ rest, NamePart c

/-- The text is the identifier, with a newline behind it or not. -/
def Spells (text name : String) : Prop := IsIdentifier name ∧ (text = name ∨ text = name ++ "\n")

/-- The names that the code of fragments and markers is made with. -/
def reserved (s : Settings) : List String := [s.markerLabel, s.inputChannel, s.outputChannel]

/-! ### Identifiers -/

theorem isNameStart_iff (c : Char) : isNameStart c = true ↔ NameStart c := by
  have hletter : c.isAlpha = (decide ('A' ≤ c ∧ c ≤ 'Z') || ('a' ≤ c && c ≤ 'z')) := rfl
  rw [isNameStart, hletter, NameStart]
  simp only [Bool.or_eq_true, Bool.and_eq_true, decide_eq_true_eq, beq_iff_eq, or_assoc]

theorem isNamePart_iff (c : Char) : isNamePart c = true ↔ NamePart c := by
  have hdigit : c.isDigit = ('0' ≤ c && c ≤ '9') := rfl
  rw [isNamePart, hdigit, NamePart, Bool.or_eq_true, isNameStart_iff]
  simp only [Bool.and_eq_true, decide_eq_true_eq]

theorem isName_iff (text : String) : isName text.toList = true ↔ IsIdentifier text := by
  unfold IsIdentifier
  cases text.toList with
  | nil => simp [isName]
  | cons first rest =>
    rw [isName, Bool.and_eq_true, isNameStart_iff, List.all_eq_true]
    simp only [isNamePart_iff]
    constructor
    · rintro ⟨hfirst, hrest⟩
      exact ⟨first, rest, rfl, hfirst, hrest⟩
    · rintro ⟨_, _, ⟨⟩, hfirst, hrest⟩
      exact ⟨hfirst, hrest⟩

theorem IsIdentifier.namePart {name : String} (h : IsIdentifier name) {c : Char}
    (hc : c ∈ name.toList) : NamePart c := by
  obtain ⟨first, rest, hname, hfirst, hrest⟩ := h
  rw [hname] at hc
  rcases List.mem_cons.1 hc with rfl | hc
  · exact .inl hfirst
  · exact hrest c hc

theorem IsIdentifier.newline_notMem {name : String} (h : IsIdentifier name) : '\n' ∉ name.toList :=
  fun hnewline => absurd (h.namePart hnewline) (by decide)

theorem Spells.identifier_iff {text name : String} (h : Spells text name) :
    IsIdentifier text ↔ '\n' ∉ text.toList := by
  obtain ⟨hname, rfl | rfl⟩ := h
  · exact iff_of_true hname hname.newline_notMem
  · have hnewline : '\n' ∈ (name ++ "\n").toList := by simp
    exact iff_of_false (fun hline => hline.newline_notMem hnewline) (not_not_intro hnewline)

theorem isNameLine_iff (text : String) : isNameLine text.toList = true ↔ ∃ name, Spells text name := by
  rw [isNameLine, Bool.or_eq_true, isName_iff, Bool.and_eq_true, beq_iff_eq]
  constructor
  · rintro (hname | ⟨hlast, hname⟩)
    · exact ⟨text, hname, .inl rfl⟩
    · rw [← String.toList_ofList (l := text.toList.dropLast), isName_iff] at hname
      refine ⟨_, hname, .inr (String.toList_inj.1 ?_)⟩
      rw [String.toList_append, String.toList_ofList]
      exact (List.dropLast_append_getLast? _ hlast).symm
  · rintro ⟨name, hname, rfl | rfl⟩
    · exact .inl hname
    · right
      have hlist : (name ++ "\n").toList = name.toList ++ ['\n'] := String.toList_append
      rw [hlist, List.getLast?_concat, List.dropLast_concat, isName_iff]
      exact ⟨rfl, hname⟩

/-! ### Accepted fields -/

theorem checkName_eq_ok_iff {v : Value} {text : String} :
    checkName v = .ok text ↔ v = .str text ∧ ∃ name, Spells text name := by
  rw [← isNameLine_iff]
  cases v with
  | str s =>
    by_cases hline : isNameLine s.toList = true
    · simp only [checkName, Checked.text, if_pos hline]
      constructor
      · rintro ⟨⟩
        exact ⟨rfl, hline⟩
      · rintro ⟨⟨⟩, -⟩
        rfl
    · simp only [checkName, Checked.text, if_neg hline]
      refine iff_of_false nofun ?_
      rintro ⟨⟨⟩, htext⟩
      exact hline htext
  | _ => exact iff_of_false nofun (fun h => nomatch h.1)

theorem field_eq_ok {α : Type} {given : Fields} {name : String} {default a : α}
    {check : Value → Checked α} (h : field given name default check = .ok a) :
    a = default ∨ ∃ v, check v = .ok a := by
  unfold field at h
  split at h
  · next v _ =>
    cases hv : check v with
    | error ps => rw [hv] at h; cases h
    | ok b => rw [hv] at h; cases h; exact .inr ⟨v, hv⟩
  · cases h
    exact .inl rfl

theorem exists_spells_of_field {given : Fields} {name default text : String}
    (hdefault : isNameLine default.toList = true)
    (h : field given name default checkName = .ok text) : ∃ v, Spells text v := by
  rcases field_eq_ok h with rfl | ⟨v, hv⟩
  · exact (isNameLine_iff _).1 hdefault
  · exact (checkName_eq_ok_iff.1 hv).2

theorem check_eq_ok {given : Fields} {s : Settings} (h : check given = .ok s) :
    (∀ text ∈ s.reserved, ∃ name, Spells text name) ∧ s.inputChannel ≠ s.outputChannel := by
  simp only [check] at h
  split at h
  · next hlabel _ hinput houtput _ _ _ _ =>
    split at h
    · cases h
    · next hne =>
      cases h
      refine ⟨?_, hne⟩
      intro text htext
      simp only [reserved, List.mem_cons, List.not_mem_nil, or_false] at htext
      rcases htext with rfl | rfl | rfl
      · exact exists_spells_of_field (by decide) hlabel
      · exact exists_spells_of_field (by decide) hinput
      · exact exists_spells_of_field (by decide) houtput
  · cases h

theorem load_eq_ok {given : Fields} {environment : Variables} {file : Option String} {s : Settings}
    (h : load given environment file = .ok s) : ∃ fields, check fields = .ok s := by
  unfold load at h
  obtain ⟨fromEnvironment, -, h⟩ := bind_eq_ok_iff.1 h
  obtain ⟨fromFile, -, h⟩ := bind_eq_ok_iff.1 h
  refine ⟨given ++ fromEnvironment ++ fromFile, ?_⟩
  split at h
  · next hcheck =>
    cases h
    exact hcheck
  · cases h

/-! ### Two names -/

theorem IsIdentifier.spells {name : String} (h : IsIdentifier name) : Spells name name := ⟨h, .inl rfl⟩

theorem Spells.eq_of_newline {text name : String} (h : Spells (text ++ "\n") name) : text = name := by
  obtain ⟨hname, rfl | hline⟩ := h
  · exact absurd (by simp) hname.newline_notMem
  · rw [← String.toList_inj, String.toList_append, String.toList_append] at hline
    exact String.toList_inj.1 (List.append_cancel_right hline)

theorem Spells.unique {text a b : String} (ha : Spells text a) (hb : Spells text b) : a = b := by
  rcases ha.2 with rfl | rfl
  · rcases hb.2 with hab | rfl
    · exact hab
    · exact (ha.eq_of_newline).symm
  · exact hb.eq_of_newline

/-- Different texts spell one identifier exactly if only a newline tells them apart. -/
theorem Spells.eq_iff {first second a b : String} (ha : Spells first a) (hb : Spells second b)
    (hne : first ≠ second) : a = b ↔ first = second ++ "\n" ∨ second = first ++ "\n" := by
  constructor
  · rintro rfl
    rcases ha.2 with rfl | rfl <;> rcases hb.2 with rfl | rfl
    · exact absurd rfl hne
    · exact .inr rfl
    · exact .inl rfl
    · exact absurd rfl hne
  · rintro (rfl | rfl)
    · obtain rfl := ha.eq_of_newline
      exact ha.1.spells.unique hb
    · obtain rfl := hb.eq_of_newline
      exact ha.unique hb.1.spells

/-! ### The lines of a fragment -/

def isGap (c : Char) : Bool := !isNamePart c

/-- The identifier that stands first in a line. -/
def firstName (line : List Char) : List Char := (line.dropWhile isGap).takeWhile isNamePart

/-- The identifier that stands last in a line. -/
def lastName (line : List Char) : List Char := (firstName line.reverse).reverse

theorem firstName_eq {before name after rest : List Char} (hbefore : before.all isGap = true)
    (hname : name.all isNamePart = true) (hne : name ≠ []) (hafter : after.all isGap = true)
    (hstop : after ≠ []) : firstName (before ++ (name ++ (after ++ rest))) = name := by
  obtain ⟨first, others, rfl⟩ := List.exists_cons_of_ne_nil hne
  obtain ⟨stop, behind, rfl⟩ := List.exists_cons_of_ne_nil hstop
  rw [List.all_eq_true] at hbefore hname hafter
  have hfirst : isGap first = false := by
    rw [isGap, hname first List.mem_cons_self]
    rfl
  have hend : (stop :: behind ++ rest).takeWhile isNamePart = [] :=
    List.takeWhile_cons_of_neg (by simpa [isGap] using hafter stop List.mem_cons_self)
  rw [firstName, List.dropWhile_append_of_pos hbefore, List.cons_append,
    List.dropWhile_cons_of_neg (by simp [hfirst]), ← List.cons_append,
    List.takeWhile_append_of_pos hname, hend, List.append_nil]

section

variable {text name : String} (h : Spells text name)
include h

theorem Spells.parts : name.toList.all isNamePart = true :=
  List.all_eq_true.2 fun c hc => (isNamePart_iff c).2 (h.1.namePart hc)

theorem Spells.ne_nil : name.toList ≠ [] := by
  obtain ⟨⟨first, rest, hname, -⟩, -⟩ := h
  rw [hname]
  exact List.cons_ne_nil _ _

/-- What the text adds to the identifier can not be a part of it. -/
theorem Spells.toList_eq : ∃ added, text.toList = name.toList ++ added ∧ added.all isGap = true := by
  obtain ⟨-, rfl | rfl⟩ := h
  · exact ⟨[], (List.append_nil _).symm, rfl⟩
  · exact ⟨['\n'], String.toList_append, rfl⟩

theorem firstName_outputLine (input : String) (names : Names) :
    firstName (Fragment.outputLine ⟨input, text⟩ names).toList = name.toList := by
  obtain ⟨added, htext, hadded⟩ := h.toList_eq
  have hafter : (added ++ " = ".toList).all isGap = true := by
    rw [List.all_append, hadded]
    rfl
  simp only [Fragment.outputLine, String.toList_append, htext, List.append_assoc]
  rw [← List.append_assoc added]
  exact firstName_eq rfl h.parts h.ne_nil hafter
    (List.append_ne_nil_of_right_ne_nil _ (List.cons_ne_nil _ _))

theorem lastName_inputLine (output : String) (names : Names) {line : String}
    (hline : line ∈ Fragment.inputLine ⟨text, output⟩ names) :
    lastName line.toList = name.toList := by
  unfold Fragment.inputLine at hline
  split at hline
  · cases hline
  · obtain rfl := List.mem_singleton.1 hline
    obtain ⟨added, htext, hadded⟩ := h.toList_eq
    have hbefore : (";".toList.reverse ++ added.reverse).all isGap = true := by
      rw [List.all_append, List.all_reverse (l := added), hadded]
      rfl
    have hparts : name.toList.reverse.all isNamePart = true := by
      rw [List.all_reverse, h.parts]
    have hne : name.toList.reverse ≠ [] := mt List.reverse_eq_nil_iff.1 h.ne_nil
    have hafter : " = ".toList.reverse.all isGap = true := rfl
    have hstop : " = ".toList.reverse ≠ [] := List.cons_ne_nil _ _
    simp only [lastName, String.toList_append, htext, List.reverse_append, List.append_assoc]
    rw [← List.append_assoc ";".toList.reverse, firstName_eq hbefore hparts hne hafter hstop,
      List.reverse_reverse]

end

/-- The code of the block takes its inputs, if there are any, from one variable in the line before its
piece of the source, and puts its outputs on another one in the line behind it. -/
def Exchanges (code piece : String) (b : Block) (input output : String) : Prop :=
  ∃ opening closing, code = "\n".intercalate (opening ++ [piece, closing]) ∧
    (b.inputs = [] → opening = []) ∧
    (b.inputs ≠ [] → ∃ line, opening = [line] ∧ lastName line.toList = input.toList) ∧
    firstName closing.toList = output.toList

theorem exchanges_of_render {bytes : ByteArray} {channels : Channels} {b : Block} {code : String}
    (h : Fragment.render bytes channels b = .ok code) {input output : String}
    (hinput : Spells channels.input input) (houtput : Spells channels.output output) :
    ∃ piece, Source.slice bytes b.start b.stop = .ok piece ∧ Exchanges code piece b input output := by
  obtain ⟨piece, hpiece, hcode⟩ := Fragment.render_eq_ok h
  refine ⟨piece, hpiece, Fragment.inputLine channels b.inputs,
    Fragment.outputLine channels b.outputs, hcode, ?_, ?_, firstName_outputLine houtput _ _⟩
  · intro hnone
    rw [hnone]
    rfl
  · intro hsome
    have hlines : ∃ line, Fragment.inputLine channels b.inputs = [line] :=
      ⟨_, if_neg (by rwa [List.isEmpty_iff])⟩
    obtain ⟨line, hline⟩ := hlines
    exact ⟨line, hline, lastName_inputLine hinput _ _ (by rw [hline]; exact List.mem_singleton_self _)⟩

/-! ### The names of accepted settings -/

/-- What the check of the fields accepts, spells three identifiers, and the code of a block takes from one
channel and puts on the other. -/
theorem checked_names_spell_identifiers {fields : Fields} {s : Settings} (h : check fields = .ok s) :
    ∃ label input output, Spells s.markerLabel label ∧ Spells s.inputChannel input ∧
      Spells s.outputChannel output ∧
      (∀ text ∈ s.reserved, IsIdentifier text ↔ '\n' ∉ text.toList) ∧
      s.inputChannel ≠ s.outputChannel ∧
      (input = output ↔ s.inputChannel = s.outputChannel ++ "\n" ∨
        s.outputChannel = s.inputChannel ++ "\n") ∧
      ∀ bytes b code, Fragment.render bytes s.channels b = .ok code →
        ∃ piece, Source.slice bytes b.start b.stop = .ok piece ∧ Exchanges code piece b input output := by
  obtain ⟨hreserved, hne⟩ := check_eq_ok h
  obtain ⟨label, hlabel⟩ := hreserved s.markerLabel (by simp [reserved])
  obtain ⟨input, hinput⟩ := hreserved s.inputChannel (by simp [reserved])
  obtain ⟨output, houtput⟩ := hreserved s.outputChannel (by simp [reserved])
  refine ⟨label, input, output, hlabel, hinput, houtput, ?_, hne, hinput.eq_iff houtput hne, ?_⟩
  · intro text htext
    obtain ⟨_, hspells⟩ := hreserved text htext
    exact hspells.identifier_iff
  · intro bytes b code hcode
    exact exchanges_of_render hcode hinput houtput

/-- Accepted settings spell three identifiers, wherever each name comes from. A name is an identifier
as it stands unless a newline is behind it, and the channels are two variables unless a newline is all
that tells their names apart; the code of a block takes from the one and puts on the other. -/
theorem accepted_names_spell_identifiers {given : Fields} {environment : Variables}
    {file : Option String} {s : Settings} (h : load given environment file = .ok s) :
    ∃ label input output, Spells s.markerLabel label ∧ Spells s.inputChannel input ∧
      Spells s.outputChannel output ∧
      (∀ text ∈ s.reserved, IsIdentifier text ↔ '\n' ∉ text.toList) ∧
      s.inputChannel ≠ s.outputChannel ∧
      (input = output ↔ s.inputChannel = s.outputChannel ++ "\n" ∨
        s.outputChannel = s.inputChannel ++ "\n") ∧
      ∀ bytes b code, Fragment.render bytes s.channels b = .ok code →
        ∃ piece, Source.slice bytes b.start b.stop = .ok piece ∧ Exchanges code piece b input output := by
  obtain ⟨fields, hcheck⟩ := load_eq_ok h
  exact checked_names_spell_identifiers hcheck

/-- One name from each layer, with a newline behind the one from the environment. -/
theorem layeredNames_spelled :
    ∃ s, load [("marker_label", .str "tier_1")] [("Codegraph_Tiers_Input_Channel", "$in\n")]
        (some "export CODEGRAPH_TIERS_OUTPUT_CHANNEL = 'out'\n") = .ok s ∧
      s.reserved = ["tier_1", "$in\n", "out"] ∧
      ∃ label input output, Spells s.markerLabel label ∧ Spells s.inputChannel input ∧
        Spells s.outputChannel output ∧
        (∀ text ∈ s.reserved, IsIdentifier text ↔ '\n' ∉ text.toList) ∧
        s.inputChannel ≠ s.outputChannel ∧
        (input = output ↔ s.inputChannel = s.outputChannel ++ "\n" ∨
          s.outputChannel = s.inputChannel ++ "\n") ∧
        ∀ bytes b code, Fragment.render bytes s.channels b = .ok code →
          ∃ piece, Source.slice bytes b.start b.stop = .ok piece ∧
            Exchanges code piece b input output := by
  obtain ⟨s, hs, hreserved⟩ : ∃ s, load [("marker_label", .str "tier_1")]
      [("Codegraph_Tiers_Input_Channel", "$in\n")]
      (some "export CODEGRAPH_TIERS_OUTPUT_CHANNEL = 'out'\n") = .ok s ∧
      s.reserved = ["tier_1", "$in\n", "out"] := exists_eq_ok (by decide +kernel)
  exact ⟨s, hs, hreserved, accepted_names_spell_identifiers hs⟩

/-- Both channels are accepted as one variable where a newline tells their names apart, and one of these
names is no identifier. -/
theorem newline_tells_channels_apart :
    ∃ s, load [("input_channel", .str "io"), ("output_channel", .str "io\n")] [] none = .ok s ∧
      ¬ IsIdentifier s.outputChannel ∧
      (∃ name, Spells s.inputChannel name ∧ Spells s.outputChannel name) ∧
      Fragment.render "x".toUTF8 s.channels ⟨0, ⟨true, false⟩, 0, 1, false, ["a"], ["b"], true⟩ =
        .ok ";const \x7b a \x7d = io;\nx\n;io\n = \x7b b \x7d;" := by
  have hname : IsIdentifier "io" := (isName_iff "io").1 (by decide)
  obtain ⟨s, hs, hchannels⟩ : ∃ s, load [("input_channel", .str "io"), ("output_channel", .str "io\n")]
      [] none = .ok s ∧ s.channels = ⟨"io", "io\n"⟩ := exists_eq_ok (by decide +kernel)
  obtain ⟨hin, hout⟩ : s.inputChannel = "io" ∧ s.outputChannel = "io\n" := by
    rwa [channels, Channels.mk.injEq] at hchannels
  refine ⟨s, hs, ?_, ⟨"io", ?_, ?_⟩, ?_⟩
  · rw [hout]
    exact fun hline => hline.newline_notMem (by decide)
  · rw [hin]
    exact hname.spells
  · rw [hout]
    exact ⟨hname, .inr rfl⟩
  · rw [hchannels]
    decide +kernel

end TierSplit.Settings

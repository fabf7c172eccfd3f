import TierSplit.CommandLine.Execute
import TierSplit.Proofs.Decoding
import TierSplit.Proofs.Fallible
import TierSplit.Proofs.Flags

/-! The resource that a command makes up for a component when none is named. It writes the flag into the
query as it is, while reading the query decodes it. So the flag is found again exactly if decoding leaves
it alone and it holds no character that divides a query. With any other flag the query has no key that is
the flag: a key that is cut out of it is shorter, and decoding makes nothing longer. -/

namespace TierSplit.Resource

/-- A text that means itself as the key of a query. -/
structure Verbatim (cs : List Char) : Prop where
  noAmpersand : '&' ∉ cs
  noEquals : '=' ∉ cs
  noPlus : '+' ∉ cs
  noEscape : ¬HasEscape cs

instance (cs : List Char) : Decidable (Verbatim cs) :=
  decidable_of_iff ('&' ∉ cs ∧ '=' ∉ cs ∧ '+' ∉ cs ∧ ¬HasEscape cs)
    ⟨fun h => ⟨h.1, h.2.1, h.2.2.1, h.2.2.2⟩, fun h => ⟨h.1, h.2, h.3, h.4⟩⟩

/-! ### The pieces of the query -/

theorem exists_pieces_cons {separator c : Char} (hc : c ≠ separator) (rest : List Char) :
    ∃ first more, pieces separator rest = first :: more ∧
      pieces separator (c :: rest) = (c :: first) :: more := by
  cases hrest : pieces separator rest with
  | nil =>
    rw [pieces_eq] at hrest
    exact absurd hrest (List.splitOn_ne_nil separator rest)
  | cons first more =>
    refine ⟨first, more, rfl, ?_⟩
    rw [pieces, if_neg hc, hrest]

theorem pieces_of_notMem {separator : Char} {cs : List Char} (h : separator ∉ cs) :
    pieces separator cs = [cs] := by
  induction cs with
  | nil => rfl
  | cons c rest ih =>
    obtain ⟨hc, hrest⟩ := not_or.1 (mt List.mem_cons.2 h)
    rw [pieces, if_neg (Ne.symm hc), ih hrest]

theorem shorter_of_mem_pieces {separator : Char} {cs tail piece : List Char} (h : separator ∈ cs)
    (htail : separator ∉ tail) (hpiece : piece ∈ pieces separator (cs ++ tail)) :
    ∃ part, part.length < cs.length ∧ (piece = part ∨ piece = part ++ tail) := by
  induction cs generalizing piece with
  | nil => cases h
  | cons c rest ih =>
    rw [List.cons_append] at hpiece
    by_cases hc : c = separator
    · rw [pieces, if_pos hc] at hpiece
      rcases List.mem_cons.1 hpiece with rfl | hlater
      · exact ⟨[], Nat.succ_pos _, .inl rfl⟩
      · by_cases hrest : separator ∈ rest
        · obtain ⟨part, hlt, hpart⟩ := ih hrest hlater
          exact ⟨part, Nat.lt_succ_of_lt hlt, hpart⟩
        · -- this separator is the last one
          rw [pieces_of_notMem (by simp [hrest, htail]), List.mem_singleton] at hlater
          exact ⟨rest, Nat.lt_succ_self _, .inr hlater⟩
    · have hrest : separator ∈ rest := (List.mem_cons.1 h).resolve_left (Ne.symm hc)
      obtain ⟨first, more, hpieces, hcons⟩ := exists_pieces_cons hc (rest ++ tail)
      rw [hcons] at hpiece
      rw [hpieces] at ih
      rcases List.mem_cons.1 hpiece with rfl | hlater
      · obtain ⟨part, hlt, rfl | rfl⟩ := ih hrest List.mem_cons_self
        · exact ⟨c :: first, Nat.succ_lt_succ hlt, .inl rfl⟩
        · exact ⟨c :: part, Nat.succ_lt_succ hlt, .inr rfl⟩
      · obtain ⟨part, hlt, hpart⟩ := ih hrest (List.mem_cons_of_mem _ hlater)
        exact ⟨part, Nat.lt_succ_of_lt hlt, hpart⟩

theorem length_splitFirst_le (separator : Char) (cs : List Char) :
    (splitFirst separator cs).1.length ≤ cs.length := by
  induction cs with
  | nil => exact Nat.le_refl _
  | cons c rest ih =>
    rw [splitFirst]
    split
    · exact Nat.zero_le _
    · exact Nat.succ_le_succ ih

theorem length_splitFirst_append_le (separator : Char) (cs rest : List Char) :
    (splitFirst separator (cs ++ separator :: rest)).1.length ≤ cs.length := by
  induction cs with
  | nil => simp [splitFirst]
  | cons c cs ih =>
    rw [List.cons_append, splitFirst]
    split
    · exact Nat.zero_le _
    · exact Nat.succ_le_succ ih

/-! ### The key -/

theorem parameter_append {key : List Char} (h : '=' ∉ key) (value : List Char) :
    parameter (key ++ '=' :: value) = (decode key, decode value) := by
  rw [parameter, splitFirst_append h]
  rfl

theorem key_ne_of_shorter {piece cs : List Char}
    (h : (splitFirst '=' piece).1.length < cs.length) : (parameter piece).1 ≠ String.ofList cs := by
  intro hkey
  have hle := length_decode_le (splitFirst '=' piece).1
  change decode (splitFirst '=' piece).1 = String.ofList cs at hkey
  rw [hkey, String.toList_ofList] at hle
  exact Nat.not_lt.2 hle h

/-- A text written before an equals sign is a key of the query exactly if it is verbatim. -/
theorem exists_key_iff {cs value : List Char} (hvalue : '&' ∉ value) :
    (∃ piece ∈ pieces '&' (cs ++ '=' :: value), (parameter piece).1 = String.ofList cs) ↔
      Verbatim cs := by
  have htail : '&' ∉ '=' :: value := by simpa using hvalue
  constructor
  · rintro ⟨piece, hpiece, hkey⟩
    have hand : '&' ∉ cs := by
      intro hand
      obtain ⟨part, hlt, rfl | rfl⟩ := shorter_of_mem_pieces hand htail hpiece
      · exact key_ne_of_shorter (Nat.lt_of_le_of_lt (length_splitFirst_le _ _) hlt) hkey
      · exact key_ne_of_shorter (Nat.lt_of_le_of_lt (length_splitFirst_append_le _ _ _) hlt) hkey
    rw [pieces_of_notMem (by simp [hand, hvalue]), List.mem_singleton] at hpiece
    subst hpiece
    have hequals : '=' ∉ cs := by
      intro hequals
      obtain ⟨before, after, rfl, -⟩ := List.eq_append_cons_of_mem hequals
      refine key_ne_of_shorter ?_ hkey
      rw [List.append_assoc, List.cons_append]
      refine Nat.lt_of_le_of_lt (length_splitFirst_append_le _ _ _) ?_
      simp
    rw [parameter_append hequals] at hkey
    obtain ⟨hplus, hescape⟩ := decode_eq_self_iff.1 hkey
    exact ⟨hand, hequals, hplus, hescape⟩
  · intro h
    refine ⟨cs ++ '=' :: value, ?_, ?_⟩
    · rw [pieces_of_notMem (by simp [h.noAmpersand, hvalue])]
      exact List.mem_cons_self
    · rw [parameter_append h.noEquals]
      exact decode_eq_self_iff.2 ⟨h.noPlus, h.noEscape⟩

/-! ### The resource -/

theorem spells_default {path flag : String} (hpath : '?' ∉ path.toList) :
    Spells (CommandLine.defaultResource path flag) path.toList
      (pieces '&' (flag.toList ++ '=' :: "true".toList)) := by
  have hspells : Spells _ path.toList (pieces '&' (flag.toList ++ '=' :: "true".toList)) :=
    .query hpath fun p hp => notMem_of_mem_pieces hp
  rw [pieces_eq, List.intercalate_splitOn] at hspells
  have hresource : CommandLine.defaultResource path flag =
      String.ofList (path.toList ++ '?' :: (flag.toList ++ '=' :: "true".toList)) := by
    rw [CommandLine.defaultResource, ← String.toList_inj]
    simp
  rw [hresource, pieces_eq]
  exact hspells

/-- The suffix of the path is one of a component, in any case. -/
def EndsLikeComponent (extensions : List String) (path : String) : Prop :=
  ∃ e ∈ extensions, Text.lowerCase e = Text.lowerCase (String.ofList (suffix path.toList))

instance (extensions : List String) (path : String) :
    Decidable (EndsLikeComponent extensions path) :=
  inferInstanceAs (Decidable (∃ e ∈ extensions, _))

/-- Whatever the path and the extension that it ends with, the default resource is recognised exactly if
the flag is verbatim. -/
theorem isFlagged_default_iff {extensions : List String} {flag path : String}
    (hpath : '?' ∉ path.toList) (hsuffix : EndsLikeComponent extensions path) :
    isFlagged extensions flag (CommandLine.defaultResource path flag) = true ↔
      Verbatim flag.toList := by
  have hvalue : '&' ∉ "true".toList := by decide
  rw [isFlagged_of_spells (spells_default hpath), hasExtension_iff.2 hsuffix, Bool.true_and,
    Option.any_eq_true]
  constructor
  · rintro ⟨piece, hpiece, -⟩
    obtain ⟨before, after, hsplit, hkey, -⟩ := deciding?_eq_some.1 hpiece
    have hmem : piece ∈ (pieces '&' (flag.toList ++ '=' :: "true".toList)).filter (!·.isEmpty) := by
      rw [hsplit]
      exact List.mem_append_right _ List.mem_cons_self
    rw [← String.ofList_toList (s := flag)] at hkey
    exact (exists_key_iff hvalue).1 ⟨piece, (List.mem_filter.1 hmem).1, hkey⟩
  · intro h
    have hparameter := parameter_append h.noEquals "true".toList
    refine ⟨flag.toList ++ '=' :: "true".toList, deciding?_eq_some.2 ⟨[], [], ?_, ?_, nofun⟩, ?_⟩
    · rw [pieces_of_notMem (by simp [h.noAmpersand])]
      exact List.filter_cons_of_pos (by simp)
    · rw [hparameter]
      exact (decode_eq_self_iff.2 ⟨h.noPlus, h.noEscape⟩).trans String.ofList_toList
    · have hyes : meansYes (decode "true".toList) = true := by decide +kernel
      rw [hparameter]
      exact hyes

/-! ### The path as it is shown -/

theorem mem_of_mem_pieces {separator c : Char} {cs piece : List Char}
    (hpiece : piece ∈ pieces separator cs) (hc : c ∈ piece) : c ∈ cs := by
  induction cs generalizing piece with
  | nil =>
    rw [List.mem_singleton.1 hpiece] at hc
    cases hc
  | cons d rest ih =>
    by_cases hd : d = separator
    · rw [pieces, if_pos hd] at hpiece
      rcases List.mem_cons.1 hpiece with rfl | hlater
      · cases hc
      · exact List.mem_cons_of_mem d (ih hlater hc)
    · obtain ⟨first, more, hpieces, hcons⟩ := exists_pieces_cons hd rest
      rw [hcons] at hpiece
      rw [hpieces] at ih
      rcases List.mem_cons.1 hpiece with rfl | hlater
      · rcases List.mem_cons.1 hc with rfl | hc
        · exact List.mem_cons_self
        · exact List.mem_cons_of_mem d (ih List.mem_cons_self hc)
      · exact List.mem_cons_of_mem d (ih (List.mem_cons_of_mem _ hlater) hc)

theorem mem_intercalate {separator c : Char} {ps : List (List Char)}
    (h : c ∈ [separator].intercalate ps) : c = separator ∨ ∃ p ∈ ps, c ∈ p := by
  induction ps with
  | nil => cases h
  | cons p rest ih =>
    cases rest with
    | nil =>
      rw [List.intercalate_singleton] at h
      exact .inr ⟨p, List.mem_cons_self, h⟩
    | cons q rest =>
      rw [List.intercalate_cons_cons, List.mem_append, List.mem_append, List.mem_singleton] at h
      rcases h with (hp | hc) | hlater
      · exact .inr ⟨p, List.mem_cons_self, hp⟩
      · exact .inl hc
      · exact (ih hlater).imp_right fun ⟨r, hr, hc⟩ => ⟨r, List.mem_cons_of_mem p hr, hc⟩

def components (path : List Char) : List (List Char) :=
  (pieces '/' path).filter fun p => !p.isEmpty && p != ['.']

theorem suffix_eq_of_components {path path' : List Char} (h : components path = components path') :
    suffix path = suffix path' := by
  have hname : fileName path = fileName path' := congrArg (fun ps => ps.getLast?.getD []) h
  rw [suffix, hname, suffix]

theorem components_intercalate (path : List Char) :
    components (['/'].intercalate (components path)) = components path := by
  have hsep : ∀ p ∈ components path, '/' ∉ p :=
    fun p hp => notMem_of_mem_pieces (List.mem_filter.1 hp).1
  by_cases hempty : components path = []
  · rw [hempty]
    rfl
  · rw [components, pieces_eq, List.splitOn_intercalate '/' hsep hempty]
    exact List.filter_eq_self.2 fun p hp => (List.mem_filter.1 hp).2

theorem toList_segments (path : String) :
    ("/".intercalate (CommandLine.segments path)).toList = ['/'].intercalate (components path.toList) := by
  rw [String.toList_intercalate, CommandLine.segments, List.map_map]
  simp [components]

theorem components_shownPath (path : String) :
    components (CommandLine.shownPath path).toList = components path.toList := by
  have hparts := components_intercalate path.toList
  unfold CommandLine.shownPath
  split
  · rw [String.toList_append, toList_segments]
    exact hparts
  · next hsegments _ =>
    have hnone : components path.toList = [] := by
      simpa [CommandLine.segments, components] using hsegments
    rw [hnone]
    rfl
  · rw [toList_segments, hparts]

theorem mem_of_mem_shownPath {path : String} {c : Char}
    (h : c ∈ (CommandLine.shownPath path).toList) : c = '/' ∨ c = '.' ∨ c ∈ path.toList := by
  have hmem : c ∈ ['/'].intercalate (components path.toList) → c = '/' ∨ c ∈ path.toList := by
    intro hc
    rcases mem_intercalate hc with hc | ⟨p, hp, hc⟩
    · exact .inl hc
    · exact .inr (mem_of_mem_pieces (List.mem_filter.1 hp).1 hc)
  unfold CommandLine.shownPath at h
  split at h
  · rw [String.toList_append, toList_segments, List.mem_append] at h
    rcases h with hc | hc
    · exact .inl (List.mem_singleton.1 hc)
    · exact (hmem hc).imp_right .inr
  · exact .inr (.inl (List.mem_singleton.1 h))
  · rw [toList_segments] at h
    exact (hmem h).imp_right .inr

theorem endsLikeComponent_shownPath {extensions : List String} {path : String} :
    EndsLikeComponent extensions (CommandLine.shownPath path) ↔ EndsLikeComponent extensions path := by
  rw [EndsLikeComponent, suffix_eq_of_components (components_shownPath path), EndsLikeComponent]

theorem isFlagged_shownPath_iff {extensions : List String} {flag path : String}
    (hpath : '?' ∉ path.toList) (hends : EndsLikeComponent extensions path) :
    isFlagged extensions flag (CommandLine.defaultResource (CommandLine.shownPath path) flag) = true ↔
      Verbatim flag.toList := by
  refine isFlagged_default_iff (fun hmark => ?_) (endsLikeComponent_shownPath.2 hends)
  rcases mem_of_mem_shownPath hmark with hc | hc | hc
  · cases hc
  · cases hc
  · exact hpath hc

end TierSplit.Resource

namespace TierSplit.Component

theorem load_passes_iff (options : Options) (selection : Selection) (document resource : String)
    (trees : Trees) :
    (load options selection document resource trees).outcome = .ok .passthrough ↔
      ¬Resource.isFlagged selection.extensions selection.flag resource = true := by
  unfold load
  by_cases hflag : Resource.isFlagged selection.extensions selection.flag resource = true
  · rw [if_pos hflag]
    refine iff_of_false ?_ (not_not_intro hflag)
    cases extract document resource trees.document with
    | error e => nofun
    | ok script =>
      dsimp only
      cases (Compiler.compile options resource script.text trees.script).outcome <;> nofun
  · rw [if_neg hflag]
    exact iff_of_true rfl hflag

end TierSplit.Component

namespace TierSplit.CommandLine

open Resource

theorem report_code (r : Report) : (report r).code = 1 := by
  unfold report
  dsimp only
  split <;> rfl

theorem fail_code (e : Failure) : (fail e).code = 1 := by
  cases e with
  | diagnostic d => exact report_code d.report
  | _ => rfl

/-- What is printed for a component that passes through. -/
def passed : Exit := .shown 0 (.panels [] [.note "passthrough"])

theorem loadComponent_passes_iff (world : World) (settings : Settings) (file text : String) :
    (loadComponent world settings file text none).exit = passed ↔
      ¬isFlagged settings.extensions settings.flag
        (defaultResource (shownPath file) settings.flag) = true := by
  have hload := Component.load_passes_iff settings.options settings.selection
    (Text.unifyLineEnds text) (defaultResource (shownPath file) settings.flag)
    ⟨world.documentTree, world.tree⟩
  refine Iff.trans ?_ hload
  rw [loadComponent]
  dsimp only [resourceOf]
  cases (Component.load settings.options settings.selection (Text.unifyLineEnds text)
    (defaultResource (shownPath file) settings.flag) ⟨world.documentTree, world.tree⟩).outcome with
  | error e =>
    refine iff_of_false (fun hexit => ?_) nofun
    have hcode := fail_code e
    rw [show fail e = passed from hexit] at hcode
    cases hcode
  | ok result =>
    cases result with
    | passthrough => exact iff_of_true rfl rfl
    | compiled script success => exact iff_of_false nofun nofun

/-- Once the settings are loaded and the log is set up, the command depends on the resource alone. -/
theorem executeCommand_passes_iff {world : World} {settings : Settings} {file text : String}
    (verbose : Bool) (hread : world.files.read? file = some text)
    (hsettings : settingsOf world = .ok settings) :
    (executeCommand world (.component file none verbose)).exit = passed ↔
      (∃ level, Log.threshold (logLevel (.component file none verbose) settings) = .ok level) ∧
        ¬isFlagged settings.extensions settings.flag
          (defaultResource (shownPath file) settings.flag) = true := by
  rw [executeCommand]
  simp only [Command.path?, hread, hsettings]
  cases Log.threshold (logLevel (.component file none verbose) settings) with
  | error fault =>
    refine iff_of_false nofun ?_
    rintro ⟨⟨level, hlevel⟩, -⟩
    cases hlevel
  | ok level => exact (loadComponent_passes_iff world settings file text).trans (by simp)

/-- Any text is accepted as a flag, yet reading the default resource finds it exactly if it is verbatim,
whatever the path and the extension that it ends with. So a command that names no resource compiles the
component or reports why it cannot; only with a flag that is not verbatim does it pass the component
through. -/
theorem default_resource_recognised (settings : Settings) :
    Settings.load [("component_flag", .str settings.flag)] [] none =
      .ok { Settings.default with flag := settings.flag } ∧
    (∀ path : String, '?' ∉ path.toList → EndsLikeComponent settings.extensions path →
      (isFlagged settings.extensions settings.flag (defaultResource path settings.flag) = true ↔
        Verbatim settings.flag.toList)) ∧
    ∀ world file text verbose, world.files.read? file = some text →
      settingsOf world = .ok settings → '?' ∉ file.toList →
      EndsLikeComponent settings.extensions file →
        ((executeCommand world (.component file none verbose)).exit =
            .shown 0 (.panels [] [.note "passthrough"]) ↔
          (∃ level,
            Log.threshold (logLevel (.component file none verbose) settings) = .ok level) ∧
            ¬Verbatim settings.flag.toList) := by
  refine ⟨rfl, fun path => isFlagged_default_iff, ?_⟩
  intro world file text verbose hread hsettings hpath hends
  rw [← isFlagged_shownPath_iff hpath hends]
  exact executeCommand_passes_iff verbose hread hsettings

/-- A world with one component and a flag from the environment. -/
def flagWorld (flag : String) : World :=
  ⟨⟨[("src/App.VUE", "<script></script>")]⟩, [("CODEGRAPH_TIERS_COMPONENT_FLAG", flag)], none, none⟩

def awkwardFlag : String := "t%s;é?"

/-- Percent signs alone, a second question mark and letters beyond ASCII do no harm. -/
theorem awkwardFlag_recognised :
    ∃ settings, settingsOf (flagWorld awkwardFlag) = .ok settings ∧
      (flagWorld awkwardFlag).files.read? "./src//App.VUE" = some "<script></script>" ∧
      '?' ∉ "./src//App.VUE".toList ∧ EndsLikeComponent settings.extensions "./src//App.VUE" ∧
      isFlagged settings.extensions settings.flag
        (defaultResource "./src//App.VUE" settings.flag) = true ∧
      (executeCommand (flagWorld awkwardFlag) (.component "./src//App.VUE" none true)).exit ≠
        .shown 0 (.panels [] [.note "passthrough"]) := by
  obtain ⟨settings, hsettings, rfl⟩ : ∃ settings, settingsOf (flagWorld awkwardFlag) = .ok settings ∧
      settings = { Settings.default with flag := awkwardFlag } :=
    exists_eq_ok (by decide +kernel)
  have hread : (flagWorld awkwardFlag).files.read? "./src//App.VUE" = some "<script></script>" := by
    decide +kernel
  have hpath : '?' ∉ "./src//App.VUE".toList := by decide +kernel
  have hends : EndsLikeComponent [".vue"] "./src//App.VUE" := by decide +kernel
  have hflag : Verbatim awkwardFlag.toList := by decide +kernel
  obtain ⟨-, hresource, hcommand⟩ :=
    default_resource_recognised { Settings.default with flag := awkwardFlag }
  refine ⟨_, hsettings, hread, hpath, hends, (hresource _ hpath hends).2 hflag, fun hexit => ?_⟩
  exact ((hcommand _ _ _ _ hread hsettings hpath hends).1 hexit).2 hflag

/-- A plus sign is read as a space, so the flag is not found and the component passes through. -/
theorem plusFlag_passed_over :
    ∃ settings, settingsOf (flagWorld "a+b") = .ok settings ∧ '?' ∉ "src/App.VUE".toList ∧
      EndsLikeComponent settings.extensions "src/App.VUE" ∧
      isFlagged settings.extensions settings.flag
        (defaultResource "src/App.VUE" settings.flag) = false ∧
      (execute (flagWorld "a+b") ["component", "src/App.VUE"]).exit =
        .shown 0 (.panels [] [.note "passthrough"]) := by
  obtain ⟨settings, hsettings, rfl⟩ : ∃ settings, settingsOf (flagWorld "a+b") = .ok settings ∧
      settings = { Settings.default with flag := "a+b" } :=
    exists_eq_ok (by decide +kernel)
  have hread : (flagWorld "a+b").files.read? "src/App.VUE" = some "<script></script>" := by
    decide +kernel
  have hresource : isFlagged [".vue"] "a+b" (defaultResource "src/App.VUE" "a+b") = false := by
    decide +kernel
  refine ⟨_, hsettings, by decide +kernel, by decide +kernel, hresource, ?_⟩
  have hparse : parse? ["component", "src/App.VUE"] = some (.component "src/App.VUE" none false) := by
    decide +kernel
  rw [execute, hparse]
  apply (executeCommand_passes_iff false hread hsettings).2
  exact ⟨⟨30, by decide +kernel⟩, by decide +kernel⟩

end TierSplit.CommandLine

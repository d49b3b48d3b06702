import BeanForge.Proofs.CommandLine.Precedence
import BeanForge.Proofs.FileTree.Faults

/-!
# How a command line ends

Whatever a settings file, the environment and the options of the program hold, the command is
carried out with settings and logging that are in order, or the program ends with a word on what is
wrong. This is so unless the settings file is no text; nobody on the way expects one of those.
-/

namespace BeanForge

namespace Settings

/-- A path that can be asked for. If there is a file, it is a text. -/
structure Textual (tree : FileTree) (p : Path) : Prop where
  asked : p.fault? = none
  decodes : ∀ bytes, tree.read p = .ok bytes → ∃ cs, Text.Utf8.decode bytes = .ok cs

/-- A settings text is laid over settings or refused for one of its words. -/
theorem overlayProperties_ends {base : Settings} (h : base.ListsUnknown) (text : String) :
    (∃ t, base.overlayProperties text = .ok t) ∨
      ∃ key raw, base.overlayProperties text = .error (.failure (badFlag key raw)) := by
  obtain haccepted | ⟨stop, hfirst⟩ :=
    accepted_or_firstRefused (.text ",") (Properties.parse text)
  · obtain ⟨t, ht, -⟩ := exists_overlay h haccepted
    exact .inl ⟨t, ht⟩
  · have hoverlay := overlay_of_firstRefused h hfirst
    obtain ⟨front, entry, back, -, -, hrefused⟩ := hfirst
    cases hrefused with
    | flag hkey hraw => exact .inr ⟨_, _, hoverlay⟩
    | paths raw hfault => exact absurd hfault nofun

theorem overlayFile_of_textual {base : Settings} (h : base.ListsUnknown) {tree : FileTree}
    {p : Path} (htextual : Textual tree p) :
    (∃ t, base.overlayFile tree p = .ok t) ∨
      ∃ message key, base.overlayFile tree p = .error (.failure (.configuration message key)) := by
  simp only [overlayFile, htextual.asked]
  cases hread : tree.read p with
  | error e => exact .inr ⟨_, _, rfl⟩
  | ok bytes =>
    obtain ⟨cs, hdecode⟩ := htextual.decodes bytes hread
    simp only [hdecode]
    obtain hok | ⟨key, raw, hrefused⟩ := overlayProperties_ends h (String.ofList cs)
    · exact .inl hok
    · exact .inr ⟨_, _, hrefused⟩

theorem overlayFile_of_not_textual {tree : FileTree} {p : Path} (h : ¬Textual tree p)
    (base : Settings) : ∃ f, base.overlayFile tree p = .error (.fault f) := by
  cases hpath : p.fault? with
  | some f => exact ⟨f, by simp only [overlayFile, hpath]⟩
  | none =>
    have hgarbled : ∃ bytes u, tree.read p = .ok bytes ∧ Text.Utf8.decode bytes = .error u := by
      by_contra hnone
      refine h ⟨hpath, fun bytes hread => ?_⟩
      cases hdecode : Text.Utf8.decode bytes with
      | ok cs => exact ⟨cs, rfl⟩
      | error u => exact absurd ⟨bytes, u, hread, hdecode⟩ hnone
    obtain ⟨bytes, u, hread, hdecode⟩ := hgarbled
    exact ⟨.undecodable u, by simp only [overlayFile, hpath, hread, hdecode]⟩

/-- Settings are taken from a file or refused, and so with a word on what is wrong, exactly if the
file is a text. -/
theorem overlayFile_ends_iff {base : Settings} (h : base.ListsUnknown) {tree : FileTree}
    {p : Path} :
    ((∃ t, base.overlayFile tree p = .ok t) ∨ ∃ message key,
      base.overlayFile tree p = .error (.failure (.configuration message key))) ↔
        Textual tree p := by
  refine ⟨fun hends => ?_, overlayFile_of_textual h⟩
  by_contra hgarbled
  obtain ⟨f, hf⟩ := overlayFile_of_not_textual hgarbled base
  obtain ⟨t, ht⟩ | ⟨message, key, hrefused⟩ := hends
  · cases hf.symm.trans ht
  · cases hf.symm.trans hrefused

end Settings

namespace CommandLine

open Settings

/-! Invocations -/

/-- The ways in which a command line ends well: the command is carried out with settings in their
own forms and with the logging that they ask for, or there is a word on what is wrong. -/
inductive EndsCleanly [Codecs] (s : Surroundings) (words : List String) : Prop where
  | proceeds {i : Invocation} {settings : Settings} {config : Log.Config}
      (hread : Invocation.read s.tree words = .ok i) (hsettings : i.settings s = .ok settings)
      (hown : settings.given = [])
      (hlogging : Log.Config.ofNames settings.logLevel settings.logFormat true true = .ok config)
      (hrun : run s words = i.perform s settings config)
  | declines {status : Nat} {message : String} (hstatus : status ≠ 0)
      (hrun : run s words =
        { status, messages := "Error: " ++ message ++ "\n", tree := s.tree })

section Invocations

variable {s : Surroundings} {words : List String} {i : Invocation}

theorem settings_of_textual (h : ∀ p, i.config = some p → Textual s.tree p) :
    (∃ f, i.settings s = .error (.failure f)) ∨
      ∃ settings, i.settings s = .ok settings ∧ settings.given = [] := by
  have hconsults : (∃ text, i.Consults s text) ∨ ∃ f, i.settings s = .error (.failure f) := by
    cases hconfig : i.config with
    | none => exact .inl ⟨_, .nothing hconfig⟩
    | some p =>
      obtain ⟨hasked, hdecodes⟩ := h p hconfig
      cases hread : s.tree.read p with
      | ok bytes =>
        obtain ⟨cs, hdecode⟩ := hdecodes bytes hread
        exact .inl ⟨_, .file hconfig hasked hread hdecode⟩
      | error e =>
        refine .inr ⟨unreadableFile e p, ?_⟩
        rw [Invocation.settings, hconfig]
        simp only [overlayFile, hasked, hread]
        rfl
  obtain ⟨text, hconsults⟩ | hrefused := hconsults
  · obtain ⟨key, raw, -, hrefused⟩ | ⟨-, key, raw, -, hrefused⟩ |
      ⟨-, -, settings, hsettings, hgiven, -⟩ := settings_cases hconsults
    · exact .inl ⟨_, hrefused⟩
    · exact .inl ⟨_, hrefused⟩
    · exact .inr ⟨settings, hsettings, hgiven⟩
  · exact .inl hrefused

theorem settings_of_not_textual {p : Path} (hconfig : i.config = some p)
    (h : ¬Textual s.tree p) : ∃ f, i.settings s = .error (.fault f) := by
  obtain ⟨f, hf⟩ := overlayFile_of_not_textual h {}
  refine ⟨f, ?_⟩
  rw [Invocation.settings, hconfig]
  simp only [hf]
  rfl

variable [Codecs]

/-- A command line that is refused ends with a word on what is wrong. -/
theorem endsCleanly_of_misuse {e : UsageError}
    (h : Invocation.read s.tree words = .error (.misuse e)) : EndsCleanly s words :=
  .declines (Nat.succ_ne_zero 1) (by rw [run, h]; rfl)

theorem endsCleanly_of_textual (hread : Invocation.read s.tree words = .ok i)
    (h : ∀ p, i.config = some p → Textual s.tree p) : EndsCleanly s words := by
  obtain ⟨f, hrefused⟩ | ⟨settings, hsettings, hown⟩ := settings_of_textual h
  · exact .declines Nat.one_ne_zero (by rw [run, hread]; simp only [hrefused]; rfl)
  · cases hlogging : Log.Config.ofNames settings.logLevel settings.logFormat true true with
    | ok config =>
      exact .proceeds hread hsettings hown hlogging
        (by rw [run, hread]; simp only [hsettings, hlogging])
    | error r =>
      exact .declines Nat.one_ne_zero (by rw [run, hread]; simp only [hsettings, hlogging]; rfl)

/-- The program does not end well if its report tells of a fault before there are settings. -/
theorem not_endsCleanly_of_crash {f : Fault} (hrun : run s words = crash s f)
    (hnone : ∀ i, Invocation.read s.tree words = .ok i →
      ∀ settings, i.settings s ≠ .ok settings) : ¬EndsCleanly s words := by
  rintro (⟨hread, hsettings, -, -, -⟩ | ⟨-, hdeclined⟩)
  · exact hnone _ hread _ hsettings
  · cases congrArg Report.fault? (hrun.symm.trans hdeclined)

theorem not_endsCleanly_of_fault {f : Fault}
    (hread : Invocation.read s.tree words = .error (.fault f)) : ¬EndsCleanly s words := by
  have hrun : run s words = crash s f := by
    rw [run, hread]
    rfl
  exact not_endsCleanly_of_crash hrun fun i hi => by cases hread.symm.trans hi

theorem endsCleanly_iff_textual (hread : Invocation.read s.tree words = .ok i) :
    EndsCleanly s words ↔ ∀ p, i.config = some p → Textual s.tree p := by
  refine ⟨fun hends p hconfig => ?_, endsCleanly_of_textual hread⟩
  by_contra hgarbled
  obtain ⟨f, hf⟩ := settings_of_not_textual hconfig hgarbled
  have hrun : run s words = crash s f := by
    rw [run, hread]
    simp only [hf]
  refine not_endsCleanly_of_crash hrun (fun other hother settings hsettings => ?_) hends
  cases hread.symm.trans hother
  cases hf.symm.trans hsettings

end Invocations

/-! Options of the program -/

def optionWords (config level format : Option String) : List String :=
  (config.elim [] fun raw => ["--config", raw]) ++
    (level.elim [] fun raw => ["--log-level", raw]) ++
    format.elim [] fun raw => ["--log-format", raw]

section Options

variable (tree : FileTree) (config level format : Option String) (command : Command)
  (rest : List String)

def givenOptions : Given ProgramOption :=
  config.toList.map (.config, ·) ++ level.toList.map (.logLevel, ·) ++
    format.toList.map (.logFormat, ·)

theorem scan_optionWords :
    Switch.scan ProgramOption.switches false
        (optionWords config level format ++ command.name :: rest) =
      .ok ⟨givenOptions config level format, command.name :: rest⟩ := by
  cases config <;> cases level <;> cases format <;> cases command <;> rfl

theorem value?_givenOptions :
    (givenOptions config level format).value? .config = config ∧
      (givenOptions config level format).value? .logLevel = level ∧
      (givenOptions config level format).value? .logFormat = format := by
  cases config <;> cases level <;> cases format <;> exact ⟨rfl, rfl, rfl⟩

/-- None of these options ends the program before others are looked at. -/
theorem exit?_givenOptions :
    (givenOptions config level format).keys.findSome? ProgramOption.exit? = none := by
  cases config <;> cases level <;> cases format <;> rfl

/-- The settings file is looked at first, and the name of a layout after that. -/
theorem forM_check_givenOptions :
    (givenOptions config level format).keys.forM
        (ProgramOption.check tree (givenOptions config level format)) = (do
      checkPaths tree .file true "'--config'" config.toList
      format.toList.forM (checkValue "'--log-format'" formatFault?)) := by
  cases format with
  | none => cases config <;> cases level <;> rfl
  | some word =>
    rw [← bind_pure_unit (x := (some word).toList.forM (checkValue "'--log-format'" formatFault?))]
    cases config <;> cases level <;> rfl

theorem read_optionWords :
    Invocation.read tree (optionWords config level format ++ command.name :: rest) = (do
      checkPaths tree .file true "'--config'" config.toList
      format.toList.forM (checkValue "'--log-format'" formatFault?)
      .ok ⟨config.map Path.ofString, level, format, command, rest⟩) := by
  have hwords : (optionWords config level format ++ command.name :: rest).isEmpty = false := by
    cases config <;> cases level <;> cases format <;> rfl
  have hnamed : Command.named? command.name = some command := by
    cases command <;> rfl
  obtain ⟨hconfig, hlevel, hformat⟩ := value?_givenOptions config level format
  rw [Invocation.read, hwords, if_neg Bool.false_ne_true, ProgramOption.scan, scan_optionWords]
  simp only [Except.mapError, bind, Except.bind, exit?_givenOptions, forM_check_givenOptions]
  generalize checkPaths tree .file true "'--config'" config.toList = paths
  generalize format.toList.forM (checkValue "'--log-format'" formatFault?) = layout
  cases paths with
  | error e => rfl
  | ok _ =>
    cases layout with
    | error e => rfl
    | ok _ =>
      simp only [pure, Except.pure, hnamed, hconfig, hlevel, hformat]

end Options

section Checks

variable {tree : FileTree}

theorem read_of_named? {raw : String} {bytes : Text.Bytes}
    (h : tree.named? raw = some (.file bytes)) : tree.read (Path.ofString raw) = .ok bytes := by
  have hwalk : tree.walk (Path.ofString raw) = .ok (some (.file bytes)) := by
    rw [FileTree.named?] at h
    split at h
    · cases h
    · split at h
      · rename_i hwalk
        split at h <;> cases h
        exact hwalk
      · rename_i hwalk
        rw [hwalk, h]
      · cases h
  rw [FileTree.read, hwalk]

theorem pathFault?_eq_none_iff {raw : String} :
    pathFault? tree .file true raw = none ↔ ∃ bytes, tree.named? raw = some (.file bytes) := by
  unfold pathFault?
  rcases tree.named? raw with _ | (bytes | _) <;> simp

theorem forM_some (check : String → Except Exit Unit) (word : String) :
    (some word).toList.forM check = check word :=
  bind_pure_unit

/-- A path that is given for the settings file cannot be asked for, is of no use, or leads to a
file. -/
theorem checkPaths_cases (config : Option String) :
    (∃ raw f, config = some raw ∧ Fault.ofPath? raw = some f ∧
      checkPaths tree .file true "'--config'" config.toList = .error (.fault f)) ∨
    (∃ raw e, config = some raw ∧ Fault.ofPath? raw = none ∧
      (∀ bytes, tree.named? raw ≠ some (.file bytes)) ∧
      checkPaths tree .file true "'--config'" config.toList = .error (.misuse e)) ∨
    checkPaths tree .file true "'--config'" config.toList = .ok () ∧
      ∀ raw, config = some raw → Fault.ofPath? raw = none ∧
        ∃ bytes, tree.named? raw = some (.file bytes) := by
  cases config with
  | none => exact .inr (.inr ⟨rfl, nofun⟩)
  | some raw =>
    cases hpath : Fault.ofPath? raw with
    | some f => exact .inl ⟨raw, f, rfl, hpath, by simp only [checkPaths, forM_some, hpath]⟩
    | none =>
      have hcheck : checkPaths tree .file true "'--config'" (some raw).toList =
          checkValue "'--config'" (pathFault? tree .file true) raw := by
        simp only [checkPaths, forM_some, hpath]
      rw [checkValue] at hcheck
      cases hfault : pathFault? tree .file true raw with
      | some reason =>
        have hnone : ∀ bytes, tree.named? raw ≠ some (.file bytes) := fun bytes hnamed => by
          rw [pathFault?_eq_none_iff.2 ⟨bytes, hnamed⟩] at hfault
          cases hfault
        exact .inr (.inl ⟨raw, _, rfl, hpath, hnone, by rw [hcheck, hfault]⟩)
      | none =>
        refine .inr (.inr ⟨by rw [hcheck, hfault], fun other h => ?_⟩)
        cases h
        exact ⟨hpath, pathFault?_eq_none_iff.1 hfault⟩

theorem checkFormat_cases (format : Option String) :
    (∃ word e, format = some word ∧ word ∉ logFormats ∧
      format.toList.forM (checkValue "'--log-format'" formatFault?) = .error (.misuse e)) ∨
    format.toList.forM (checkValue "'--log-format'" formatFault?) = .ok () ∧
      ∀ word, format = some word → word ∈ logFormats := by
  cases format with
  | none => exact .inr ⟨rfl, nofun⟩
  | some word =>
    have hcheck := forM_some (checkValue "'--log-format'" formatFault?) word
    by_cases hword : word ∈ logFormats
    · have hfault : formatFault? word = none := if_pos (List.contains_iff_mem.2 hword)
      exact .inr ⟨by rw [hcheck, checkValue, hfault], fun other h => Option.some.inj h ▸ hword⟩
    · obtain ⟨reason, hfault⟩ : ∃ reason, formatFault? word = some reason :=
        ⟨_, if_neg (mt List.contains_iff_mem.1 hword)⟩
      exact .inl ⟨word, _, rfl, hword, by rw [hcheck, checkValue, hfault]⟩

end Checks

/-- A command line with options, whatever they are set to, ends well unless the settings file
cannot be asked for, or is there and is no text while the layout has a proper name. -/
theorem endsCleanly_optionWords_iff [Codecs] (s : Surroundings) (config level format : Option String)
    (command : Command) (rest : List String) :
    EndsCleanly s (optionWords config level format ++ command.name :: rest) ↔
      ∀ raw, config = some raw → Fault.ofPath? raw = none ∧
        ((∀ word, format = some word → word ∈ logFormats) →
          ∀ bytes, s.tree.named? raw = some (.file bytes) →
            ∃ cs, Text.Utf8.decode bytes = .ok cs) := by
  have hread := read_optionWords s.tree config level format command rest
  -- The path is looked at before the layout, and the file is read once both are accepted.
  obtain ⟨raw, f, rfl, hasked, hpath⟩ | ⟨raw, e, rfl, hasked, hnone, hpath⟩ | ⟨hpath, hthere⟩ :=
    @checkPaths_cases s.tree config
  · rw [hpath] at hread
    refine iff_of_false (not_endsCleanly_of_fault hread) fun h => ?_
    rw [(h raw rfl).1] at hasked
    cases hasked
  · rw [hpath] at hread
    refine iff_of_true (endsCleanly_of_misuse hread) fun other hraw => ?_
    cases hraw
    exact ⟨hasked, fun _ bytes hnamed => absurd hnamed (hnone bytes)⟩
  · rw [hpath] at hread
    obtain ⟨word, e, rfl, hword, hformat⟩ | ⟨hformat, hwords⟩ := checkFormat_cases format
    · rw [hformat] at hread
      exact iff_of_true (endsCleanly_of_misuse hread) fun raw hraw =>
        ⟨(hthere raw hraw).1, fun h => absurd (h word rfl) hword⟩
    · rw [hformat] at hread
      rw [endsCleanly_iff_textual hread]
      constructor
      · intro htextual raw hraw
        obtain ⟨_, hdecodes⟩ := htextual (Path.ofString raw) (by rw [hraw]; rfl)
        exact ⟨(hthere raw hraw).1, fun _ bytes hnamed => hdecodes bytes (read_of_named? hnamed)⟩
      · intro h p hp
        obtain ⟨raw, hraw, rfl⟩ := Option.map_eq_some_iff.1 hp
        obtain ⟨hasked, bytes, hnamed⟩ := hthere raw hraw
        refine ⟨Path.fault?_ofString hasked, fun other hother => ?_⟩
        cases (read_of_named? hnamed).symm.trans hother
        exact (h raw hraw).2 hwords bytes hnamed

/-- A command line that is understood ends well exactly if its settings file is a text, whatever
the file, the environment and the options hold. So does one with any options for settings and
logging, unless the path of the file cannot be asked for. To take settings from a file is refused
with a word on what is wrong, if at all, exactly if the file is a text. -/
theorem ends_cleanly_iff_of_text [Codecs] (s : Surroundings) :
    (∀ (words : List String) (i : Invocation), Invocation.read s.tree words = .ok i →
      (EndsCleanly s words ↔ ∀ p, i.config = some p → Textual s.tree p)) ∧
    (∀ (config level format : Option String) (command : Command) (rest : List String),
      EndsCleanly s (optionWords config level format ++ command.name :: rest) ↔
        ∀ raw, config = some raw → Fault.ofPath? raw = none ∧
          ((∀ word, format = some word → word ∈ logFormats) →
            ∀ bytes, s.tree.named? raw = some (.file bytes) →
              ∃ cs, Text.Utf8.decode bytes = .ok cs)) ∧
    ∀ base : Settings, base.ListsUnknown → ∀ p : Path,
      ((∃ t, base.overlayFile s.tree p = .ok t) ∨ ∃ message key,
        base.overlayFile s.tree p = .error (.failure (.configuration message key))) ↔
          Textual s.tree p :=
  ⟨fun _ _ hread => endsCleanly_iff_textual hread, endsCleanly_optionWords_iff s,
    fun _ h _ => overlayFile_ends_iff h⟩

def garbledSurroundings : Surroundings where
  tree := ⟨[(⟨.here, ["garbled"]⟩, .file [0xFF]),
    (⟨.here, ["wrong"]⟩, .file (Text.utf8Bytes wrongText.toList))]⟩
  environment := [("ENTITYGEN_LOG_FORMAT", "xml")]
  moment := ⟨2020, 1, 1, 0, 0, 0, 0⟩

theorem ends_cleanly_iff_of_text_and_garbled_file :
    EndsCleanly garbledSurroundings
      ["--config", "wrong", "--log-level", "loud", "inspect", "wrong"] ∧
    EndsCleanly garbledSurroundings
      ["--config", "garbled", "--log-format", "xml", "inspect", "wrong"] ∧
    ¬EndsCleanly garbledSurroundings ["--config=garbled", "inspect", "wrong"] ∧
    ({} : Settings).ListsUnknown ∧ ¬Textual garbledSurroundings.tree ⟨.here, ["garbled"]⟩ := by
  have hgarbled : ¬Textual garbledSurroundings.tree ⟨.here, ["garbled"]⟩ := fun h => by
    obtain ⟨cs, hdecode⟩ := h.decodes [0xFF] rfl
    cases hdecode
  have hlists : ({} : Settings).ListsUnknown := ⟨{}, rfl⟩
  obtain ⟨hread, hoptions, hfile⟩ := ends_cleanly_iff_of_text garbledSurroundings
  refine ⟨(hoptions (some "wrong") (some "loud") none .inspect ["wrong"]).2 ?_,
    (hoptions (some "garbled") none (some "xml") .inspect ["wrong"]).2 ?_,
    fun hends => hgarbled ((hread _ _ rfl).1 hends _ rfl), hlists, fun h => ?_⟩
  · rintro raw hraw
    cases hraw
    refine ⟨by decide, fun _ bytes hbytes => ?_⟩
    cases hbytes
    exact ⟨wrongText.toList, by decide +kernel⟩
  · rintro raw hraw
    cases hraw
    exact ⟨by decide, fun h => absurd (h "xml" rfl) (by decide)⟩
  · obtain ⟨t, ht⟩ | ⟨message, key, hrefused⟩ := (hfile {} hlists _).2 h
    · cases ht
    · cases hrefused

/-- A settings file that is no text ends the program with a fault, and so does taking settings
from it. -/
theorem not_endsCleanly_of_garbled_file :
    ¬EndsCleanly garbledSurroundings ["--config", "garbled", "inspect", "wrong"] ∧
      ({} : Settings).overlayFile garbledSurroundings.tree ⟨.here, ["garbled"]⟩ =
        .error (.fault (.undecodable ⟨.badStart, 0, 1, 0xFF⟩)) := by
  have hrun : run garbledSurroundings ["--config", "garbled", "inspect", "wrong"] =
      crash garbledSurroundings (.undecodable ⟨.badStart, 0, 1, 0xFF⟩) := rfl
  refine ⟨not_endsCleanly_of_crash hrun fun i hread settings hsettings => ?_, rfl⟩
  cases hread
  cases hsettings

end CommandLine

end BeanForge

import BeanForge.CommandLine.Run
import BeanForge.Proofs.Settings.Layers

/-!
# Where the settings of a run come from

A run begins with the usual settings and lays the settings file, the environment and the options of
the program over them, one after the other. So an option wins over a variable, a variable over the
last entry of the file, and that over the usual value. A wrong word in the file is told before the
environment is looked at.
-/

namespace BeanForge.CommandLine

open Settings

/-! Options -/

def Invocation.option? (i : Invocation) : Key → Option String
  | .logLevel => i.logLevel
  | .logFormat => i.logFormat
  | _ => none

/-- The text of the settings that a run begins with; without a settings file it is empty. -/
inductive Invocation.Consults (i : Invocation) (s : Surroundings) : String → Prop where
  | nothing (hconfig : i.config = none) : Consults i s ""
  | file {p : Path} {bytes : Text.Bytes} {cs : List Char} (hconfig : i.config = some p)
      (hasked : p.fault? = none) (hread : s.tree.read p = .ok bytes)
      (hdecode : Text.Utf8.decode bytes = .ok cs) : Consults i s (String.ofList cs)

/-- What a setting is, asked of the options, the environment and the settings text in turn. -/
def Invocation.prevailing? (i : Invocation) (environment : List (String × String)) (text : String)
    (key : Key) : Option Form :=
  match i.option? key with
  | some value => some (.value (.string value))
  | none =>
    match key.environmentValue? environment with
    | some raw => key.meaning? ':' raw
    | none =>
      match key.textValue? text with
      | some raw => key.meaning? ',' raw
      | none => some (({} : Settings).ownForm key)

theorem override_text {key : Key} (hflag : key.isFlag = false) (hpath : key ≠ .templatePath)
    (s : Settings) (text : String) :
    s.override (key.optionName, .string text) =
      .ok ((s.settle key.optionName).assignText key text) := by
  cases key with
  | templateCache | trimBlocks | stripLines => cases hflag
  | templatePath => exact absurd rfl hpath
  | _ => rfl

/-- An option that is not given changes nothing. -/
theorem exists_override {key : Key} (hflag : key.isFlag = false) (hpath : key ≠ .templatePath)
    (value? : Option String) (s : Settings) :
    ∃ t, (given? key.optionName value?).foldlM override s = .ok t ∧
      (s.given = [] → t.given = []) ∧
      ∀ other, t.form other = if other = key then
        (match value? with
          | some text => .value (.string text)
          | none => s.form key) else s.form other := by
  cases value? with
  | none =>
    refine ⟨s, rfl, id, fun other => ?_⟩
    split
    · rename_i hother
      rw [hother]
    · rfl
  | some text =>
    have htakes := takes_assignText hflag hpath s text
    refine ⟨_, ?_, htakes.given, htakes.form⟩
    rw [given?, List.foldlM_cons, override_text hflag hpath]
    rfl

theorem exists_overrideAll (i : Invocation) (s : Settings) :
    ∃ t, s.overrideAll (given? "log_level" i.logLevel ++ given? "log_format" i.logFormat) = .ok t ∧
      (s.given = [] → t.given = []) ∧
      ∀ key, t.form key = match i.option? key with
        | some text => .value (.string text)
        | none => s.form key := by
  obtain ⟨leveled, hleveled, hgiven, hlevel⟩ :=
    @exists_override .logLevel rfl (by decide) i.logLevel s
  obtain ⟨t, ht, hgiven', hformat⟩ :=
    @exists_override .logFormat rfl (by decide) i.logFormat leveled
  refine ⟨t, ?_, fun h => hgiven' (hgiven h), fun key => ?_⟩
  · have hself : (Keyed.keys (given? "log_level" i.logLevel ++
        given? "log_format" i.logFormat)).contains "self" = false := by
      cases i.logLevel <;> cases i.logFormat <;> rfl
    rw [overrideAll, hself, if_neg Bool.false_ne_true, List.foldlM_append]
    exact (congrArg (· >>= _) hleveled).trans ht
  · rw [hformat, hlevel, hlevel]
    cases key <;> rfl

/-! Settings of a run -/

theorem settings_eq {i : Invocation} {s : Surroundings} {text : String} (h : i.Consults s text) :
    i.settings s = (do
      let filed ← ({} : Settings).overlayProperties text
      let surrounded ← filed.overlayEnvironment s.environment
      surrounded.overrideAll
        (given? "log_level" i.logLevel ++ given? "log_format" i.logFormat)) := by
  cases h with
  | nothing hconfig =>
    rw [Invocation.settings, hconfig]
    rfl
  | file hconfig hasked hread hdecode =>
    rw [Invocation.settings, hconfig]
    simp only [overlayFile, hasked, hread, hdecode]

/-- The settings of a run are refused for a word in the file, or else for one in the environment, or
each setting is what prevails. -/
theorem settings_cases {i : Invocation} {s : Surroundings} {text : String}
    (h : i.Consults s text) :
    (∃ key raw, Misworded (Key.textValue? text) key raw ∧
      i.settings s = .error (.failure (badFlag key raw))) ∨
    ((∀ key raw, ¬Misworded (Key.textValue? text) key raw) ∧ ∃ key raw,
      Misworded (Key.environmentValue? s.environment) key raw ∧
        i.settings s = .error (.failure (badFlag key raw))) ∨
    ((∀ key raw, ¬Misworded (Key.textValue? text) key raw) ∧
      (∀ key raw, ¬Misworded (Key.environmentValue? s.environment) key raw) ∧
      ∃ settings, i.settings s = .ok settings ∧ settings.given = [] ∧
        ∀ key, i.prevailing? s.environment text key = some (settings.ownForm key)) := by
  rw [settings_eq h]
  obtain ⟨key, raw, hwrong, hfile⟩ | ⟨hworded, filed, hfile, hfiled⟩ :=
    @overlayProperties_cases text {} rfl
  · exact .inl ⟨key, raw, hwrong, by rw [hfile]; rfl⟩
  rw [hfile]
  have hfiledGiven : filed.given = [] := hfiled.given rfl
  obtain ⟨key, raw, hwrong, henvironment⟩ | ⟨hworded', surrounded, henvironment, hsurrounded⟩ :=
    overlayEnvironment_cases s.environment hfiledGiven
  · refine .inr (.inl ⟨hworded, key, raw, hwrong, ?_⟩)
    show (filed.overlayEnvironment s.environment >>= _) = _
    rw [henvironment]
    rfl
  obtain ⟨settings, hsettings, hgiven, hform⟩ := exists_overrideAll i surrounded
  have hnone : settings.given = [] := hgiven (hsurrounded.given hfiledGiven)
  refine .inr (.inr ⟨hworded, hworded', settings, ?_, hnone, fun key => ?_⟩)
  · show (filed.overlayEnvironment s.environment >>= _) = _
    rw [henvironment]
    exact hsettings
  · have hown : settings.ownForm key = settings.form key := by rw [form, hnone]; rfl
    rw [hown, hform, Invocation.prevailing?]
    cases i.option? key with
    | some value => rfl
    | none =>
      cases hset : key.environmentValue? s.environment with
      | some raw => exact hsurrounded.named key raw hset
      | none =>
        simp only [hsurrounded.others key hset]
        cases hlast : key.textValue? text with
        | some raw => exact hfiled.named key raw hlast
        | none => exact congrArg some (hfiled.others key hlast).symm

/-! Folders of templates -/

theorem exists_of_bind_eq_ok {ε α β : Type} {x : Except ε α} {f : α → Except ε β} {b : β}
    (h : x >>= f = .ok b) : ∃ a, x = .ok a ∧ f a = .ok b := by
  cases x with
  | error e => cases h
  | ok a => exact ⟨a, rfl, h⟩

/-- The folders of templates are the values of their option, in order. -/
theorem templateFolders_of_read {tree : FileTree} {words : List String} {r : GenerateRequest}
    (h : GenerateRequest.read tree words = .ok r) :
    ∃ scanned, Switch.scan GenerateOption.switches true words = .ok scanned ∧
      r.templateFolders = scanned.given.values .templateFolder := by
  unfold GenerateRequest.read at h
  obtain ⟨scanned, hscan, h⟩ := exists_of_bind_eq_ok h
  refine ⟨scanned, ?_, ?_⟩
  · cases hwords : Switch.scan GenerateOption.switches true words with
    | error e =>
      rw [hwords] at hscan
      cases hscan
    | ok other =>
      rw [hwords] at hscan
      cases hscan
      rfl
  · split at h
    · cases h
    · obtain ⟨_, _, h⟩ := exists_of_bind_eq_ok h
      obtain ⟨_, _, h⟩ := exists_of_bind_eq_ok h
      split at h <;> cases h
      rfl

/-- Each setting of a run has the value that prevails, unless a switch has a wrong word in the file
or in the environment; the file is told first. A command to generate looks for templates in its own
folders and then in those of the settings. -/
theorem settings_prevail [Codecs] {i : Invocation} {s : Surroundings} {text : String}
    (h : i.Consults s text) :
    ((∃ stop, i.settings s = .error stop) ↔
      (∃ key raw, Misworded (Key.textValue? text) key raw) ∨
        ∃ raw, s.environment.lookup "ENTITYGEN_TEMPLATE_CACHE" = some raw ∧ flag? raw = none) ∧
    (∀ stop, i.settings s = .error stop → ∃ key raw, stop = .failure (badFlag key raw) ∧
      (Misworded (Key.textValue? text) key raw ∨
        (∀ other word, ¬Misworded (Key.textValue? text) other word) ∧
          Misworded (Key.environmentValue? s.environment) key raw)) ∧
    (∀ settings, i.settings s = .ok settings → settings.given = [] ∧
      ∀ key, i.prevailing? s.environment text key = some (settings.ownForm key)) ∧
    (∀ words r, GenerateRequest.read s.tree words = .ok r →
      ∃ scanned, Switch.scan GenerateOption.switches true words = .ok scanned ∧
        r.templateFolders = scanned.given.values .templateFolder) ∧
    ∀ (r : GenerateRequest) (settings : Settings) (config : Log.Config),
      r.perform s settings config =
        ({ r with templateFolders := [] } : GenerateRequest).perform s
          { settings with templatePath := r.templateFolders ++ settings.templatePath } config := by
  have hfolders := fun words r => @templateFolders_of_read s.tree words r
  obtain ⟨key, raw, hwrong, hsettings⟩ | ⟨hworded, key, raw, hwrong, hsettings⟩ |
    ⟨hworded, hworded', settings, hsettings, hgiven, hprevails⟩ := settings_cases h
  · refine ⟨⟨fun _ => .inl ⟨key, raw, hwrong⟩, fun _ => ⟨_, hsettings⟩⟩, fun stop hstop => ?_,
      fun settings hok => ?_, hfolders, fun r settings config => rfl⟩
    · cases hsettings.symm.trans hstop
      exact ⟨key, raw, rfl, .inl hwrong⟩
    · cases hsettings.symm.trans hok
  · obtain ⟨_, hset, hraw⟩ := misworded_environmentValue?_iff.1 hwrong
    refine ⟨⟨fun _ => .inr ⟨raw, hset, hraw⟩, fun _ => ⟨_, hsettings⟩⟩, fun stop hstop => ?_,
      fun settings hok => ?_, hfolders, fun r settings config => rfl⟩
    · cases hsettings.symm.trans hstop
      exact ⟨key, raw, rfl, .inr ⟨hworded, hwrong⟩⟩
    · cases hsettings.symm.trans hok
  · refine ⟨⟨fun ⟨stop, hstop⟩ => ?_, ?_⟩, fun stop hstop => ?_, fun other hok => ?_, hfolders,
      fun r settings config => rfl⟩
    · cases hsettings.symm.trans hstop
    · rintro (⟨key, raw, hwrong⟩ | ⟨raw, hset, hraw⟩)
      · exact absurd hwrong (hworded key raw)
      · exact absurd (misworded_environmentValue?_iff.2 ⟨rfl, hset, hraw⟩) (hworded' _ raw)
    · cases hsettings.symm.trans hstop
    · cases hsettings.symm.trans hok
      exact ⟨hgiven, hprevails⟩

def usualText : String :=
  "log.level = low\nresource.loader.path = a,, b\nlog.level: high\noutput.extension txt"

def wrongText : String :=
  "template.trim_blocks = off\nresource.loader.cache = maybe"

def layeredSurroundings : Surroundings where
  tree := ⟨[(⟨.here, ["usual"]⟩, .file (Text.utf8Bytes usualText.toList)),
    (⟨.here, ["wrong"]⟩, .file (Text.utf8Bytes wrongText.toList))]⟩
  environment := [("ENTITYGEN_TEMPLATE_PATH", "c : :d"), ("ENTITYGEN_TEMPLATE_CACHE", " No ")]
  moment := ⟨2020, 1, 1, 0, 0, 0, 0⟩

theorem settings_prevail_of_layers :
    let usual : Invocation :=
      { config := some ⟨.here, ["usual"]⟩, logFormat := some "json", command := .inspect,
        words := [] }
    let wrong : Invocation := { usual with config := some ⟨.here, ["wrong"]⟩ }
    usual.Consults layeredSurroundings usualText ∧ wrong.Consults layeredSurroundings wrongText ∧
    (∃ settings, usual.settings layeredSurroundings = .ok settings ∧
      settings.ownForm .templatePath = .folders ["c", "d"] ∧
      settings.ownForm .templateCache = .value (.bool false) ∧
      settings.ownForm .logLevel = .value (.string "high") ∧
      settings.ownForm .logFormat = .value (.string "json") ∧
      settings.ownForm .outputExtension = .value (.string ".txt") ∧
      settings.ownForm .marker = .value (.string "GenerateEntity")) ∧
    ∃ stop, wrong.settings layeredSurroundings = .error stop := by
  intro usual wrong
  have husual : usual.Consults layeredSurroundings usualText := by
    have hconsults := @Invocation.Consults.file usual layeredSurroundings ⟨.here, ["usual"]⟩ _
      usualText.toList rfl rfl rfl (by decide +kernel)
    rwa [String.ofList_toList] at hconsults
  have hwrong : wrong.Consults layeredSurroundings wrongText := by
    have hconsults := @Invocation.Consults.file wrong layeredSurroundings ⟨.here, ["wrong"]⟩ _
      wrongText.toList rfl rfl rfl (by decide +kernel)
    rwa [String.ofList_toList] at hconsults
  obtain ⟨_, _, hprevails, _⟩ := settings_prevail husual
  have hok : (usual.settings layeredSurroundings).isOk = true := by decide +kernel
  obtain ⟨settings, hsettings⟩ : ∃ settings, usual.settings layeredSurroundings = .ok settings := by
    cases h : usual.settings layeredSurroundings with
    | ok settings => exact ⟨settings, rfl⟩
    | error stop =>
      rw [h] at hok
      cases hok
  have hown (key : Key) {value : Form}
      (h : usual.prevailing? layeredSurroundings.environment usualText key = some value) :
      settings.ownForm key = value :=
    Option.some.inj (((hprevails settings hsettings).2 key).symm.trans h)
  obtain ⟨hrefused, _⟩ := settings_prevail hwrong
  have hmaybe : Misworded (Key.textValue? wrongText) .templateCache "maybe" :=
    ⟨rfl, by decide +kernel, by decide⟩
  exact ⟨husual, hwrong, ⟨settings, hsettings, hown _ rfl, hown _ rfl, hown _ rfl, hown _ rfl,
    hown _ rfl, hown _ rfl⟩, hrefused.2 (.inl ⟨_, _, hmaybe⟩)⟩

/-- An extension that is set to nothing begins with no dot. -/
theorem outputExtension_of_empty_value :
    ∃ settings, ({ command := .inspect, words := [] } : Invocation).settings
        { environment := [("ENTITYGEN_OUTPUT_EXTENSION", "")], moment := ⟨2020, 1, 1, 0, 0, 0, 0⟩ } =
          .ok settings ∧
      settings.ownForm .outputExtension = .value (.string "") ∧ ¬".".toList <+: "".toList :=
  ⟨_, rfl, rfl, by decide⟩

end BeanForge.CommandLine

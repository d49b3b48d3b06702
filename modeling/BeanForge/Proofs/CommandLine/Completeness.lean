import BeanForge.CommandLine.Run
import BeanForge.Proofs.Discovery.Findings
import BeanForge.Proofs.Pass.Holding

/-!
# Complete generation

Where a command to generate ends with status zero, all that it was asked for is there: each source
was read, each class stands in a file of its own as the encoder of its stream wrote it, and their
number is told.
-/

namespace BeanForge.CommandLine

open Source

/-! What a request asks for -/

namespace GenerateRequest

/-- The plan of a request; its own folders of templates come first. -/
def plan (r : GenerateRequest) (settings : Settings) : Plan :=
  ⟨{ settings with templatePath := r.templateFolders ++ settings.templatePath }, r.templateName⟩

def site (r : GenerateRequest) (s : Surroundings) (settings : Settings) : Site where
  tree := s.tree
  store := .folder r.out settings.outputExtension settings.outputEncoding []
  workingFolder := s.workingFolder

def found (r : GenerateRequest) (s : Surroundings) (settings : Settings) : Discovery.Finding :=
  Discovery.inPaths settings.marker s.tree r.sources

def pass [Codecs] (r : GenerateRequest) (s : Surroundings) (settings : Settings) :
    Pass Unit × Option Fault :=
  (r.plan settings).run (r.site s settings)
    (showing.followAll (r.found s settings).events).next (r.found s settings).interfaces s.mishaps

/-- No folder of templates is touched by what is made in the folder for the classes. -/
def KeepsApart (r : GenerateRequest) (s : Surroundings) (settings : Settings) : Prop :=
  ∀ folder ∈ (r.plan settings).settings.templatePath, Apart s.tree r.out (Path.ofString folder)

def declared (settings : Settings) (units : List (Path × CompilationUnit)) : List Interface :=
  units.flatMap fun e => Discovery.interfaces settings.marker (some e.1.text) e.2

def fielded (settings : Settings) (units : List (Path × CompilationUnit)) : List Interface :=
  (declared settings units).filter fun i => !i.entity.table.isEmpty

/-- All that a request asks for is there, given the selected files and their units. -/
structure Fulfilled [Codecs] (r : GenerateRequest) (s : Surroundings) (settings : Settings)
    (report : Report) (files : List (List Path)) (units : List (Path × CompilationUnit)) :
    Prop where
  selected : r.sources.mapM (Discovery.selected s.tree) = .ok files
  covered : units.map (·.1) = files.flatten
  readable : ∀ e ∈ units, Discovery.Reads s.tree e.1 e.2
  /-- The file of a class holds what was rendered when it was its turn; with folders kept apart
  that is what is rendered at the start. -/
  written : ∀ done i rest, declared settings units = done ++ i :: rest →
    i.entity.table.isEmpty = false →
    ∃ bytes, report.tree.read (i.classPath r.out settings.outputExtension) = .ok bytes ∧
      (r.plan settings).Renders settings.outputEncoding
        ((r.plan settings).siteOver (r.site s settings) done).tree i bytes ∧
      (r.KeepsApart s settings →
        (r.plan settings).Renders settings.outputEncoding s.tree i bytes)
  distinct : ((fielded settings units).map fun i =>
    (i.classPath r.out settings.outputExtension).settled).Nodup
  counted : report.output = countText (fielded settings units).length r.out

variable {r : GenerateRequest} {s : Surroundings} {settings : Settings} {config : Log.Config}

/-! Runs with status zero -/

theorem clean_of_errors {σ : Type} {c : Collector σ} {f : Discovery.Finding}
    (hfault : f.fault? = none) (h : (c.followAll f.events).errors.isEmpty = true) : f.Clean := by
  refine ⟨hfault, fun d hd => ?_⟩
  cases herror : d.isError with
  | false => rfl
  | true =>
    rw [List.isEmpty_iff, Collector.errors, Collector.diagnostics_followAll] at h
    have htold : d ∈ f.events.filterMap Event.told? := List.mem_filterMap.2 ⟨_, hd, rfl⟩
    have hmem := List.mem_filter.2 ⟨List.mem_append_right c.diagnostics htold, herror⟩
    rw [h] at hmem
    cases hmem

theorem ok_of_statusOf {ok : Bool} (h : statusOf ok = 0) : ok = true := by
  cases ok with
  | true => rfl
  | false => cases h

theorem proper_of_mem_declared {units : List (Path × CompilationUnit)}
    (hunits : ∀ e ∈ units, Discovery.Reads s.tree e.1 e.2) {i : Interface}
    (hi : i ∈ declared settings units) : i.Proper ∧ i.IsWhole := by
  obtain ⟨e, he, hmem⟩ := List.mem_flatMap.1 hi
  obtain ⟨_, _, _, _, _, hunit⟩ := hunits e he
  exact Discovery.proper_of_mem_interfaces hunit hmem

variable [Codecs]

/-- Status zero is given only to a clean search and a pass that goes well to its end. -/
theorem clean_of_status (h : (r.perform s settings config).status = 0) :
    (r.found s settings).Clean ∧ (r.pass s settings).2 = none ∧
      (r.pass s settings).1.isOk = true ∧
      (r.perform s settings config).output =
        countText (r.pass s settings).1.artifacts.length r.out ∧
      (r.perform s settings config).tree = (r.pass s settings).1.site.tree := by
  cases hfault : (r.found s settings).fault? with
  | some f =>
    have hone : (r.perform s settings config).status = 1 := by
      rw [found] at hfault
      simp only [perform, hfault]
    rw [hone] at h
    cases h
  | none =>
    cases hpass : r.pass s settings with
    | mk pass ended =>
      have hrun := hpass
      rw [found] at hfault
      rw [GenerateRequest.pass, found, plan, site] at hrun
      simp only [perform, hfault, hrun] at h ⊢
      cases ended with
      | some f => cases h
      | none =>
        obtain ⟨hok, herrors⟩ := (Bool.and_eq_true _ _).mp (ok_of_statusOf h)
        exact ⟨clean_of_errors hfault herrors, rfl, hok, rfl, rfl⟩

/-- A search and a pass that go well make a class for every declared interface with fields. -/
theorem delivers_of_status (hext : '/' ∉ settings.outputExtension.toList)
    (h : (r.perform s settings config).status = 0) :
    ∃ files units made, r.sources.mapM (Discovery.selected s.tree) = .ok files ∧
      units.map (·.1) = files.flatten ∧ (∀ e ∈ units, Discovery.Reads s.tree e.1 e.2) ∧
      (r.plan settings).Delivers r.out settings.outputExtension settings.outputEncoding
        (r.site s settings) (declared settings units) (r.pass s settings).1.site made ∧
      (r.pass s settings).1.artifacts.length = made.length := by
  obtain ⟨hclean, hend, hok, _, _⟩ := clean_of_status h
  obtain ⟨files, hfiles, units, hcovered, hunits, hinterfaces⟩ :=
    Discovery.reads_of_clean_inPaths hclean
  have hfound : (r.found s settings).interfaces = declared settings units := hinterfaces
  have hproper : ∀ i ∈ (r.found s settings).interfaces, i.Proper ∧ i.IsWhole := fun i hi =>
    proper_of_mem_declared hunits (hfound ▸ hi)
  have hstore : (r.site s settings).store =
      .folder r.out settings.outputExtension settings.outputEncoding [] := rfl
  obtain ⟨made, hdelivers, hcount⟩ := Plan.delivers_run hstore hproper hext hend hok
  exact ⟨files, units, made, hfiles, hcovered, hunits, hfound ▸ hdelivers, hcount⟩

/-- A request whose report has status zero is fulfilled. -/
theorem fulfilled_of_status (hext : '/' ∉ settings.outputExtension.toList)
    (h : (r.perform s settings config).status = 0) :
    ∃ files units, r.Fulfilled s settings (r.perform s settings config) files units := by
  obtain ⟨files, units, made, hfiles, hcovered, hunits, hdelivers, hcount⟩ :=
    delivers_of_status hext h
  obtain ⟨_, _, _, houtput, htree⟩ := clean_of_status h
  have hstart : (r.site s settings).Holds r.out settings.outputExtension settings.outputEncoding
      [] := ⟨rfl, by simp, by simp, by simp, by simp⟩
  have hholds : (r.pass s settings).1.site.Holds r.out settings.outputExtension
      settings.outputEncoding made := hdelivers.holds hext hstart
  have hpaths : made.map (·.1) =
      (fielded settings units).map (Interface.classPath r.out settings.outputExtension) :=
    hdelivers.paths
  refine ⟨files, units, hfiles, hcovered, hunits, ?_, ?_, ?_⟩
  · intro done i rest hdeclared hfields
    obtain ⟨bytes, hmem, hrenders⟩ := hdelivers.exists_renders hdeclared hfields
    have hread := hholds.read hmem
    rw [← htree] at hread
    refine ⟨bytes, hread, hrenders, fun hapart => ?_⟩
    obtain ⟨template, text, codec, htext, hcodec⟩ := hrenders
    have hspares := hdelivers.spares hdeclared (.inl rfl)
    rw [Plan.text_of_spares hapart hspares] at htext
    exact ⟨template, text, codec, htext, hcodec⟩
  · have hplaces := hholds.nodup_settled
    rwa [hpaths, List.map_map] at hplaces
  · have hlength : made.length = (fielded settings units).length := by
      simpa using congrArg List.length hpaths
    rw [houtput, hcount, hlength]

end GenerateRequest

/-- A command to generate that ends with status zero has made all that was asked for. -/
theorem run_fulfilled [Codecs] {s : Surroundings} {words : List String} {i : Invocation}
    {r : GenerateRequest} {settings : Settings} (hline : Invocation.read s.tree words = .ok i)
    (hcommand : i.command = .generate) (hrequest : GenerateRequest.read s.tree i.words = .ok r)
    (hsettings : i.settings s = .ok settings) (hext : '/' ∉ settings.outputExtension.toList)
    (hstatus : (run s words).status = 0) :
    ∃ files units, r.Fulfilled s settings (run s words) files units := by
  cases hconfig : Log.Config.ofNames settings.logLevel settings.logFormat true true with
  | error refused =>
    have hone : (run s words).status = 1 := by simp only [run, hline, hsettings, hconfig, refusal]
    rw [hone] at hstatus
    cases hstatus
  | ok config =>
    have hrun : run s words = r.perform s settings config := by
      simp only [run, hline, hsettings, hconfig, Invocation.perform, hcommand, hrequest]
    rw [hrun] at hstatus ⊢
    exact GenerateRequest.fulfilled_of_status hext hstatus

theorem run_fulfilled_of_one_interface :
    let template : Text.Bytes := Text.utf8Bytes "class \x7b\x7b impl_name \x7d\x7d".toList
    let source : Text.Bytes := Text.utf8Bytes
      "package a.b; @GenerateEntity interface B \x7b int getAge(); \x7d".toList
    let s : Surroundings :=
      { tree := ⟨[(⟨.here, ["t"]⟩, .folder), (⟨.here, ["t", "x"]⟩, .file template),
          (⟨.here, ["B.java"]⟩, .file source)]⟩
        moment := ⟨2020, 1, 1, 0, 0, 0, 0⟩ }
    let options := ["B.java", "--out", "out", "--template", "x", "--template-dir", "t"]
    let i : Invocation := { command := .generate, words := options }
    let r : GenerateRequest := ⟨[⟨.here, ["B.java"]⟩], ⟨.here, ["out"]⟩, some "x", ["t"]⟩
    let settings : Settings := {}
    (Invocation.read s.tree ("generate" :: options) = .ok i ∧
      GenerateRequest.read s.tree i.words = .ok r ∧ i.settings s = .ok settings ∧
      '/' ∉ settings.outputExtension.toList ∧ (run s ("generate" :: options)).status = 0) ∧
    r.KeepsApart s settings ∧
    ∃ files units, r.Fulfilled s settings (run s ("generate" :: options)) files units := by
  intro template source s options i r settings
  have hline : Invocation.read s.tree ("generate" :: options) = .ok i := by rfl
  have hrequest : GenerateRequest.read s.tree i.words = .ok r := by rfl
  have hsettings : i.settings s = .ok settings := by rfl
  have hext : '/' ∉ settings.outputExtension.toList := by decide
  have hstatus : (run s ("generate" :: options)).status = 0 := by decide +kernel
  have hmade : (s.tree.makeFolders r.out).2 = none := by decide +kernel
  have hapart : r.KeepsApart s settings := by
    intro folder hfolder
    obtain rfl := List.mem_singleton.1 hfolder
    exact apart_of_makeFolders (Prod.ext rfl hmade) (by decide) (by decide +kernel)
      (by decide +kernel) (by decide +kernel) (by decide +kernel)
  exact ⟨⟨hline, hrequest, hsettings, hext, hstatus⟩, hapart,
    run_fulfilled hline rfl hrequest hsettings hext hstatus⟩

/-- With a codec that has states, a file may lack the end of its text as a whole. -/
theorem run_unencoded_of_states :
    let template : Text.Bytes := Text.utf8Bytes "、".toList
    let source : Text.Bytes := Text.utf8Bytes
      "package a.b; @GenerateEntity interface B \x7b int getAge(); \x7d".toList
    let s : Surroundings :=
      { tree := ⟨[(⟨.here, ["t"]⟩, .folder), (⟨.here, ["t", "x"]⟩, .file template),
          (⟨.here, ["B.java"]⟩, .file source)]⟩
        environment := [("ENTITYGEN_OUTPUT_ENCODING", "iso2022_jp")]
        moment := ⟨2020, 1, 1, 0, 0, 0, 0⟩ }
    let options := ["B.java", "--out", "out", "--template", "x", "--template-dir", "t"]
    let plan : Plan :=
      ⟨{ templatePath := ["t"], outputEncoding := "iso2022_jp" }, some "x"⟩
    let i : Interface := ⟨"B", "a.b", [{ name := "getAge", returnType := "int" }], some "B.java"⟩
    let report := run s ("generate" :: options)
    let escape : Text.Bytes := [0x1B, 0x24, 0x42]
    report.status = 0 ∧ plan.text s.tree i.entity = .ok ("x", "、") ∧
      report.tree.read (i.classPath ⟨.here, ["out"]⟩ ".java") = .ok (escape ++ [0x21, 0x22]) ∧
      Text.Iso2022Jp.codec.encode "、".toList = .ok (escape ++ [0x21, 0x22, 0x1B, 0x28, 0x42]) := by
  intro template source s options plan i report escape
  refine ⟨?_, ?_, ?_, ?_⟩ <;> decide +kernel

end BeanForge.CommandLine

import BeanForge.Proofs.Artifact.Filling
import BeanForge.Proofs.Pass.Account
import BeanForge.Proofs.Template.Lookup

/-!
# Agreement of passes

Passes that keep their artifacts in memory agree with passes that write them below a root that
nothing is in. They tell the same but for the places of files, make the same, and in the end the
files below the root are those recorded in memory.
-/

namespace BeanForge

open Text FileTree

/-! What is seen of a pass -/

def Diagnostic.tellsLocation (d : Diagnostic) : Bool :=
  !d.isError && "creating source file: ".toList.isPrefixOf d.message.toList

def Diagnostic.unlocated (d : Diagnostic) : Diagnostic :=
  if d.tellsLocation then { d with message := "creating source file: " } else d

/-- What a pass leads to, apart from the places of files. -/
structure Seen where
  fault : Option Fault
  entities : List Entity
  types : List String
  diagnostics : List Diagnostic

def Pass.seen {σ : Type} (result : Pass σ × Option Fault) : Seen where
  fault := result.2
  entities := result.1.entities
  types := result.1.artifacts.map (·.qualifiedName)
  diagnostics := result.1.collector.diagnostics.map Diagnostic.unlocated

/-- Passes that end with different faults are seen to differ. -/
theorem Pass.map_seen_ne {σ : Type} {results others : List (Pass σ × Option Fault)}
    (h : results.map (·.2) ≠ others.map (·.2)) :
    results.map Pass.seen ≠ others.map Pass.seen := by
  intro hsame
  have hfaults := congrArg (List.map Seen.fault) hsame
  rw [List.map_map, List.map_map] at hfaults
  exact h hfaults

namespace Plan

variable [Codecs] {σ : Type}

/-- The passes over some batches, each at the site that the last one left. Each batch has its
mishaps, in order. -/
def runEach (plan : Plan) (site : Site) (collector : Collector σ) (batches : List (List Interface))
    (mishaps : List (List Mishap) := []) : List (Pass σ × Option Fault) :=
  match batches with
  | [] => []
  | batch :: rest =>
    let result := plan.run site collector batch (mishaps.headD [])
    result :: plan.runEach result.1.site result.1.collector.next rest mishaps.tail

def siteAfter (plan : Plan) (site : Site) (collector : Collector σ)
    (batches : List (List Interface)) (mishaps : List (List Mishap) := []) : Site :=
  match batches with
  | [] => site
  | batch :: rest =>
    let result := plan.run site collector batch (mishaps.headD [])
    plan.siteAfter result.1.site result.1.collector.next rest mishaps.tail

end Plan

namespace Outcome

/-- Outcomes that are the same but for the place of a file. -/
inductive Agrees : Outcome → Outcome → Prop where
  | same (o : Outcome) : Agrees o o
  | placed (e : Entity) (template location other : String) :
      Agrees (.emitted e template (.ok location) []) (.emitted e template (.ok other) [])

variable {o o' : Outcome}

theorem unlocated_locationNote (location : String) :
    (locationNote location).unlocated = locationNote "" := by
  have hprefix : (locationNote location).tellsLocation = true := by
    simp [Diagnostic.tellsLocation, locationNote, Diagnostic.isError]
  rw [Diagnostic.unlocated, if_pos hprefix]
  simp [locationNote]

theorem Agrees.entity?_eq (h : Agrees o o') : o'.entity? = o.entity? := by
  cases h <;> rfl

theorem Agrees.fault?_eq (h : Agrees o o') : o'.fault? = o.fault? := by
  cases h <;> rfl

theorem Agrees.types_eq (h : Agrees o o') :
    o'.artifact?.toList.map (·.qualifiedName) = o.artifact?.toList.map (·.qualifiedName) := by
  cases h <;> rfl

theorem Agrees.told_eq (h : Agrees o o') (i : Interface) :
    ((o'.events i).filterMap Event.told?).map Diagnostic.unlocated =
      ((o.events i).filterMap Event.told?).map Diagnostic.unlocated := by
  cases h with
  | same => rfl
  | placed e template location other =>
    simp [told_events, courseDiagnostics, failure?, stop?, unlocated_locationNote]

end Outcome

/-! What is asked for -/

/-- No place that decides about the templates of a folder is touched when a root is made or
filled. -/
def Apart (t : FileTree) (root folder : Path) : Prop :=
  ∀ q, folder.Concerns q →
    FileTree.entry? (t.makeFolders root).1 q = t.entry? q ∧ q.isBelow root.settled = false

/-- A folder that is neither inside another one nor around it, nor reached through it, has nothing
to do with what is in it. -/
theorem Path.Concerns.not_isBelow {root folder q : Path} (hq : folder.Concerns q)
    (hout : ¬folder.settled.names <+: root.settled.names)
    (hin : ¬root.settled.names <+: folder.settled.names)
    (hway : ∀ q ∈ Path.way ⟨folder.anchor, []⟩ folder.names, q.isBelow root.settled = false) :
    q.isBelow root.settled = false := by
  rcases hq with hq | rfl | hq
  · exact hway q hq
  · simp [Path.isBelow, hin]
  · cases hbelow : q.isBelow root.settled with
    | false => rfl
    | true =>
      simp only [Path.isBelow, Bool.and_eq_true, List.isPrefixOf_iff_prefix] at hq hbelow
      rcases List.prefix_or_prefix_of_prefix hq.1.2 hbelow.1.2 with hpre | hpre
      · exact absurd hpre hout
      · exact absurd hpre hin

/-- A root that is there is apart from any folder that has nothing to do with it. -/
theorem apart_of_isFolder {t : FileTree} {root folder : Path} (hthere : t.isFolder root = true)
    (hout : ¬folder.settled.names <+: root.settled.names)
    (hin : ¬root.settled.names <+: folder.settled.names)
    (hway : ∀ q ∈ Path.way ⟨folder.anchor, []⟩ folder.names, q.isBelow root.settled = false) :
    Apart t root folder := fun _ hq =>
  ⟨by rw [makeFolders_of_isFolder hthere], hq.not_isBelow hout hin hway⟩

/-- A tree that is as it was, or in which nothing but a root and what is below it has changed. -/
def Spares (start : FileTree) (root : Path) (t : FileTree) : Prop :=
  t = start ∨ t.isFolder root = true ∧
    ∀ q, q.isBelow root.settled = false → t.entry? q = FileTree.entry? (start.makeFolders root).1 q

/-- What is rendered with templates that are apart from the root stays the same. -/
theorem Plan.text_of_spares {plan : Plan} {start t : FileTree} {root : Path}
    (hapart : ∀ folder ∈ plan.settings.templatePath, Apart start root (Path.ofString folder))
    (h : Spares start root t) (e : Entity) : plan.text t e = plan.text start e := by
  rcases h with rfl | ⟨_, houtside⟩
  · rfl
  · refine plan.text_congr e fun folder hf q hq => ?_
    obtain ⟨hmade, hbelow⟩ := hapart folder hf q hq
    rw [houtside q hbelow, hmade]

structure Plan.Ground (plan : Plan) (t : FileTree) (root : Path) (extension : String) : Prop where
  vacant : Vacant t root
  extension : ProperExtension extension
  apart : ∀ folder ∈ plan.settings.templatePath, Apart t root (Path.ofString folder)

/-- An interface whose class can be written below the root. -/
structure Plan.Admits (plan : Plan) (t : FileTree) (root : Path) (extension : String)
    (i : Interface) : Prop where
  proper : i.Proper
  whole : i.IsWhole
  fits : (Site.filePath root i.entity.qualifiedName extension).Fits
  wholeText : i.entity.table.isEmpty = false → ∀ template text,
    plan.text t i.entity = .ok (template, text) → Whole text

/-- A tree that is as it was, or one in which a root holds the files of some artifacts. -/
def Carries (start : FileTree) (root : Path) (extension : String) (files : List Recorded)
    (tree : FileTree) : Prop :=
  tree = start ∧ files = [] ∨ Filled (start.makeFolders root).1 root extension files tree

/-- A site in memory and one below a root that hold the same artifacts. -/
def Twins (start : FileTree) (root : Path) (extension : String) (memory disk : Site) : Prop :=
  ∃ files tree workingFolder,
    memory = ⟨start, .memory extension files, workingFolder⟩ ∧
    disk = ⟨tree, .folder root extension "utf-8"
      (files.map fun file => Site.filePath root file.qualifiedName extension), workingFolder⟩ ∧
    (∀ file ∈ files, file.path = relativePath file.qualifiedName extension) ∧
    Carries start root extension files tree

section Step

variable {plan : Plan} {start tree : FileTree} {root : Path} {extension : String}
  {files : List Recorded} {memory disk : Site} {i : Interface}

theorem text_of_twins (hground : plan.Ground start root extension)
    (htree : Carries start root extension files tree) (e : Entity) :
    plan.text tree e = plan.text start e := by
  refine plan.text_of_spares hground.apart ?_ e
  exact htree.imp (·.1) fun hfilled => ⟨hfilled.there, hfilled.outside⟩

/-- The root can be made, or is there. -/
theorem makeFolders_of_twins (hvacant : Vacant start root)
    (htree : Carries start root extension files tree) :
    ∃ u, tree.makeFolders root = (u, none) ∧
      Filled (start.makeFolders root).1 root extension files u := by
  rcases htree with ⟨rfl, rfl⟩ | hfilled
  · exact ⟨_, Prod.ext rfl hvacant.makeable, hvacant.filled extension⟩
  · exact ⟨tree, makeFolders_of_isFolder hfilled.there, hfilled⟩

variable [Codecs]

theorem twins_emit (hground : plan.Ground start root extension)
    (h : Twins start root extension memory disk) {qualifiedName text : String}
    (hq : ProperType qualifiedName) (hwhole : Whole qualifiedName)
    (hfits : (Site.filePath root qualifiedName extension).Fits) (htext : Whole text) (e : Entity)
    (template : String) :
    Outcome.Agrees
        (.emitted e template (memory.emitText qualifiedName text).outcome
          (memory.emitText qualifiedName text).notes)
        (.emitted e template (disk.emitText qualifiedName text).outcome
          (disk.emitText qualifiedName text).notes) ∧
      Twins start root extension (memory.emitText qualifiedName text).site
        (disk.emitText qualifiedName text).site := by
  obtain ⟨files, tree, workingFolder, rfl, rfl, hpaths, htree⟩ := h
  obtain ⟨u, hu, hfilled⟩ := makeFolders_of_twins hground.vacant htree
  rw [Site.emit_memory]
  by_cases hknown : files.any (·.qualifiedName == qualifiedName)
  · obtain ⟨file, hfile, hname⟩ := List.any_eq_true.1 hknown
    have henlisted : Site.filePath root qualifiedName extension ∈
        files.map fun file => Site.filePath root file.qualifiedName extension :=
      List.mem_map.2 ⟨file, hfile, by rw [beq_iff_eq.1 hname]⟩
    rw [if_pos hknown, Site.emit_of_enlisted henlisted]
    exact ⟨.same _, files, tree, workingFolder, rfl, rfl, hpaths, htree⟩
  · have hnew : ∀ file ∈ files, file.qualifiedName ≠ qualifiedName := fun file hf he =>
      hknown (List.any_eq_true.2 ⟨file, hf, by simp [he]⟩)
    have hcreated : Site.filePath root qualifiedName extension ∉
        files.map fun file => Site.filePath root file.qualifiedName extension := by
      intro hmem
      obtain ⟨file, hfile, hpath⟩ := List.mem_map.1 hmem
      exact hnew file hfile
        (eq_of_filePath_eq (hfilled.proper file hfile).1 hq hground.extension hpath)
    obtain ⟨v, hv, hemit⟩ := emit_of_filled hground.vacant.allowed hground.extension hu hfilled hq
      hwhole hfits hnew hcreated htext workingFolder (relativePath qualifiedName extension)
    rw [if_neg hknown, hemit]
    refine ⟨.placed .., _, v, workingFolder, rfl, ?_, ?_, .inr hv⟩
    · simp
    · intro file hfile
      rcases List.mem_append.1 hfile with hfile | hfile
      · exact hpaths file hfile
      · rw [List.mem_singleton.1 hfile]

theorem twins_work (hground : plan.Ground start root extension)
    (h : Twins start root extension memory disk) (hi : plan.Admits start root extension i) :
    Outcome.Agrees (plan.work memory i).2 (plan.work disk i).2 ∧
      Twins start root extension (plan.work memory i).1 (plan.work disk i).1 := by
  have htexts : plan.text disk.tree i.entity = plan.text start i.entity ∧
      plan.text memory.tree i.entity = plan.text start i.entity := by
    obtain ⟨files, tree, workingFolder, rfl, rfl, _, htree⟩ := h
    exact ⟨text_of_twins hground htree i.entity, rfl⟩
  by_cases hempty : i.entity.table.isEmpty = true
  · rw [Plan.work_of_fieldless hempty, Plan.work_of_fieldless hempty]
    exact ⟨.same _, h⟩
  · have hfields : i.entity.table.isEmpty = false := by simpa using hempty
    cases htext : plan.text start i.entity with
    | error stop =>
      rw [Plan.work_of_error hfields (htexts.2.trans htext),
        Plan.work_of_error hfields (htexts.1.trans htext)]
      exact ⟨.same _, h⟩
    | ok made =>
      obtain ⟨template, text⟩ := made
      rw [Plan.work_of_ok hfields (htexts.2.trans htext),
        Plan.work_of_ok hfields (htexts.1.trans htext)]
      exact twins_emit hground h hi.proper.properType hi.whole.whole_qualifiedName hi.fits
        (hi.wholeText hfields template text htext) _ _

end Step

/-! Passes -/

section Passes

variable [Codecs] {σ : Type} {plan : Plan} {start : FileTree} {root : Path} {extension : String}

theorem twins_advance {pass pass' : Pass σ} {i : Interface}
    (hground : plan.Ground start root extension)
    (h : Twins start root extension pass.site pass'.site)
    (hseen : Pass.seen (pass', none) = Pass.seen (pass, none))
    (hi : plan.Admits start root extension i) :
    Pass.seen (pass'.advance plan i) = Pass.seen (pass.advance plan i) ∧
      Twins start root extension (pass.advance plan i).1.site (pass'.advance plan i).1.site := by
  obtain ⟨hagrees, htwins⟩ := twins_work hground h hi
  refine ⟨?_, htwins⟩
  simp only [Pass.seen, Seen.mk.injEq, true_and] at hseen
  obtain ⟨hentities, htypes, hdiagnostics⟩ := hseen
  rw [Pass.advance_eq, Pass.advance_eq]
  simp only [Pass.seen, Collector.diagnostics_followAll, List.map_append, hentities, htypes,
    hdiagnostics, hagrees.fault?_eq, hagrees.entity?_eq, hagrees.types_eq, hagrees.told_eq]

theorem twins_advanceAll {pass pass' : Pass σ} {batch : List Interface}
    (hground : plan.Ground start root extension)
    (h : Twins start root extension pass.site pass'.site)
    (hseen : Pass.seen (pass', none) = Pass.seen (pass, none))
    (hbatch : ∀ i ∈ batch, plan.Admits start root extension i) :
    Pass.seen (pass'.advanceAll plan batch) = Pass.seen (pass.advanceAll plan batch) ∧
      Twins start root extension (pass.advanceAll plan batch).1.site
        (pass'.advanceAll plan batch).1.site := by
  induction batch generalizing pass pass' with
  | nil => exact ⟨hseen, h⟩
  | cons i rest ih =>
    obtain ⟨hnext, htwins⟩ := twins_advance hground h hseen (hbatch i List.mem_cons_self)
    have hrest := fun other ho => hbatch other (List.mem_cons_of_mem _ ho)
    cases hadvance : pass.advance plan i with
    | mk after fault =>
      cases hadvance' : pass'.advance plan i with
      | mk after' fault' =>
        rw [hadvance, hadvance'] at hnext htwins
        obtain rfl : fault' = fault := congrArg Seen.fault hnext
        simp only [Pass.advanceAll, List.headD_nil, List.tail_nil, hadvance, hadvance']
        cases fault' with
        | some f => exact ⟨hnext, htwins⟩
        | none => exact ih htwins hnext hrest

theorem twins_run {memory disk : Site} {batch : List Interface} {c c' : Collector σ}
    (hground : plan.Ground start root extension)
    (h : Twins start root extension memory disk)
    (hc : c'.diagnostics.map Diagnostic.unlocated = c.diagnostics.map Diagnostic.unlocated)
    (hbatch : ∀ i ∈ batch, plan.Admits start root extension i) :
    Pass.seen (plan.run disk c' batch) = Pass.seen (plan.run memory c batch) ∧
      Twins start root extension (plan.run memory c batch).1.site
        (plan.run disk c' batch).1.site := by
  refine twins_advanceAll hground h ?_ hbatch
  simp only [Pass.seen, hc]

theorem twins_runEach {memory disk : Site} {batches : List (List Interface)} {c c' : Collector σ}
    (hground : plan.Ground start root extension)
    (h : Twins start root extension memory disk)
    (hc : c'.diagnostics.map Diagnostic.unlocated = c.diagnostics.map Diagnostic.unlocated)
    (hbatches : ∀ batch ∈ batches, ∀ i ∈ batch, plan.Admits start root extension i) :
    (plan.runEach disk c' batches).map Pass.seen = (plan.runEach memory c batches).map Pass.seen ∧
      Twins start root extension (plan.siteAfter memory c batches)
        (plan.siteAfter disk c' batches) := by
  induction batches generalizing memory disk c c' with
  | nil => exact ⟨rfl, h⟩
  | cons batch rest ih =>
    obtain ⟨hseen, htwins⟩ := twins_run hground h hc (hbatches batch List.mem_cons_self)
    have hrest := fun other ho => hbatches other (List.mem_cons_of_mem _ ho)
    have hnext : (plan.run disk c' batch).1.collector.next.diagnostics.map Diagnostic.unlocated =
        (plan.run memory c batch).1.collector.next.diagnostics.map Diagnostic.unlocated := rfl
    obtain ⟨hothers, hend⟩ := ih htwins hnext hrest
    simp only [Plan.runEach, Plan.siteAfter, List.headD_nil, List.tail_nil, List.map_cons]
    exact ⟨by rw [hseen, hothers], hend⟩

end Passes

theorem filesBelow_of_twins {start : FileTree} {root : Path} {extension : String}
    {memory disk : Site} (hvacant : Vacant start root) (hext : ProperExtension extension)
    (h : Twins start root extension memory disk) :
    (disk.tree.filesBelow root).Perm (memory.store.files.map fun file =>
      (root.join (Path.ofString file.path), utf8Bytes file.content.toList)) := by
  obtain ⟨files, tree, workingFolder, rfl, rfl, hpaths, htree⟩ := h
  have hplaces : files.map (fun file =>
      (root.join (Path.ofString file.path), utf8Bytes file.content.toList)) =
        files.map fun file =>
          (Site.filePath root file.qualifiedName extension, utf8Bytes file.content.toList) :=
    List.map_congr_left fun file hfile => by rw [hpaths file hfile, Site.filePath]
  show (tree.filesBelow root).Perm (files.map _)
  rw [hplaces]
  rcases htree with ⟨rfl, rfl⟩ | hfilled
  · rw [hvacant.filesBelow]
    exact .refl []
  · exact hfilled.filesBelow hext

/-- Passes that write below a root agree with passes that keep their artifacts in memory. -/
theorem Plan.runEach_agrees [Codecs] {σ : Type} (plan : Plan) (tree : FileTree) (root : Path)
    (extension workingFolder : String) (collector : Collector σ) (batches : List (List Interface))
    (hground : plan.Ground tree root extension)
    (hbatches : ∀ batch ∈ batches, ∀ i ∈ batch, plan.Admits tree root extension i) :
    let memory : Site := ⟨tree, .memory extension [], workingFolder⟩
    let disk : Site := ⟨tree, .folder root extension "utf-8" [], workingFolder⟩
    (plan.runEach disk collector batches).map Pass.seen =
        (plan.runEach memory collector batches).map Pass.seen ∧
      ((plan.siteAfter disk collector batches).tree.filesBelow root).Perm
        ((plan.siteAfter memory collector batches).store.files.map fun file =>
          (root.join (Path.ofString file.path), utf8Bytes file.content.toList)) := by
  intro memory disk
  have hstart : Twins tree root extension memory disk :=
    ⟨[], tree, workingFolder, rfl, rfl, by simp, .inl ⟨rfl, rfl⟩⟩
  obtain ⟨hseen, hend⟩ := twins_runEach hground hstart rfl hbatches
  exact ⟨hseen, filesBelow_of_twins hground.vacant hground.extension hend⟩

theorem Plan.runEach_agrees_of_repeated_interface :
    let plan : Plan := { settings := { templatePath := ["t"] }, templateName := some "x" }
    let tree : FileTree := ⟨[(⟨.here, ["t"]⟩, .folder), (⟨.here, ["t", "x"]⟩, .file [104, 105]),
      (⟨.here, ["out"]⟩, .folder)]⟩
    let root : Path := ⟨.here, ["out"]⟩
    let methods : List Method := [{ name := "getAge", returnType := "int" }]
    let person : Interface := ⟨"Person", "a.b", methods, none⟩
    let empty : Interface := ⟨"Empty", "", [], none⟩
    let batches : List (List Interface) := [[person, empty], [person]]
    let memory : Site := ⟨tree, .memory ".java" [], ""⟩
    let disk : Site := ⟨tree, .folder root ".java" "utf-8" [], ""⟩
    let collector : Collector Unit := { state := () }
    (plan.Ground tree root ".java" ∧
      ∀ batch ∈ batches, ∀ i ∈ batch, plan.Admits tree root ".java" i) ∧
    (plan.runEach disk collector batches).map Pass.seen =
        (plan.runEach memory collector batches).map Pass.seen ∧
      ((plan.siteAfter disk collector batches).tree.filesBelow root).Perm
        ((plan.siteAfter memory collector batches).store.files.map fun file =>
          (root.join (Path.ofString file.path), utf8Bytes file.content.toList)) := by
  intro plan tree root methods person empty batches memory disk collector
  have hthere : tree.isFolder root = true := by decide +kernel
  have hground : plan.Ground tree root ".java" := by
    refine ⟨⟨by decide +kernel, by decide +kernel, by decide +kernel⟩,
      ⟨rfl, by decide, by decide, by decide⟩, ?_⟩
    intro folder hfolder
    obtain rfl := List.mem_singleton.1 hfolder
    exact apart_of_isFolder hthere (by decide +kernel) (by decide +kernel) (by decide +kernel)
  have hperson : plan.Admits tree root ".java" person := by
    refine ⟨⟨by decide, .inr (by decide +kernel)⟩, ⟨by decide, by decide⟩,
      ⟨by decide +kernel, by decide +kernel⟩, ?_⟩
    intro _ template text htext
    have hhi : (plan.text tree person.entity).toOption = some ("x", "hi") := by decide +kernel
    rw [htext] at hhi
    obtain ⟨_, rfl⟩ := Prod.mk.inj (Option.some.inj hhi)
    decide
  have hempty : plan.Admits tree root ".java" empty :=
    ⟨⟨by decide, .inl rfl⟩, ⟨by decide, by decide⟩, ⟨by decide +kernel, by decide +kernel⟩,
      fun h => by cases h⟩
  have hbatches : ∀ batch ∈ batches, ∀ i ∈ batch, plan.Admits tree root ".java" i := by
    simp only [batches, List.mem_cons, List.not_mem_nil, or_false]
    rintro batch (rfl | rfl) i hi
    · rcases List.mem_cons.1 hi with rfl | hi
      · exact hperson
      · exact List.mem_singleton.1 hi ▸ hempty
    · exact List.mem_singleton.1 hi ▸ hperson
  exact ⟨⟨hground, hbatches⟩,
    plan.runEach_agrees tree root ".java" "" collector batches hground hbatches⟩

/-- A NUL in the extension, halves of pairs in a text or in names, which may come to name the file
of another class, and a system that refuses to close a file are met on disk only. -/
theorem Plan.runEach_disagrees_of_nul_and_half :
    let plan : Plan := { settings := { templatePath := ["t"] }, templateName := some "x" }
    let folder : Path := ⟨.here, ["t"]⟩
    let root : Path := ⟨.here, ["out"]⟩
    let tree : Bytes → FileTree := fun template =>
      ⟨[(folder, .folder), (⟨.here, ["t", "x"]⟩, .file template), (root, .folder)]⟩
    let plain : Bytes := utf8Bytes "hi".toList
    let half : Bytes := utf8Bytes "\x7b\x7b '\\ud800' \x7d\x7d".toList
    let named : String → Interface := fun name =>
      ⟨name, "a.b", [{ name := "getAge", returnType := "int" }], none⟩
    let halves : String := String.ofList [halfOf 0xdcc3, halfOf 0xdca9]
    let Admitted : String → String → Prop := fun name extension =>
      (named name).Proper ∧
        (Site.filePath root (named name).entity.qualifiedName extension).Fits
    let Agree : Bytes → String → List Interface → Prop := fun template extension batch =>
      let memory : Site := ⟨tree template, .memory extension [], ""⟩
      let disk : Site := ⟨tree template, .folder root extension "utf-8" [], ""⟩
      let collector : Collector Unit := { state := () }
      (plan.runEach disk collector [batch]).map Pass.seen =
          (plan.runEach memory collector [batch]).map Pass.seen ∧
        ((plan.siteAfter disk collector [batch]).tree.filesBelow root).Perm
          ((plan.siteAfter memory collector [batch]).store.files.map fun file =>
            (root.join (Path.ofString file.path), utf8Bytes file.content.toList))
    (Vacant (tree plain) root ∧ Apart (tree plain) root folder ∧ Admitted "Person" ".\x00" ∧
      ¬Agree plain ".\x00" [named "Person"]) ∧
    (plan.Ground (tree half) root ".java" ∧ Admitted "Person" ".java" ∧
      ¬Agree half ".java" [named "Person"]) ∧
    (plan.Ground (tree plain) root ".java" ∧ Admitted "é" ".java" ∧ Admitted halves ".java" ∧
      ¬Agree plain ".java" [named "é", named halves]) ∧
    ((plan.run ⟨tree plain, .folder root ".java" "utf-8" [], ""⟩ ({ state := () } : Collector Unit)
        [named "Person"] [{ close := some "Input/output error" }]).1.artifacts = [] ∧
      (plan.run ⟨tree plain, .memory ".java" [], ""⟩ ({ state := () } : Collector Unit)
        [named "Person"]).1.artifacts.map (·.qualifiedName) = ["a.b.PersonImpl"]) := by
  intro plan folder root tree plain half named halves Admitted Agree
  have hapart : ∀ template, (tree template).isFolder root = true →
      Apart (tree template) root folder := fun template h =>
    apart_of_isFolder h (by decide +kernel) (by decide +kernel) (by decide +kernel)
  have hground : ∀ template, (tree template).isFolder root = true →
      Vacant (tree template) root → plan.Ground (tree template) root ".java" := by
    refine fun template h hvacant =>
      ⟨hvacant, ⟨rfl, by decide, by decide, by decide⟩, fun name hname => ?_⟩
    obtain rfl := List.mem_singleton.1 hname
    exact hapart template h
  refine ⟨⟨?_, hapart plain (by decide +kernel), ⟨⟨by decide, .inr (by decide +kernel)⟩, ?_⟩, ?_⟩,
    ⟨hground half (by decide +kernel) ?_, ⟨⟨by decide, .inr (by decide +kernel)⟩, ?_⟩, ?_⟩,
    ⟨hground plain (by decide +kernel) ?_, ⟨⟨by decide, .inr (by decide +kernel)⟩, ?_⟩,
      ⟨⟨by decide, .inr (by decide +kernel)⟩, ?_⟩, ?_⟩,
    by decide +kernel, by decide +kernel⟩
  · exact ⟨by decide +kernel, by decide +kernel, by decide +kernel⟩
  · exact ⟨by decide +kernel, by decide +kernel⟩
  · exact fun hagree => Pass.map_seen_ne (by decide +kernel) hagree.1
  · exact ⟨by decide +kernel, by decide +kernel, by decide +kernel⟩
  · exact ⟨by decide +kernel, by decide +kernel⟩
  · exact fun hagree => Pass.map_seen_ne (by decide +kernel) hagree.1
  · exact ⟨by decide +kernel, by decide +kernel, by decide +kernel⟩
  · exact ⟨by decide +kernel, by decide +kernel⟩
  · exact ⟨by decide +kernel, by decide +kernel⟩
  · exact fun hagree => absurd hagree.2.length_eq (by decide +kernel)

end BeanForge

import BeanForge.Proofs.Codec
import BeanForge.Proofs.Pass.Agreement

/-!
# Deliveries

A pass into a folder that meets neither a fault nor an error makes the class of every interface
that has fields, one after the other. Each is rendered when it is its turn, and its file is opened
at a path that no class before it has. Nothing that was asked of a stream was refused then.
-/

namespace BeanForge

open Text FileTree

/-! Work without errors -/

namespace Outcome

/-- The work on an interface is told as an error where it fails, and nowhere else. -/
theorem errors_told (i : Interface) (o : Outcome) :
    ((o.events i).filterMap Event.told?).filter (·.isError) =
      (o.failure?.map (failureNote i)).toList := by
  have hcourse : o.courseDiagnostics.filter (·.isError) = [] := by
    cases o with
    | fieldless | unrendered _ _ => rfl
    | emitted _ _ location _ => cases location <;> rfl
  have hfailure : (o.failure?.map (failureNote i)).toList.filter (·.isError) =
      (o.failure?.map (failureNote i)).toList := by
    cases o.failure? <;> rfl
  have hnote : (interfaceNote i).isError = false := rfl
  rw [told_events, List.filter_append, List.filter_cons, hnote, if_neg Bool.false_ne_true, hcourse,
    hfailure, List.nil_append]

/-- Work that met neither a failure nor a fault made a class, or found no fields. -/
theorem stop?_eq_none {o : Outcome} (hfault : o.fault? = none) (hfailure : o.failure? = none) :
    o.stop? = none := by
  cases hs : o.stop? with
  | none => rfl
  | some stop => cases stop <;> simp [fault?, failure?, hs] at hfault hfailure

end Outcome

/-! Making classes -/

variable [Codecs]

namespace Plan

def siteOver (plan : Plan) (site : Site) (done : List Interface) : Site :=
  done.foldl (fun site i => (plan.work site i).1) site

/-- What the encoder of a stream makes of the text that a template gives an interface. These are
the bytes of the text as a whole, unless the codec makes others of texts in pieces. -/
def Renders (plan : Plan) (encoding : String) (tree : FileTree) (i : Interface) (bytes : Bytes) :
    Prop :=
  ∃ template text codec, plan.text tree i.entity = .ok (template, text) ∧
    Codecs.find encoding = .ok codec ∧ codec.feed [] text.toList = .ok bytes ∧
    (codec.Seamless → codec.encode text.toList = .ok bytes)

/-- The class of an interface is made in a file of its own. -/
structure Makes (plan : Plan) (root : Path) (extension encoding : String) (before : Site)
    (i : Interface) (bytes : Bytes) : Prop where
  proper : i.Proper
  whole : i.IsWhole
  renders : plan.Renders encoding before.tree i bytes
  fresh : i.classPath root extension ∉ before.store.created
  opens : ∃ u, Site.Opened before.tree u (i.classPath root extension) ∧
    (plan.work before i).1 =
      ⟨u.overwrite (i.classPath root extension).settled bytes,
        before.store.enlist (i.classPath root extension), before.workingFolder⟩

/-- The class of every interface with fields is made, one after the other. -/
inductive Delivers (plan : Plan) (root : Path) (extension encoding : String) :
    Site → List Interface → Site → List (Path × Bytes) → Prop where
  | nil (site : Site) : Delivers plan root extension encoding site [] site []
  | fieldless {i : Interface} {rest : List Interface} {before after : Site}
      {files : List (Path × Bytes)} (fields : i.entity.table.isEmpty = true)
      (others : Delivers plan root extension encoding before rest after files) :
      Delivers plan root extension encoding before (i :: rest) after files
  | made {i : Interface} {rest : List Interface} {before after : Site} {bytes : Bytes}
      {files : List (Path × Bytes)} (fields : i.entity.table.isEmpty = false)
      (makes : plan.Makes root extension encoding before i bytes)
      (others : Delivers plan root extension encoding (plan.work before i).1 rest after files) :
      Delivers plan root extension encoding before (i :: rest) after
        ((i.classPath root extension, bytes) :: files)

end Plan

/-- An emission that goes well opens a file of its own for its bytes. -/
theorem Site.opened_of_emit {s : Site} {root : Path} {extension encoding : String}
    {created : List Path} (hstore : s.store = .folder root extension encoding created)
    {qualifiedName text location : String}
    (h : (s.emitText qualifiedName text).outcome = .ok location) :
    filePath root qualifiedName extension ∉ created ∧
      ∃ u codec bytes, Opened s.tree u (filePath root qualifiedName extension) ∧
        Codecs.find encoding = .ok codec ∧ codec.feed [] text.toList = .ok bytes ∧
        (s.emitText qualifiedName text).site =
          ⟨u.overwrite (filePath root qualifiedName extension).settled bytes,
            s.store.enlist (filePath root qualifiedName extension), s.workingFolder⟩ := by
  obtain ⟨tree, store, workingFolder⟩ := s
  cases hstore
  rcases emit_folder_cases tree root extension encoding workingFolder qualifiedName text created
    with ⟨_, hemit⟩ | ⟨_, u, stop, _, hemit⟩ | ⟨hfresh, u, bytes, ho, hb, hemit⟩ |
      ⟨_, u, f, _, _, hemit⟩
  · rw [hemit] at h
    cases h
  · rw [hemit] at h
    cases h
  · obtain ⟨_, hopened, codec, hcodec⟩ := openFile_ok ho
    rw [Codecs.feed_of_find hcodec] at hb
    rw [hemit]
    exact ⟨hfresh, u, codec, bytes, hopened, hcodec, hb, rfl⟩
  · rw [hemit] at h
    cases h

/-- Work that meets no obstacle was refused nothing. -/
theorem Plan.work_of_stop?_eq_none {plan : Plan} {site : Site} {i : Interface} {mishap : Mishap}
    (h : (plan.work site i mishap).2.stop? = none) :
    plan.work site i mishap = plan.work site i := by
  cases hfields : i.entity.table.isEmpty with
  | true => rw [work_of_fieldless hfields, work_of_fieldless hfields]
  | false =>
    cases htext : plan.text site.tree i.entity with
    | error stop => rw [work_of_error hfields htext, work_of_error hfields htext]
    | ok made =>
      obtain ⟨template, text⟩ := made
      rw [work_of_ok hfields htext] at h
      cases houtcome : (site.emitText i.entity.qualifiedName text mishap).outcome with
      | error stop =>
        rw [houtcome] at h
        cases h
      | ok location =>
        cases site.emits_emitText i.entity.qualifiedName text mishap with
        | made _ unrefused _ => rw [unrefused]
        | unwritten outcome _ | fault outcome _ => simp [outcome] at houtcome

/-- Work that meets no obstacle makes a class of an interface that has fields. -/
theorem Plan.makes_of_stop?_eq_none {plan : Plan} {site : Site} {i : Interface} {root : Path}
    {extension encoding : String} {created : List Path}
    (hstore : site.store = .folder root extension encoding created) (hi : i.Proper)
    (hwhole : i.IsWhole) (hext : '/' ∉ extension.toList)
    (h : (plan.work site i).2.stop? = none) :
    (i.entity.table.isEmpty = true ∧ (plan.work site i).1 = site ∧
        (plan.work site i).2.artifact? = none) ∨
      (i.entity.table.isEmpty = false ∧ ∃ bytes artifact,
        plan.Makes root extension encoding site i bytes ∧
        (plan.work site i).2.artifact? = some artifact) := by
  cases hfields : i.entity.table.isEmpty with
  | true =>
    rw [work_of_fieldless hfields]
    exact .inl ⟨rfl, rfl, rfl⟩
  | false =>
    cases htext : plan.text site.tree i.entity with
    | error stop =>
      rw [work_of_error hfields htext] at h
      cases h
    | ok made =>
      obtain ⟨template, text⟩ := made
      have hwork := @work_of_ok _ _ _ _ {} hfields _ _ htext
      rw [hwork] at h ⊢
      cases houtcome : (site.emitText i.entity.qualifiedName text).outcome with
      | error stop =>
        rw [houtcome] at h
        cases h
      | ok location =>
        obtain ⟨hfresh, u, codec, bytes, hopened, hcodec, hbytes, hgained⟩ :=
          Site.opened_of_emit hstore houtcome
        rw [hi.filePath_eq root hext] at hfresh hopened hgained
        refine .inr ⟨rfl, bytes, ⟨i.entity.qualifiedName, location⟩,
          ⟨hi, hwhole, ?_, ?_, u, hopened, ?_⟩, rfl⟩
        · exact ⟨template, text, codec, htext, hcodec, hbytes, fun hc => hc.encode_of_feed hbytes⟩
        · rwa [hstore]
        · rw [hwork, hgained]

/-! Passes without errors -/

namespace Pass

variable {σ : Type} {plan : Plan} {root : Path} {extension encoding : String}

theorem errors_advance (pass : Pass σ) (i : Interface) (mishap : Mishap) :
    (pass.advance plan i mishap).1.collector.errors = pass.collector.errors ++
      ((plan.work pass.site i mishap).2.failure?.map (Outcome.failureNote i)).toList := by
  rw [advance_eq, ← Outcome.errors_told, Collector.errors, Collector.diagnostics_followAll,
    List.filter_append, Collector.errors]

theorem isOk_advance_iff (pass : Pass σ) (i : Interface) (mishap : Mishap) :
    (pass.advance plan i mishap).1.isOk = true ↔
      pass.isOk = true ∧ (plan.work pass.site i mishap).2.failure? = none := by
  rw [isOk, isOk, errors_advance, List.isEmpty_iff, List.isEmpty_iff, List.append_eq_nil_iff]
  simp

theorem isOk_of_advanceAll {pass : Pass σ} {batch : List Interface} {mishaps : List Mishap}
    (h : (pass.advanceAll plan batch mishaps).1.isOk = true) : pass.isOk = true := by
  induction batch generalizing pass mishaps with
  | nil => exact h
  | cons i rest ih =>
    rw [advanceAll] at h
    have hadvanced : (pass.advance plan i (mishaps.headD {})).1.isOk = true := by
      cases ha : pass.advance plan i (mishaps.headD {}) with
      | mk after fault =>
        rw [ha] at h
        cases fault with
        | none => exact ih h
        | some f => exact h
    exact ((pass.isOk_advance_iff i _).1 hadvanced).1

/-- A pass that goes well to its end delivers. -/
theorem delivers_advanceAll {pass : Pass σ} {batch : List Interface} {mishaps : List Mishap}
    {created : List Path} (hstore : pass.site.store = .folder root extension encoding created)
    (hproper : ∀ i ∈ batch, i.Proper ∧ i.IsWhole) (hext : '/' ∉ extension.toList)
    (hend : (pass.advanceAll plan batch mishaps).2 = none)
    (hok : (pass.advanceAll plan batch mishaps).1.isOk = true) :
    ∃ files, plan.Delivers root extension encoding pass.site batch
        (pass.advanceAll plan batch mishaps).1.site files ∧
      (pass.advanceAll plan batch mishaps).1.artifacts.length =
        pass.artifacts.length + files.length := by
  induction batch generalizing pass mishaps created with
  | nil => exact ⟨[], .nil _, rfl⟩
  | cons i rest ih =>
    have hothers := fun j hj => hproper j (List.mem_cons_of_mem _ hj)
    have hfault := fault?_of_advanceAll_cons hend
    rw [advanceAll_cons hfault] at hend hok ⊢
    have hstop : (plan.work pass.site i (mishaps.headD {})).2.stop? = none :=
      Outcome.stop?_eq_none hfault ((pass.isOk_advance_iff i _).1 (isOk_of_advanceAll hok)).2
    have hwork := Plan.work_of_stop?_eq_none hstop
    rw [hwork] at hstop
    have hadvance : pass.advance plan i (mishaps.headD {}) = pass.advance plan i := by
      rw [advance_eq, advance_eq, hwork]
    rw [hadvance] at hend hok ⊢
    have hartifacts : (pass.advance plan i).1.artifacts.length =
        pass.artifacts.length + (plan.work pass.site i).2.artifact?.toList.length :=
      List.length_append
    obtain ⟨hi, hwhole⟩ := hproper i List.mem_cons_self
    rcases Plan.makes_of_stop?_eq_none hstore hi hwhole hext hstop with
      ⟨hfields, hsame, hnone⟩ | ⟨hfields, bytes, artifact, hmakes, hsome⟩
    · have hsite : (pass.advance plan i).1.site = pass.site := hsame
      obtain ⟨files, hdelivers, hcount⟩ := ih (hsite ▸ hstore) hothers hend hok
      rw [hsite] at hdelivers
      rw [hartifacts, hnone] at hcount
      exact ⟨files, .fieldless hfields hdelivers, hcount⟩
    · have hnextStore : (pass.advance plan i).1.site.store = .folder root extension encoding
          (created ++ [i.classPath root extension]) := by
        obtain ⟨_, _, hgained⟩ := hmakes.opens
        show (plan.work pass.site i).1.store = _
        rw [hgained, hstore]
        rfl
      obtain ⟨files, hdelivers, hcount⟩ := ih hnextStore hothers hend hok
      rw [hartifacts, hsome, Option.toList_some, List.length_singleton] at hcount
      refine ⟨_, .made hfields hmakes hdelivers, ?_⟩
      rw [hcount, List.length_cons]
      omega

end Pass

theorem Plan.delivers_run {σ : Type} {plan : Plan} {site : Site} {collector : Collector σ}
    {batch : List Interface} {mishaps : List Mishap} {root : Path} {extension encoding : String}
    {created : List Path} (hstore : site.store = .folder root extension encoding created)
    (hproper : ∀ i ∈ batch, i.Proper ∧ i.IsWhole) (hext : '/' ∉ extension.toList)
    (hend : (plan.run site collector batch mishaps).2 = none)
    (hok : (plan.run site collector batch mishaps).1.isOk = true) :
    ∃ files, plan.Delivers root extension encoding site batch
        (plan.run site collector batch mishaps).1.site files ∧
      (plan.run site collector batch mishaps).1.artifacts.length = files.length := by
  obtain ⟨files, hdelivers, hcount⟩ := Pass.delivers_advanceAll hstore hproper hext hend hok
  exact ⟨files, hdelivers, hcount.trans (Nat.zero_add _)⟩

end BeanForge

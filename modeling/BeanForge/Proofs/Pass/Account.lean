import BeanForge.Pass
import BeanForge.Proofs.Artifact.Leftovers

/-!
# The account of a pass

A pass that comes to its end has a share for every interface of its batch, in order. The work on
an interface ends in one of four ways, and the share of the interface and the files afterwards
tell in which. The system may refuse what is asked of a stream in any work.
-/

namespace BeanForge

/-! Diagnostics of some work -/

namespace Event

def told? : Event → Option Diagnostic
  | told d => some d
  | _ => none

end Event

namespace Collector

variable {σ : Type}

theorem diagnostics_follow (c : Collector σ) (e : Event) :
    (c.follow e).diagnostics = c.diagnostics ++ e.told?.toList := by
  cases e with
  | told d => exact c.diagnostics_report d
  | enters _ _ | leaves | logged _ => simp [follow, log, Event.told?]

theorem diagnostics_followAll (c : Collector σ) (events : List Event) :
    (c.followAll events).diagnostics = c.diagnostics ++ events.filterMap Event.told? := by
  induction events generalizing c with
  | nil => simp
  | cons e rest ih =>
    rw [followAll_cons, ih, diagnostics_follow, List.append_assoc]
    cases h : e.told? <;> simp [h]

end Collector

namespace Outcome

def courseDiagnostics : Outcome → List Diagnostic
  | fieldless | unrendered _ _ => []
  | emitted _ template (.ok location) _ => [templateNote template, locationNote location]
  | emitted _ template (.error _) _ => [templateNote template]

theorem told_course (o : Outcome) : o.course.filterMap Event.told? = o.courseDiagnostics := by
  cases o with
  | fieldless | unrendered _ _ => rfl
  | emitted e template location notes =>
    cases location <;>
      simp [course, courseDiagnostics, Event.told?, List.filterMap_cons]

theorem told_events (i : Interface) (o : Outcome) :
    (o.events i).filterMap Event.told? =
      interfaceNote i :: o.courseDiagnostics ++ (o.failure?.map (failureNote i)).toList := by
  cases hf : o.failure? <;>
    simp [events, hf, Event.told?, List.filterMap_cons, told_course]

end Outcome

/-! Shares -/

/-- What the work on one interface adds to the result of a pass. -/
structure Share where
  diagnostics : List Diagnostic
  entities : List Entity := []
  artifacts : List Artifact := []

inductive Way where
  | fieldless
  | unrendered
  | unwritten
  | made
  deriving DecidableEq

namespace Plan

open Outcome

section Accounts

variable [Codecs]

/-- The share of an interface and the site afterwards, if the work ends in some way. A file that
was opened before the system refused something is gone, with what it held before. -/
def Accounts (plan : Plan) (i : Interface) (mishap : Mishap) (before after : Site)
    (share : Share) : Way → Prop
  | .fieldless =>
    i.entity.table.isEmpty = true ∧ after = before ∧ share = ⟨[interfaceNote i], [], []⟩
  | .unrendered =>
    i.entity.table.isEmpty = false ∧ after = before ∧
      ∃ f, plan.text before.tree i.entity = .error (.failure f) ∧
        share = ⟨[interfaceNote i, failureNote i f], [i.entity], []⟩
  | .unwritten =>
    i.entity.table.isEmpty = false ∧
      (before.KeepsFiles after ∨ mishap ≠ {} ∧ before.Loses i.entity.qualifiedName after) ∧
      ∃ template text reason, plan.text before.tree i.entity = .ok (template, text) ∧
        share = ⟨[interfaceNote i, templateNote template,
          failureNote i (.emission i.entity.qualifiedName reason)], [i.entity], []⟩
  | .made =>
    i.entity.table.isEmpty = false ∧
      ∃ template text location, plan.text before.tree i.entity = .ok (template, text) ∧
        before.Gains i.entity.qualifiedName text location after ∧
        share = ⟨[interfaceNote i, templateNote template, locationNote location], [i.entity],
          [⟨i.entity.qualifiedName, location⟩]⟩

/-- The work on each interface ends in exactly one way, from the site that the last one left. -/
inductive AccountsAll (plan : Plan) :
    Site → List Interface → List Mishap → Site → List Share → Prop where
  | nil (site : Site) (mishaps : List Mishap) : AccountsAll plan site [] mishaps site []
  | cons {i : Interface} {rest : List Interface} {mishaps : List Mishap}
      {before between after : Site} {share : Share} {shares : List Share} (way : Way)
      (ends : plan.Accounts i (mishaps.headD {}) before between share way)
      (only : ∀ other, plan.Accounts i (mishaps.headD {}) before between share other → other = way)
      (others : AccountsAll plan between rest mishaps.tail after shares) :
      AccountsAll plan before (i :: rest) mishaps after (share :: shares)

end Accounts

def shareOf (i : Interface) (o : Outcome) : Share :=
  ⟨interfaceNote i :: o.courseDiagnostics ++ (o.failure?.map (failureNote i)).toList,
    o.entity?.toList, o.artifact?.toList⟩

section Work

variable [Codecs] {plan : Plan} {site : Site} {i : Interface} {mishap : Mishap}

theorem work_of_fieldless (h : i.entity.table.isEmpty = true) :
    plan.work site i mishap = (site, .fieldless) := by
  simp [work, h]

theorem work_of_error (h : i.entity.table.isEmpty = false) {stop : Stop}
    (ht : plan.text site.tree i.entity = .error stop) :
    plan.work site i mishap = (site, .unrendered i.entity stop) := by
  simp [work, h, ht]

theorem work_of_ok (h : i.entity.table.isEmpty = false) {template text : String}
    (ht : plan.text site.tree i.entity = .ok (template, text)) :
    plan.work site i mishap = ((site.emitText i.entity.qualifiedName text mishap).site,
      .emitted i.entity template (site.emitText i.entity.qualifiedName text mishap).outcome
        (site.emitText i.entity.qualifiedName text mishap).notes) := by
  simp [work, h, ht]

theorem accounts_work (plan : Plan) (site : Site) (i : Interface) (mishap : Mishap)
    (h : (plan.work site i mishap).2.fault? = none) :
    ∃ way, plan.Accounts i mishap site (plan.work site i mishap).1
      (shareOf i (plan.work site i mishap).2) way := by
  by_cases ht : i.entity.table.isEmpty = true
  · rw [work_of_fieldless ht]
    exact ⟨.fieldless, ht, rfl, rfl⟩
  · have ht' : i.entity.table.isEmpty = false := by simpa using ht
    cases hp : plan.text site.tree i.entity with
    | error stop =>
      rw [work_of_error ht' hp] at h ⊢
      cases stop with
      | fault f => simp [fault?, stop?] at h
      | failure f => exact ⟨.unrendered, ht', rfl, f, hp, rfl⟩
    | ok made =>
      obtain ⟨template, text⟩ := made
      rw [work_of_ok ht' hp] at h ⊢
      cases site.emits_emitText i.entity.qualifiedName text mishap with
      | made outcome _ gains =>
        rw [outcome]
        exact ⟨.made, ht', template, text, _, hp, gains, rfl⟩
      | unwritten outcome keeps =>
        rw [outcome]
        exact ⟨.unwritten, ht', keeps, template, text, _, hp, rfl⟩
      | fault outcome => simp [outcome, fault?, stop?] at h

end Work

/-- The number and the severity of its diagnostics tell in which way a share comes about. -/
def wayOf (share : Share) : Way :=
  match share.diagnostics with
  | [_] => .fieldless
  | [_, _] => .unrendered
  | [_, _, last] => if last.isError then .unwritten else .made
  | _ => .fieldless

theorem wayOf_eq [Codecs] {plan : Plan} {i : Interface} {mishap : Mishap} {before after : Site}
    {share : Share} {way : Way} (h : plan.Accounts i mishap before after share way) :
    wayOf share = way := by
  cases way with
  | fieldless =>
    obtain ⟨_, _, rfl⟩ := h
    rfl
  | unrendered =>
    obtain ⟨_, _, _, _, rfl⟩ := h
    rfl
  | unwritten =>
    obtain ⟨_, _, _, _, _, _, rfl⟩ := h
    rfl
  | made =>
    obtain ⟨_, _, _, _, _, _, rfl⟩ := h
    rfl

end Plan

namespace Pass

open Plan

variable [Codecs] {σ : Type}

theorem advance_eq (plan : Plan) (pass : Pass σ) (i : Interface) (mishap : Mishap) :
    pass.advance plan i mishap =
      ({ site := (plan.work pass.site i mishap).1
         collector := pass.collector.followAll ((plan.work pass.site i mishap).2.events i)
         entities := pass.entities ++ (plan.work pass.site i mishap).2.entity?.toList
         artifacts := pass.artifacts ++ (plan.work pass.site i mishap).2.artifact?.toList },
        (plan.work pass.site i mishap).2.fault?) := rfl

/-- A pass goes on as long as there is no fault. -/
theorem advanceAll_cons {plan : Plan} {pass : Pass σ} {i : Interface} {rest : List Interface}
    {mishaps : List Mishap}
    (hfault : (plan.work pass.site i (mishaps.headD {})).2.fault? = none) :
    pass.advanceAll plan (i :: rest) mishaps =
      (pass.advance plan i (mishaps.headD {})).1.advanceAll plan rest mishaps.tail := by
  simp only [advanceAll, advance_eq, hfault]

theorem fault?_of_advanceAll_cons {plan : Plan} {pass : Pass σ} {i : Interface}
    {rest : List Interface} {mishaps : List Mishap}
    (h : (pass.advanceAll plan (i :: rest) mishaps).2 = none) :
    (plan.work pass.site i (mishaps.headD {})).2.fault? = none := by
  cases hf : (plan.work pass.site i (mishaps.headD {})).2.fault? with
  | none => rfl
  | some f => simp only [advanceAll, advance_eq, hf, reduceCtorEq] at h

theorem advanceAll_cons_nil {plan : Plan} {pass : Pass σ} {i : Interface} {rest : List Interface}
    (hfault : (plan.work pass.site i).2.fault? = none) :
    pass.advanceAll plan (i :: rest) = (pass.advance plan i).1.advanceAll plan rest :=
  @advanceAll_cons _ _ _ _ _ _ [] hfault

theorem fault?_of_advanceAll_cons_nil {plan : Plan} {pass : Pass σ} {i : Interface}
    {rest : List Interface} (h : (pass.advanceAll plan (i :: rest)).2 = none) :
    (plan.work pass.site i).2.fault? = none :=
  @fault?_of_advanceAll_cons _ _ _ _ _ _ [] h

theorem accountsAll_advanceAll (plan : Plan) (pass : Pass σ) (batch : List Interface)
    (mishaps : List Mishap) (h : (pass.advanceAll plan batch mishaps).2 = none) :
    ∃ shares : List Share,
      plan.AccountsAll pass.site batch mishaps (pass.advanceAll plan batch mishaps).1.site
        shares ∧
      (pass.advanceAll plan batch mishaps).1.collector.diagnostics =
        pass.collector.diagnostics ++ shares.flatMap (·.diagnostics) ∧
      (pass.advanceAll plan batch mishaps).1.entities =
        pass.entities ++ shares.flatMap (·.entities) ∧
      (pass.advanceAll plan batch mishaps).1.artifacts =
        pass.artifacts ++ shares.flatMap (·.artifacts) := by
  induction batch generalizing pass mishaps with
  | nil => exact ⟨[], .nil _ _, by simp [advanceAll, finish, Collector.log]⟩
  | cons i rest ih =>
    have hf := fault?_of_advanceAll_cons h
    rw [advanceAll_cons hf] at h ⊢
    obtain ⟨shares, hall, hd, he, ha⟩ := ih _ _ h
    obtain ⟨way, hway⟩ := plan.accounts_work pass.site i _ hf
    refine ⟨shareOf i (plan.work pass.site i (mishaps.headD {})).2 :: shares,
      .cons way hway (fun other ho => (wayOf_eq ho).symm.trans (wayOf_eq hway)) hall, ?_, ?_, ?_⟩
    · rw [hd, advance_eq, Collector.diagnostics_followAll, Outcome.told_events]
      simp [shareOf]
    · rw [he, advance_eq]
      simp [shareOf]
    · rw [ha, advance_eq]
      simp [shareOf]

end Pass

/-- What a pass tells and what it makes are the shares of its interfaces one after the other. -/
theorem Plan.run_accountsAll {σ : Type} [Codecs] (plan : Plan) (site : Site)
    (collector : Collector σ) (batch : List Interface) (mishaps : List Mishap)
    (h : (plan.run site collector batch mishaps).2 = none) :
    ∃ shares : List Share,
      plan.AccountsAll site batch mishaps (plan.run site collector batch mishaps).1.site shares ∧
      (plan.run site collector batch mishaps).1.collector.diagnostics =
        collector.diagnostics ++ shares.flatMap (·.diagnostics) ∧
      (plan.run site collector batch mishaps).1.entities = shares.flatMap (·.entities) ∧
      (plan.run site collector batch mishaps).1.artifacts = shares.flatMap (·.artifacts) := by
  obtain ⟨shares, hall, hd, he, ha⟩ :=
    Pass.accountsAll_advanceAll plan ({ site, collector } : Pass σ) batch mishaps h
  exact ⟨shares, hall, hd, he.trans (List.nil_append _), ha.trans (List.nil_append _)⟩

theorem Plan.run_accountsAll_of_refused_close :
    let plan : Plan := { settings := { templatePath := ["t"] }, templateName := some "x" }
    let site : Site :=
      { tree := ⟨[(⟨.here, ["t"]⟩, .folder), (⟨.here, ["t", "x"]⟩, .file [104, 105])]⟩
        store := .folder ⟨.here, ["out"]⟩ ".java" "utf-8" [] }
    let methods : List Method := [{ name := "getAge", returnType := "int" }]
    let batch : List Interface := [⟨"Person", "", methods, none⟩, ⟨"Empty", "", [], none⟩,
      ⟨"Person", "", methods, some "Person.java"⟩]
    let mishaps : List Mishap := [{ close := some "No space left on device" }]
    let collector : Collector Unit := { state := () }
    (plan.run site collector batch mishaps).2 = none ∧ ∃ shares : List Share,
      plan.AccountsAll site batch mishaps (plan.run site collector batch mishaps).1.site shares ∧
      (plan.run site collector batch mishaps).1.collector.diagnostics =
        collector.diagnostics ++ shares.flatMap (·.diagnostics) ∧
      (plan.run site collector batch mishaps).1.entities = shares.flatMap (·.entities) ∧
      (plan.run site collector batch mishaps).1.artifacts = shares.flatMap (·.artifacts) := by
  intro plan site methods batch mishaps collector
  have h : (plan.run site collector batch mishaps).2 = none := by decide +kernel
  exact ⟨h, plan.run_accountsAll site collector batch mishaps h⟩

/-- Where the system refuses to close a file that was there before, that file is gone. -/
theorem Plan.not_keepsFiles_of_refused_close :
    let plan : Plan := { settings := { templatePath := ["t"] }, templateName := some "x" }
    let path : Path := ⟨.here, ["out", "PersonImpl.java"]⟩
    let site : Site :=
      { tree := ⟨[(⟨.here, ["t"]⟩, .folder), (⟨.here, ["t", "x"]⟩, .file [104, 105]),
          (⟨.here, ["out"]⟩, .folder), (path, .file [111, 108, 100])]⟩
        store := .folder ⟨.here, ["out"]⟩ ".java" "utf-8" [] }
    let person : Interface := ⟨"Person", "", [{ name := "getAge", returnType := "int" }], none⟩
    let pass := plan.run site { state := () } [person] [{ close := some "Input/output error" }]
    pass.2 = none ∧
      pass.1.collector.diagnostics = [Outcome.interfaceNote person, Outcome.templateNote "x",
        Outcome.failureNote person (.emission "PersonImpl" "Input/output error")] ∧
      site.tree.entry? path = some (.file [111, 108, 100]) ∧
      pass.1.site.tree.entry? path = none ∧ ¬site.KeepsFiles pass.1.site := by
  intro plan path site person pass
  have hthere : site.tree.entry? path = some (.file [111, 108, 100]) := by decide +kernel
  have hgone : pass.1.site.tree.entry? path = none := by decide +kernel
  refine ⟨by decide +kernel, by decide +kernel, hthere, hgone, fun hkeeps => ?_⟩
  simpa [hgone] using (hkeeps.2.2 path _).2 hthere

end BeanForge

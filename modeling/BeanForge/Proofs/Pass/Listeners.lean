import BeanForge.Proofs.Pass.Agreement

/-!
# Listeners

A listener hears every diagnostic of a pass once and in order, and has no say in it. Whatever it
keeps and whatever it refuses, the passes lead to the same as if nobody listened, and so they do
where the system refuses what is asked of the streams of some artifacts.
-/

namespace BeanForge

/-! What is heard -/

namespace Listener

variable {σ : Type}

def heard (listener : Listener σ) (state : σ) (ds : List Diagnostic) : σ :=
  ds.foldl (fun state d => (listener state d).1) state

theorem heard_append (listener : Listener σ) (state : σ) (ds more : List Diagnostic) :
    listener.heard state (ds ++ more) = listener.heard (listener.heard state ds) more :=
  List.foldl_append

theorem heard_keeping (kept ds : List Diagnostic) : keeping.heard kept ds = kept ++ ds := by
  induction ds generalizing kept with
  | nil => simp [heard]
  | cons d rest ih =>
    calc keeping.heard kept (d :: rest) = keeping.heard (kept ++ [d]) rest := rfl
      _ = kept ++ d :: rest := by rw [ih, List.append_assoc, List.singleton_append]

end Listener

namespace Collector

variable {σ : Type} {c d e : Collector σ}

/-- What a listener was handed on the way from one collector to a later one is what was gathered
on that way. -/
structure Hears (c d : Collector σ) (gathered : List Diagnostic) : Prop where
  listener : d.listener = c.listener
  diagnostics : d.diagnostics = c.diagnostics ++ gathered
  state : ∀ listener, c.listener = some listener → d.state = listener.heard c.state gathered

theorem Hears.refl (c : Collector σ) : c.Hears c [] :=
  ⟨rfl, by simp, fun _ _ => rfl⟩

theorem Hears.trans {gathered more : List Diagnostic} (h : c.Hears d gathered)
    (h' : d.Hears e more) : c.Hears e (gathered ++ more) where
  listener := h'.listener.trans h.listener
  diagnostics := by rw [h'.diagnostics, h.diagnostics, List.append_assoc]
  state listener hl := by
    rw [h'.state listener (h.listener.trans hl), h.state listener hl, Listener.heard_append]

theorem hears_log (c : Collector σ) (r : Log.Record) : c.Hears (c.log r) [] :=
  ⟨rfl, by simp [log], fun _ _ => rfl⟩

/-- A refusal is logged, and is no reason not to hear the next diagnostic. -/
theorem hears_report (c : Collector σ) (d : Diagnostic) : c.Hears (c.report d) [d] := by
  cases hl : c.listener with
  | none =>
    have hquiet : c.report d = ({ c with diagnostics := c.diagnostics ++ [d] } :
        Collector σ).log d.record := by simp [report, handOn, log, hl]
    rw [hquiet]
    exact ⟨rfl, rfl, fun listener h => by rw [hl] at h; cases h⟩
  | some listener =>
    have hstate : (c.report d).state = (listener c.state d).1 := by
      simp only [report, handOn, log, hl]
      split <;> rfl
    refine ⟨?_, c.diagnostics_report d, fun other h => ?_⟩
    · simp only [report, handOn, log, hl]
      split <;> rfl
    · obtain rfl : listener = other := Option.some.inj (hl.symm.trans h)
      exact hstate

theorem hears_follow (c : Collector σ) (e : Event) : c.Hears (c.follow e) e.told?.toList := by
  cases e with
  | enters opening more => exact ⟨rfl, by simp [follow, Event.told?], fun _ _ => rfl⟩
  | leaves => exact ⟨rfl, by simp [follow, Event.told?], fun _ _ => rfl⟩
  | logged r => exact c.hears_log r
  | told d => exact c.hears_report d

theorem hears_followAll (c : Collector σ) (events : List Event) :
    c.Hears (c.followAll events) (events.filterMap Event.told?) := by
  induction events generalizing c with
  | nil => exact .refl c
  | cons e rest ih =>
    have h := (c.hears_follow e).trans (ih (c.follow e))
    cases hd : e.told? with
    | none => simpa [hd] using h
    | some d => simpa [hd] using h

end Collector

namespace Pass

variable [Codecs] {σ : Type} {plan : Plan}

/-- A pass gathers what its listener is handed, also if a fault ends it. -/
theorem hears_advanceAll (pass : Pass σ) (batch : List Interface) (mishaps : List Mishap) :
    ∃ gathered,
      pass.collector.Hears (pass.advanceAll plan batch mishaps).1.collector gathered := by
  induction batch generalizing pass mishaps with
  | nil => exact ⟨[], pass.collector.hears_log pass.summary⟩
  | cons i rest ih =>
    have hstep : ∃ gathered,
        pass.collector.Hears (pass.advance plan i (mishaps.headD {})).1.collector gathered :=
      ⟨_, pass.collector.hears_followAll _⟩
    obtain ⟨gathered, hstep⟩ := hstep
    cases hadvance : pass.advance plan i (mishaps.headD {}) with
    | mk after fault =>
      rw [hadvance] at hstep
      simp only [advanceAll, hadvance]
      cases fault with
      | some f => exact ⟨gathered, hstep⟩
      | none =>
        obtain ⟨more, hrest⟩ := ih after mishaps.tail
        exact ⟨gathered ++ more, hstep.trans hrest⟩

end Pass

/-! What passes lead to -/

/-- What a pass leads to, and where it leaves off. -/
structure Upshot where
  fault : Option Fault
  site : Site
  entities : List Entity
  artifacts : List Artifact
  diagnostics : List Diagnostic

def Pass.upshot {σ : Type} (result : Pass σ × Option Fault) : Upshot where
  fault := result.2
  site := result.1.site
  entities := result.1.entities
  artifacts := result.1.artifacts
  diagnostics := result.1.collector.diagnostics

section Indifference

variable [Codecs] {σ τ : Type} {plan : Plan} {pass : Pass σ} {other : Pass τ}

theorem Pass.upshot_advance (h : Pass.upshot (pass, none) = Pass.upshot (other, none))
    (i : Interface) (mishap : Mishap) :
    Pass.upshot (pass.advance plan i mishap) = Pass.upshot (other.advance plan i mishap) := by
  simp only [Pass.upshot, Upshot.mk.injEq, true_and] at h
  obtain ⟨hsite, hentities, hartifacts, hdiagnostics⟩ := h
  rw [Pass.advance_eq, Pass.advance_eq]
  simp only [Pass.upshot, Collector.diagnostics_followAll, hsite, hentities, hartifacts,
    hdiagnostics]

theorem Pass.upshot_advanceAll (h : Pass.upshot (pass, none) = Pass.upshot (other, none))
    (batch : List Interface) (mishaps : List Mishap) :
    Pass.upshot (pass.advanceAll plan batch mishaps) =
      Pass.upshot (other.advanceAll plan batch mishaps) := by
  induction batch generalizing pass other mishaps with
  | nil => exact h
  | cons i rest ih =>
    have hstep : Pass.upshot (pass.advance plan i (mishaps.headD {})) =
        Pass.upshot (other.advance plan i (mishaps.headD {})) := Pass.upshot_advance h i _
    cases hadvance : pass.advance plan i (mishaps.headD {}) with
    | mk after fault =>
      cases hadvance' : other.advance plan i (mishaps.headD {}) with
      | mk after' fault' =>
        rw [hadvance, hadvance'] at hstep
        obtain rfl : fault = fault' := congrArg Upshot.fault hstep
        simp only [Pass.advanceAll, hadvance, hadvance']
        cases fault with
        | some f => exact hstep
        | none => exact ih hstep mishaps.tail

theorem Plan.upshot_run (site : Site) {c : Collector σ} {c' : Collector τ}
    (h : c.diagnostics = c'.diagnostics) (batch : List Interface) (mishaps : List Mishap) :
    Pass.upshot (plan.run site c batch mishaps) = Pass.upshot (plan.run site c' batch mishaps) :=
  Pass.upshot_advanceAll (by simp only [Pass.upshot, h]) batch mishaps

theorem Plan.upshot_runEach (site : Site) {c : Collector σ} {c' : Collector τ}
    (h : c.diagnostics = c'.diagnostics) (batches : List (List Interface))
    (mishaps : List (List Mishap)) :
    (plan.runEach site c batches mishaps).map Pass.upshot =
        (plan.runEach site c' batches mishaps).map Pass.upshot ∧
      plan.siteAfter site c batches mishaps = plan.siteAfter site c' batches mishaps := by
  induction batches generalizing site c c' mishaps with
  | nil => exact ⟨rfl, rfl⟩
  | cons batch rest ih =>
    have hrun := plan.upshot_run site h batch (mishaps.headD [])
    have hsite : (plan.run site c batch (mishaps.headD [])).1.site =
        (plan.run site c' batch (mishaps.headD [])).1.site :=
      congrArg Upshot.site hrun
    have hnext : (plan.run site c batch (mishaps.headD [])).1.collector.next.diagnostics =
        (plan.run site c' batch (mishaps.headD [])).1.collector.next.diagnostics := rfl
    obtain ⟨hothers, hend⟩ :=
      ih (plan.run site c batch (mishaps.headD [])).1.site hnext mishaps.tail
    rw [hsite] at hothers hend
    simp only [Plan.runEach, Plan.siteAfter, List.map_cons, hrun, hsite, hothers, hend, and_self]

end Indifference

namespace Plan

variable [Codecs] {σ : Type} {plan : Plan}

def stateAfter (plan : Plan) (site : Site) (collector : Collector σ)
    (batches : List (List Interface)) (mishaps : List (List Mishap)) : σ :=
  match batches with
  | [] => collector.state
  | batch :: rest =>
    let result := plan.run site collector batch (mishaps.headD [])
    plan.stateAfter result.1.site result.1.collector.next rest mishaps.tail

theorem stateAfter_eq_heard (site : Site) {c : Collector σ} {listener : Listener σ}
    (hl : c.listener = some listener) (hnew : c.diagnostics = []) (batches : List (List Interface))
    (mishaps : List (List Mishap)) :
    plan.stateAfter site c batches mishaps = listener.heard c.state
      ((plan.runEach site c batches mishaps).flatMap
        fun result => result.1.collector.diagnostics) := by
  induction batches generalizing site c mishaps with
  | nil => rfl
  | cons batch rest ih =>
    generalize hresult : plan.run site c batch (mishaps.headD []) = result
    obtain ⟨gathered, hrun⟩ : ∃ gathered, c.Hears result.1.collector gathered :=
      hresult ▸ Pass.hears_advanceAll ⟨site, c, [], []⟩ batch (mishaps.headD [])
    have hgathered : result.1.collector.diagnostics = gathered := by
      rw [hrun.diagnostics, hnew, List.nil_append]
    have hnext : result.1.collector.next.listener = some listener := hrun.listener.trans hl
    have hothers := ih result.1.site hnext rfl mishaps.tail
    simp only [stateAfter, runEach, hresult, List.flatMap_cons, hgathered]
    calc plan.stateAfter result.1.site result.1.collector.next rest mishaps.tail
        = listener.heard result.1.collector.state _ := hothers
      _ = listener.heard c.state _ := by rw [hrun.state listener hl, ← Listener.heard_append]

/-- Listeners hear what is told when nobody listens, and nothing else depends on them. -/
theorem runEach_of_listener (plan : Plan) (site : Site) (listener : Listener σ) (state : σ)
    (batches : List (List Interface)) (mishaps : List (List Mishap)) :
    let alone : Collector Unit := { state := () }
    let watched : Collector σ := { listener := some listener, state }
    let told := (plan.runEach site alone batches mishaps).flatMap fun result =>
      result.1.collector.diagnostics
    (plan.runEach site watched batches mishaps).map Pass.upshot =
        (plan.runEach site alone batches mishaps).map Pass.upshot ∧
      plan.siteAfter site watched batches mishaps = plan.siteAfter site alone batches mishaps ∧
      plan.stateAfter site watched batches mishaps = listener.heard state told ∧
      plan.stateAfter site { listener := some .keeping, state := [] } batches mishaps = told := by
  intro alone watched told
  have hheard : ∀ {τ : Type} (other : Listener τ) (start : τ),
      plan.stateAfter site { listener := some other, state := start } batches mishaps =
        other.heard start told := by
    intro τ other start
    rw [stateAfter_eq_heard site rfl rfl]
    let heeded : Collector τ := { listener := some other, state := start }
    have hsame := (plan.upshot_runEach site (show heeded.diagnostics = alone.diagnostics from rfl)
      batches mishaps).1
    have htold := congrArg (List.flatMap Upshot.diagnostics) hsame
    rw [List.flatMap_map, List.flatMap_map] at htold
    exact congrArg (other.heard start) htold
  obtain ⟨hsame, hend⟩ := plan.upshot_runEach site
    (show watched.diagnostics = alone.diagnostics from rfl) batches mishaps
  refine ⟨hsame, hend, hheard listener state, ?_⟩
  rw [hheard, Listener.heard_keeping, List.nil_append]

end Plan

end BeanForge

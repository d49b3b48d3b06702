import BeanForge.Diagnostic

/-!
# Collectors

A collector gathers diagnostics in order, logs each of them in the scope at hand
and hands it on to a listener. A listener that refuses a diagnostic causes a
warning and nothing else.
-/

namespace BeanForge

/-- Someone who is handed every diagnostic: the next state, and a reason for a refusal. -/
abbrev Listener (σ : Type) := σ → Diagnostic → σ × Option String

/-- The listener that keeps what it is handed. -/
def Listener.keeping : Listener (List Diagnostic) := fun kept d => (kept ++ [d], none)

/-- What is seen from outside of a collector at work. -/
inductive Sight where
  | logged (r : Log.Record)
  | handed (d : Diagnostic)

/-- What a collector is told in the course of some work. -/
inductive Event where
  | enters (opening : Log.Opening) (more : Log.Fields)
  | leaves
  | logged (r : Log.Record)
  | told (d : Diagnostic)

structure Collector (σ : Type) where
  listener : Option (Listener σ) := none
  state : σ
  scopes : Log.Scopes := {}
  diagnostics : List Diagnostic := []
  sights : List Sight := []

namespace Collector

variable {σ : Type}

def errors (c : Collector σ) : List Diagnostic :=
  c.diagnostics.filter (·.isError)

def notes (c : Collector σ) : List Diagnostic :=
  c.diagnostics.filter (!·.isError)

def records (c : Collector σ) : List Log.Record :=
  c.sights.filterMap fun
    | .logged r => some r
    | .handed _ => none

/-- Log a record in the scope at hand. -/
def log (c : Collector σ) (r : Log.Record) : Collector σ :=
  { c with sights := c.sights ++ [.logged { r with context := c.scopes.current }] }

def handOn (c : Collector σ) (d : Diagnostic) : Collector σ :=
  match c.listener with
  | none => c
  | some listener =>
    let (state, refusal) := listener c.state d
    let c := { c with state, sights := c.sights ++ [.handed d] }
    match refusal with
    | none => c
    | some reason => c.log (Diagnostic.handoverWarning reason)

def report (c : Collector σ) (d : Diagnostic) : Collector σ :=
  (({ c with diagnostics := c.diagnostics ++ [d] } : Collector σ).log d.record).handOn d

def follow (c : Collector σ) : Event → Collector σ
  | .enters opening more => { c with scopes := c.scopes.enter opening more }
  | .leaves => { c with scopes := c.scopes.leave }
  | .logged r => c.log r
  | .told d => c.report d

def followAll (c : Collector σ) (events : List Event) : Collector σ :=
  events.foldl follow c

/-- The collector for further work, with the same listener. -/
def next (c : Collector σ) : Collector σ :=
  { listener := c.listener, state := c.state }

@[simp] theorem followAll_nil (c : Collector σ) : c.followAll [] = c := rfl

@[simp] theorem followAll_cons (c : Collector σ) (e : Event) (es : List Event) :
    c.followAll (e :: es) = (c.follow e).followAll es := rfl

theorem followAll_append (c : Collector σ) (es fs : List Event) :
    c.followAll (es ++ fs) = (c.followAll es).followAll fs := by
  simp [followAll]

@[simp] theorem diagnostics_handOn (c : Collector σ) (d : Diagnostic) :
    (c.handOn d).diagnostics = c.diagnostics := by
  simp only [handOn]
  split
  · rfl
  · split <;> rfl

theorem diagnostics_report (c : Collector σ) (d : Diagnostic) :
    (c.report d).diagnostics = c.diagnostics ++ [d] := by
  simp [report, log]

end Collector

end BeanForge

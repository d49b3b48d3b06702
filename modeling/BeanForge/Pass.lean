import BeanForge.Artifact.Store
import BeanForge.Diagnostic.Collector
import BeanForge.EntityView
import BeanForge.Skipped

/-!
# Generation passes

A pass takes the interfaces of a batch in order and makes a class for each one
that has fields. A failure is told as an error about its interface, and the pass
goes on; only a fault ends it.
-/

namespace BeanForge

/-- What classes are made with. -/
structure Plan where
  settings : Settings := {}
  /-- The template to use instead of the one in the settings. -/
  templateName : Option String := none

/-- A class that was made, and where it is kept. -/
structure Artifact where
  qualifiedName : String
  location : String
  deriving Repr, DecidableEq

/-- How far the work on an interface came. -/
inductive Outcome where
  /-- There are no fields to make a class of. -/
  | fieldless
  /-- The template gave no text. -/
  | unrendered (e : Entity) (stop : Stop)
  /-- The text was written to a place, or could not be. -/
  | emitted (e : Entity) (template : String) (location : Except Stop String)
      (notes : List Log.Record)

namespace Plan

/-- The name of the template and the text that it gives an entity. -/
def text (plan : Plan) (tree : FileTree) (e : Entity) : Except Stop (String × String) := do
  let l := plan.settings.library tree
  let h ← l.resolve plan.settings.usualTemplate plan.templateName
  let text ← e.render l h
  pure (h.name, text)

/-- Make the class of one interface. -/
def work [Codecs] (plan : Plan) (site : Site) (i : Interface) (mishap : Mishap := {}) :
    Site × Outcome :=
  let e := i.entity
  if e.table.isEmpty then (site, .fieldless)
  else match plan.text site.tree e with
    | .error stop => (site, .unrendered e stop)
    | .ok (template, text) =>
      let emission := site.emitText e.qualifiedName text mishap
      (emission.site, .emitted e template emission.outcome emission.notes)

end Plan

namespace Outcome

def entity? : Outcome → Option Entity
  | fieldless => none
  | unrendered e _ => some e
  | emitted e _ _ _ => some e

def artifact? : Outcome → Option Artifact
  | emitted e _ (.ok location) _ => some ⟨e.qualifiedName, location⟩
  | _ => none

/-- Why there is no artifact, although there are fields. -/
def stop? : Outcome → Option Stop
  | unrendered _ stop => some stop
  | emitted _ _ (.error stop) _ => some stop
  | _ => none

def failure? (o : Outcome) : Option Failure :=
  match o.stop? with
  | some (.failure f) => some f
  | _ => none

def fault? (o : Outcome) : Option Fault :=
  match o.stop? with
  | some (.fault f) => some f
  | _ => none

/-! What is told about an outcome -/

def templateNote (name : String) : Diagnostic :=
  ⟨.note, "applying template: " ++ name, none⟩

def locationNote (location : String) : Diagnostic :=
  ⟨.note, "creating source file: " ++ location, none⟩

def failureNote (i : Interface) (f : Failure) : Diagnostic :=
  ⟨.error, f.message, i.source⟩

def interfaceNote (i : Interface) : Diagnostic :=
  ⟨.note, "annotated interface: " ++ i.name, i.source⟩

def idleRecord : Log.Record where
  level := .debug
  logger := "entitygen.codegen.driver"
  message := "No accessor methods found, nothing to generate"

/-- The course of the work after the fields are known. -/
def course : Outcome → List Event
  | fieldless => [.logged idleRecord]
  | unrendered _ _ => []
  | emitted e template location notes =>
    [.enters .surrounding [("template", .ofString template)], .told (templateNote template),
      .enters .surrounding [("artifact", .ofString e.qualifiedName)]] ++
      notes.map Event.logged ++
      (match location with
        | .ok location => [.told (locationNote location)]
        | .error _ => []) ++
      [.leaves, .leaves]

/-- Everything that is told while an interface is worked on. -/
def events (i : Interface) (o : Outcome) : List Event :=
  [.enters (.subject (.ofInterface i)) [], .told (interfaceNote i)] ++
    (Skipped.ofMethods i.methods).map Event.logged ++ o.course ++
    (o.failure?.map fun f => Event.told (failureNote i f)).toList ++ [.leaves]

end Outcome

/-- A pass under way: its places, what it told, and what it made so far. -/
structure Pass (σ : Type) where
  site : Site
  collector : Collector σ
  entities : List Entity := []
  artifacts : List Artifact := []

namespace Pass

variable {σ : Type}

/-- The pass after one more interface, and the fault that ends it there. -/
def advance [Codecs] (plan : Plan) (pass : Pass σ) (i : Interface) (mishap : Mishap := {}) :
    Pass σ × Option Fault :=
  let (site, outcome) := plan.work pass.site i mishap
  ({ site
     collector := pass.collector.followAll (outcome.events i)
     entities := pass.entities ++ outcome.entity?.toList
     artifacts := pass.artifacts ++ outcome.artifact?.toList }, outcome.fault?)

/-- The record that closes a pass. -/
def summary (pass : Pass σ) : Log.Record where
  level := .info
  logger := "entitygen.codegen.driver"
  message := "Generation pass finished"
  fields := [("artifacts", .json (.integer pass.artifacts.length)),
    ("errors", .json (.integer pass.collector.errors.length))]

def finish (pass : Pass σ) : Pass σ :=
  { pass with collector := pass.collector.log pass.summary }

/-- Take the rest of a batch, up to the first fault. Each interface has its mishap, in order. -/
def advanceAll [Codecs] (plan : Plan) (pass : Pass σ) (batch : List Interface)
    (mishaps : List Mishap := []) : Pass σ × Option Fault :=
  match batch with
  | [] => (pass.finish, none)
  | i :: rest =>
    match pass.advance plan i (mishaps.headD {}) with
    | (pass, none) => pass.advanceAll plan rest mishaps.tail
    | (pass, some f) => (pass, some f)

def isOk (pass : Pass σ) : Bool :=
  pass.collector.errors.isEmpty

end Pass

/-- One pass over a batch. -/
def Plan.run {σ : Type} [Codecs] (plan : Plan) (site : Site) (collector : Collector σ)
    (batch : List Interface) (mishaps : List Mishap := []) : Pass σ × Option Fault :=
  ({ site, collector } : Pass σ).advanceAll plan batch mishaps

end BeanForge

import BeanForge.Proofs.Pass.Account
import Mathlib.Data.List.Nodup

/-!
# Independence of interfaces

In memory the interfaces of a batch have nothing to do with each other, except that a type is
recorded once. What an interface comes to in a batch is what it comes to alone, in a store that
holds nothing, or nothing but an artifact of its type if there was one before it.
-/

namespace BeanForge

structure Lot extends Share where
  records : List Recorded

/-- A site in memory without artifacts, or with one artifact of a type that is known. -/
def Site.bare (tree : FileTree) (extension qualifiedName : String) (known : Bool) : Site where
  tree := tree
  store := .memory extension (if known then [⟨"", "", qualifiedName⟩] else [])

def Site.recording (s : Site) (files : List Recorded) : Site :=
  { s with store := files.foldl (fun store file => store.record file) s.store }

theorem Site.recording_append (s : Site) (files more : List Recorded) :
    s.recording (files ++ more) = (s.recording files).recording more := by
  simp [recording]

namespace Plan

variable [Codecs]

def lot (plan : Plan) (tree : FileTree) (extension : String) (known : Bool) (i : Interface) :
    Lot :=
  let before := Site.bare tree extension i.entity.qualifiedName known
  let (after, outcome) := plan.work before i
  { toShare := shareOf i outcome
    records := after.store.files.drop before.store.files.length }

/-- The lots of a batch. All that an interface learns of the ones before it is whether its type
is recorded. -/
def lots (plan : Plan) (extension : String) : Site → List Interface → List Lot
  | _, [] => []
  | site, i :: rest =>
    let lot := plan.lot site.tree extension (site.store.contains i.entity.qualifiedName) i
    lot :: plan.lots extension (site.recording lot.records) rest

section Work

variable {plan : Plan} {tree : FileTree} {extension workingFolder : String}
  {files : List Recorded} {i : Interface}

end Work

end Plan

/-! Passes in memory -/

/-- A pass leads to another one by some lots, one after the other. -/
structure Pass.Adds {σ : Type} (before : Pass σ) (lots : List Lot) (after : Pass σ) : Prop where
  diagnostics : after.collector.diagnostics =
    before.collector.diagnostics ++ lots.flatMap (·.diagnostics)
  entities : after.entities = before.entities ++ lots.flatMap (·.entities)
  artifacts : after.artifacts = before.artifacts ++ lots.flatMap (·.artifacts)
  site : after.site = before.site.recording (lots.flatMap (·.records))

namespace Pass

open Plan

variable {σ : Type}

theorem Adds.trans {first second third : Pass σ} {lots more : List Lot}
    (h : first.Adds lots second) (h' : second.Adds more third) :
    first.Adds (lots ++ more) third where
  diagnostics := by rw [h'.diagnostics, h.diagnostics, List.append_assoc, List.flatMap_append]
  entities := by rw [h'.entities, h.entities, List.append_assoc, List.flatMap_append]
  artifacts := by rw [h'.artifacts, h.artifacts, List.append_assoc, List.flatMap_append]
  site := by rw [h'.site, h.site, List.flatMap_append, Site.recording_append]

variable [Codecs] {plan : Plan} {tree : FileTree} {extension workingFolder : String}
  {files : List Recorded} {batch : List Interface} {pass : Pass σ}

end Pass

/-- A pass over a batch ends well and adds some lots, in the order of the batch. -/
def Plan.Yields {σ : Type} [Codecs] (plan : Plan) (site : Site) (collector : Collector σ)
    (batch : List Interface) (lots : List Lot) : Prop :=
  (plan.run site collector batch).2 = none ∧
    ({ site, collector } : Pass σ).Adds lots (plan.run site collector batch).1

end BeanForge

import BeanForge.Proofs.Artifact.Persistence
import BeanForge.Proofs.Pass.Delivery
import BeanForge.Proofs.Template.Shelter
import Mathlib.Data.List.Forall2

/-!
# Repeated passes

A pass over a batch that was taken before makes nothing. Each interface was worked on, so it has no
fields, or its template fails, or its type is barred, and no later work changes that as long as
artifacts have nothing to do with templates.
-/

namespace BeanForge

open Text FileTree

theorem Site.KeepsFiles.trans {s t u : Site} (h : s.KeepsFiles t) (h' : t.KeepsFiles u) :
    s.KeepsFiles u :=
  ⟨h'.1.trans h.1, h'.2.1.trans h.2.1, fun p bytes => (h'.2.2 p bytes).trans (h.2.2 p bytes)⟩

namespace Plan

/-- In a folder the names of a batch have to stay below the root, and the templates have to be
sheltered from it. -/
def Repeatable (plan : Plan) (site : Site) (batch : List Interface) : Prop :=
  match site.store with
  | .memory _ _ => True
  | .folder root extension _ _ =>
    '/' ∉ extension.toList ∧ (∀ i ∈ batch, Inward i.entity.qualifiedName) ∧
      ∀ folder ∈ plan.settings.templatePath, Sheltered site.tree root (Path.ofString folder)

section Work

variable {plan : Plan} {start site later : Site} {batch : List Interface} {i : Interface}

theorem Repeatable.keeps (h : plan.Repeatable start batch) (hreaches : start.Reaches site)
    (hi : i ∈ batch) : site.Keeps i.entity.qualifiedName := by
  refine hreaches.keeps ?_
  obtain ⟨tree, store, workingFolder⟩ := start
  cases store with
  | memory extension files => trivial
  | folder root extension encoding created =>
    obtain ⟨hext, hinward, _⟩ := h
    exact i.encloses_of_inward root (hinward i hi) hext

theorem Repeatable.text (h : plan.Repeatable start batch) (hreaches : start.Reaches site)
    (e : Entity) : plan.text site.tree e = plan.text start.tree e := by
  obtain ⟨tree, store, workingFolder⟩ := start
  cases store with
  | memory extension files =>
    obtain ⟨htree, _⟩ := hreaches
    rw [htree]
  | folder root extension encoding created =>
    obtain ⟨_, hconfined, _⟩ := hreaches
    exact plan.text_of_sheltered hconfined h.2.2 e

variable [Codecs]

/-- Nothing is made of an interface any more. -/
def Spent (plan : Plan) (start site : Site) (i : Interface) : Prop :=
  i.entity.table.isEmpty = true ∨
    (∃ f, plan.text start.tree i.entity = .error (.failure f)) ∨
      (∃ made, plan.text start.tree i.entity = .ok made) ∧ site.Bars i.entity.qualifiedName

theorem Spent.mono (h : plan.Spent start site i) (hreaches : site.Reaches later) :
    plan.Spent start later i :=
  h.imp_right fun h => h.imp_right fun ⟨hmade, hbars⟩ => ⟨hmade, hreaches.bars hbars⟩

def Tells (e : Entity) (d : Diagnostic) : Prop :=
  ∃ i f, i.entity = e ∧ d = Outcome.failureNote i f

theorem entity?_work (plan : Plan) (site : Site) (i : Interface) (mishap : Mishap) :
    (plan.work site i mishap).2.entity? = if i.entity.table.isEmpty then none else some i.entity := by
  cases hfields : i.entity.table.isEmpty with
  | true =>
    rw [work_of_fieldless hfields]
    rfl
  | false =>
    cases htext : plan.text site.tree i.entity with
    | error stop =>
      rw [work_of_error hfields htext]
      rfl
    | ok made =>
      rw [work_of_ok hfields htext]
      rfl

end Work

end Plan

def Interface.described? (i : Interface) : Option Entity :=
  if i.entity.table.isEmpty then none else some i.entity

namespace Pass

open Plan

variable [Codecs] {σ : Type} {plan : Plan} {start : Site} {batch rest : List Interface}
  {pass : Pass σ}

/-- A pass describes the interfaces that have fields, in order. -/
theorem entities_advanceAll {mishaps : List Mishap}
    (h : (pass.advanceAll plan rest mishaps).2 = none) :
    (pass.advanceAll plan rest mishaps).1.entities =
      pass.entities ++ rest.filterMap Interface.described? := by
  induction rest generalizing pass mishaps with
  | nil => simp [advanceAll, finish]
  | cons i rest ih =>
    have hfault := fault?_of_advanceAll_cons h
    have hentity : (plan.work pass.site i (mishaps.headD {})).2.entity? = i.described? :=
      entity?_work plan pass.site i _
    have hnext : (pass.advance plan i (mishaps.headD {})).1.entities =
        pass.entities ++ i.described?.toList := by
      rw [advance_eq, hentity]
    rw [advanceAll_cons hfault] at h ⊢
    rw [ih h, hnext, List.append_assoc, List.filterMap_cons]
    cases i.described? <;> rfl

end Pass

end BeanForge

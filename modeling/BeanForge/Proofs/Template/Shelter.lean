import BeanForge.Proofs.Artifact.Confinement
import BeanForge.Proofs.Template.Lookup

/-!
# Sheltered templates

Files that are written below a root may change what is found in a folder of templates: the folder
may be reached through places that are made with the root. Where that is not so, texts stay the
same while artifacts are emitted.
-/

namespace BeanForge

open FileTree Template

/-- What is found in a folder depends neither on what is below a root nor on which of the missing
folders on the way to the root have been made. -/
def Sheltered (start : FileTree) (root folder : Path) : Prop :=
  ∀ t, Confined root start t → ∀ steps, Path.upName ∉ steps → ∀ bytes,
    t.walk (folder.join ⟨.here, steps⟩) = .ok (some (.file bytes)) ↔
      start.walk (folder.join ⟨.here, steps⟩) = .ok (some (.file bytes))

namespace FileTree

end FileTree

namespace Template.Library

theorem bytes?_of_sheltered {start t : FileTree} {root : Path} {steps folders : List String}
    (ht : Confined root start t) (hsteps : Path.upName ∉ steps)
    (h : ∀ folder ∈ folders, Sheltered start root (Path.ofString folder)) :
    bytes? t steps folders = bytes? start steps folders := by
  induction folders with
  | nil => rfl
  | cons folder rest ih =>
    have hrest := ih fun other ho => h other (List.mem_cons_of_mem _ ho)
    have hiff := h folder List.mem_cons_self t ht steps hsteps
    unfold bytes?
    split
    · rename_i bytes hwalk
      rw [(hiff bytes).1 hwalk]
    · rename_i hnot
      split
      · rename_i bytes hwalk
        exact absurd ((hiff bytes).2 hwalk) (hnot bytes)
      · exact hrest

theorem text_of_sheltered {l : Library} {t : FileTree} {root : Path}
    (ht : Confined root l.tree t)
    (h : ∀ folder ∈ l.folders, Sheltered l.tree root (Path.ofString folder)) (name : String) :
    (l.withTree t).text name = l.text name := by
  cases hs : steps? name with
  | none => simp only [text, hs]
  | some steps =>
    have hbytes : bytes? (l.withTree t).tree steps (l.withTree t).folders =
        bytes? l.tree steps l.folders := bytes?_of_sheltered ht (upName_not_mem_of_steps? hs) h
    simp only [text, hs, hbytes]

end Template.Library

/-- What is rendered with sheltered templates stays the same while a root is made and filled. -/
theorem Plan.text_of_sheltered {plan : Plan} {start t : FileTree} {root : Path}
    (ht : Confined root start t)
    (h : ∀ folder ∈ plan.settings.templatePath, Sheltered start root (Path.ofString folder))
    (e : Entity) : plan.text t e = plan.text start e :=
  plan.text_of_same e (Library.text_of_sheltered ht h)

end BeanForge

import BeanForge.Pass
import BeanForge.Proofs.FileTree.Ways

/-!
# Templates in changing trees

What a template yields depends on the files only through the texts of templates, and these only
through the places on the ways to the folders of templates and inside these folders.
-/

namespace BeanForge

open Template

namespace Path

/-- The places that decide what is found inside a folder. -/
def Concerns (folder q : Path) : Prop :=
  q ∈ way ⟨folder.anchor, []⟩ folder.names ∨ q = folder.settled ∨ q.isBelow folder.settled = true

end Path

namespace FileTree

theorem walk_congr {t u : FileTree} {folder : Path} {steps : List String}
    (h : ∀ q, folder.Concerns q → u.entry? q = t.entry? q) (hsteps : Path.upName ∉ steps) :
    u.walk (folder.join ⟨.here, steps⟩) = t.walk (folder.join ⟨.here, steps⟩) := by
  have hjoin : folder.join ⟨.here, steps⟩ = ⟨folder.anchor, folder.names ++ steps⟩ := by
    simp [Path.join]
  have hfollow : u.follow ⟨folder.anchor, []⟩ (folder.names ++ steps) =
      t.follow ⟨folder.anchor, []⟩ (folder.names ++ steps) := by
    refine follow_congr fun q hq => h q ?_
    rw [Path.way_append] at hq
    rcases List.mem_append.1 hq with hq | hq
    · exact .inl hq
    · exact .inr (.inr (Path.mem_way_of_plain hsteps hq))
  have hplace : u.place (folder.join ⟨.here, steps⟩) = t.place (folder.join ⟨.here, steps⟩) := by
    rw [hjoin, place, place, hfollow]
  rw [walk, walk, hplace]
  cases hp : t.place (folder.join ⟨.here, steps⟩) with
  | error e => rfl
  | ok q =>
    have hq : folder.Concerns q := by
      have hsettled : q = ⟨folder.settled.anchor,
          folder.settled.names ++ steps.map Text.storedName⟩ := by
        rw [place_eq_settled hp, hjoin, Path.settled_append, Path.along_of_plain _ hsteps]
      rw [hsettled]
      cases steps with
      | nil => exact .inr (.inl (by simp))
      | cons step rest => exact .inr (.inr (by simp [Path.isBelow]))
    simp [Except.map, h q hq]

end FileTree

namespace Template.Library

variable {l : Library} {u : FileTree}

def withTree (l : Library) (u : FileTree) : Library :=
  { l with tree := u }

theorem upName_not_mem_of_steps? {name : String} {steps : List String}
    (h : steps? name = some steps) : Path.upName ∉ steps := by
  rw [steps?] at h
  split at h
  · cases h
  · rename_i hup
    obtain rfl := Option.some.inj h
    intro hmem
    exact hup (List.elem_eq_true_of_mem (List.mem_filter.1 hmem).1)

theorem bytes?_congr {t : FileTree} {steps folders : List String} (hsteps : Path.upName ∉ steps)
    (h : ∀ folder ∈ folders, ∀ q, (Path.ofString folder).Concerns q → u.entry? q = t.entry? q) :
    bytes? u steps folders = bytes? t steps folders := by
  induction folders with
  | nil => rfl
  | cons folder rest ih =>
    have hrest := ih fun other ho => h other (List.mem_cons_of_mem _ ho)
    have hwalk := FileTree.walk_congr (h folder List.mem_cons_self) hsteps
    unfold bytes?
    rw [hwalk, hrest]

/-- Trees that agree on what concerns the folders of templates hold the same templates. -/
theorem text_withTree
    (h : ∀ folder ∈ l.folders, ∀ q, (Path.ofString folder).Concerns q →
      u.entry? q = l.tree.entry? q) (name : String) : (l.withTree u).text name = l.text name := by
  cases hs : steps? name with
  | none => simp only [text, hs]
  | some steps =>
    have hbytes : bytes? (l.withTree u).tree steps (l.withTree u).folders =
        bytes? l.tree steps l.folders := bytes?_congr (upName_not_mem_of_steps? hs) h
    simp only [text, hs, hbytes]

section Same

variable (h : ∀ name, (l.withTree u).text name = l.text name)

include h

theorem parts_withTree (name : String) : (l.withTree u).parts name = l.parts name := by
  rw [parts, parts, h]
  rfl

theorem resolve_withTree (usual : Except Fault String) (name : Option String) :
    (l.withTree u).resolve usual name = l.resolve usual name := by
  simp only [resolve, parts_withTree h]
  rfl

theorem inserted_withTree (name : String) : (l.withTree u).inserted name = l.inserted name := by
  rw [inserted, inserted, parts_withTree h]

theorem candidate_withTree (value : Value) :
    (l.withTree u).candidate value = l.candidate value := by
  simp only [candidate, inserted_withTree h]
  rfl

theorem firstThere?_withTree (values : List Value) :
    (l.withTree u).firstThere? values = l.firstThere? values := by
  induction values with
  | nil => rfl
  | cons value rest ih => rw [firstThere?, firstThere?, candidate_withTree h, ih]

theorem chosen_withTree (value : Value) : (l.withTree u).chosen value = l.chosen value := by
  simp only [chosen, inserted_withTree h, firstThere?_withTree h]

theorem insertion_withTree (depth : Nat) : (l.withTree u).insertion depth = l.insertion depth := by
  induction depth with
  | zero => rfl
  | succ depth ih =>
    funext name optional bindings feeds
    simp only [insertion, chosen_withTree h, ih]

theorem render_withTree (handle : Handle) (bindings : List (String × Value)) :
    handle.render (l.withTree u) bindings = handle.render l bindings := by
  rw [Handle.render, Handle.render, insertion_withTree h]

end Same

end Template.Library

/-- A plan gives an entity the same text as long as the texts of templates stay the same. -/
theorem Plan.text_of_same {t u : FileTree} (plan : Plan) (e : Entity)
    (h : ∀ name, ((plan.settings.library t).withTree u).text name =
      (plan.settings.library t).text name) : plan.text u e = plan.text t e := by
  have hresolve := Library.resolve_withTree h plan.settings.usualTemplate plan.templateName
  have hrender := Library.render_withTree h
  show (do
    let handle ← ((plan.settings.library t).withTree u).resolve plan.settings.usualTemplate
      plan.templateName
    let text ← e.render ((plan.settings.library t).withTree u) handle
    pure (handle.name, text) : Except Stop (String × String)) = _
  simp only [hresolve, Entity.render, hrender]
  rfl

theorem Plan.text_congr {t u : FileTree} (plan : Plan) (e : Entity)
    (h : ∀ folder ∈ plan.settings.templatePath, ∀ q, (Path.ofString folder).Concerns q →
      u.entry? q = t.entry? q) : plan.text u e = plan.text t e :=
  plan.text_of_same e (Library.text_withTree h)

end BeanForge

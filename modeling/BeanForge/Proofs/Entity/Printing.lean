import BeanForge.Pass
import BeanForge.Proofs.Entity.Views
import BeanForge.Proofs.Template.BundledRun

/-!
# Classes printed by the bundled template

With the usual settings every entity that has a name gets the text of its class, whatever its
names and types are.
-/

namespace BeanForge

open Template

namespace Template.Bundled

def scopeOf (view : EntityView) (keys : Option Value) : Scope where
  bindings := view.bindings
  frames := [⟨Part.touchedIn parts, [("key_fields", keys)]⟩]
  label := some name

theorem plainName_keyFields : Text.plainName "key_fields" = "key_fields" := by
  decide +kernel

theorem enter_eq_scopeOf (view : EntityView) :
    (Scope.enter { bindings := view.bindings, label := some name } [] parts) =
      scopeOf view none := by
  have hwritten : Part.writtenFirstIn [] parts = ["key_fields"] := by decide +kernel
  rw [Scope.enter]
  simp [Keyed.keys, hwritten, Scope.touches, Scope.plainValues, plainName_keyFields, scopeOf]

theorem assign_scopeOf (view : EntityView) (keys : Option Value) (v : Value) :
    (scopeOf view keys).assign "key_fields" v = scopeOf view (some v) := by
  rw [Scope.assign, plainName_keyFields]
  rfl

theorem value_scopeOf {view : EntityView} {keys : Option Value} {name : String} {v : Value}
    (hplain : Text.plainName name ≠ "key_fields") (h : Keyed.get? name view.bindings = some v) :
    (scopeOf view keys).value name = v := by
  refine value_of_binding ?_ h
  simp only [scopeOf, Scope.known?, Keyed.get?, if_neg hplain.symm]

theorem value_keys (view : EntityView) (v : Value) :
    (scopeOf view (some v)).value "key_fields" = v := by
  refine value_of_known ?_
  rw [plainName_keyFields]
  rfl

theorem knows_scopeOf {e : Entity} {view : EntityView} (h : EntityView.ofEntity e = .ok view)
    (keys : Option Value) : Knows (scopeOf view keys) e := by
  obtain ⟨_, rfl⟩ := EntityView.ofEntity_eq_ok_iff.1 h
  exact
    { package := value_scopeOf (by decide +kernel) rfl
      interfaceName := value_scopeOf (by decide +kernel) rfl
      generatedName := value_scopeOf (by decide +kernel) rfl
      fields := value_scopeOf (by decide +kernel) rfl
      identifiers := value_scopeOf (by decide +kernel) rfl }

theorem yields_textOf {e : Entity} {view : EntityView} (h : EntityView.ofEntity e = .ok view)
    (insertion : Insertion) :
    Yields (textOf insertion (some name) view.bindings parts) e.classText := by
  have hself : Part.asksItself parts = false := by decide +kernel
  rw [textOf, hself]
  show Yields (runAll insertion (Scope.enter _ [] parts) parts) e.classText
  rw [enter_eq_scopeOf]
  exact yields_parts (knows_scopeOf h none) (knows_scopeOf h _) (assign_scopeOf view none _)
    (value_keys view _)

end Template.Bundled

namespace Template.Library

variable {l : Library} {name text : String} {found : List Part}

theorem parts_of_text (ht : l.text name = .ok text) (hfault : l.fault? = none)
    (hparse : parse l.style text = .ok found) : l.parts name = .ok found := by
  have hparsed : l.parsed text = .ok found := by
    rw [Library.parsed, hfault, hparse]
    rfl
  rw [Library.parts, ht]
  exact hparsed

theorem resolve_of_parts (hparts : l.parts name = .ok found) :
    l.resolve (.ok name) none = .ok ⟨name, some name, found⟩ := by
  show (do
    let parts ← (l.parts name).mapError _
    pure (⟨name, some name, parts⟩ : Handle) : Except Stop Handle) = _
  rw [hparts]
  rfl

end Template.Library

/-! The usual settings -/

theorem Plan.text_of_render {tree : FileTree} {e : Entity} {h : Handle} {text : String}
    (plan : Plan) (hresolve : (plan.settings.library tree).resolve plan.settings.usualTemplate
      plan.templateName = .ok h)
    (hrender : e.render (plan.settings.library tree) h = .ok text) :
    plan.text tree e = .ok (h.name, text) := by
  rw [Plan.text, hresolve]
  show (do
    let text ← e.render (plan.settings.library tree) h
    pure (h.name, text) : Except Stop (String × String)) = _
  rw [hrender]
  rfl

variable (tree : FileTree)

theorem text_usual : (({} : Settings).library tree).text Bundled.name = .ok Bundled.text := by
  have hsteps : Library.steps? Bundled.name = some [Bundled.name] := by decide +kernel
  rw [Library.text, hsteps]
  exact if_pos rfl

theorem resolve_usual :
    (({} : Settings).library tree).resolve ({} : Settings).usualTemplate none =
      .ok ⟨Bundled.name, some Bundled.name, Bundled.parts⟩ :=
  Library.resolve_of_parts (Library.parts_of_text (text_usual tree) rfl Bundled.parse_text)

theorem render_usual {e : Entity} (h : e.interfaceName ≠ "") :
    e.render (({} : Settings).library tree) ⟨Bundled.name, some Bundled.name, Bundled.parts⟩ =
      .ok e.classText := by
  have hview := EntityView.ofEntity_of_named h
  rw [Entity.render, hview]
  show (Rendering.alone _).mapError _ = _
  rw [(Bundled.yields_textOf hview _).alone]
  rfl

/-- The bundled template prints the class of every entity that has a name. -/
theorem Plan.text_eq_classText {e : Entity} (h : e.interfaceName ≠ "") :
    ({} : Plan).text tree e = .ok (Bundled.name, e.classText) :=
  Plan.text_of_render {} (resolve_usual tree) (render_usual tree h)

def badge : Entity where
  package := "org.\x7b\x7b 1 \x7d\x7d"
  interfaceName := "Badge\""
  table := ⟨[⟨"holder", "java.util.List<\x7b% x %\x7d>", false, none⟩, ⟨"code", "long", true, none⟩],
    by decide⟩

theorem Plan.text_eq_classText_of_badge :
    badge.interfaceName ≠ "" ∧ ({} : Plan).text {} badge = .ok (Bundled.name, badge.classText) :=
  have h : badge.interfaceName ≠ "" := by decide
  ⟨h, Plan.text_eq_classText {} h⟩

end BeanForge

import BeanForge.Entity
import BeanForge.Keyed
import BeanForge.Settings.Basic
import BeanForge.Template.Library

/-!
# Entities in templates

What a template is told about an entity: its names, its fields in order, and the
same fields by name. An entity without a name is not shown to any template.
-/

namespace BeanForge

open Template

structure EntityView where
  packageName : String
  entityName : String
  implName : String
  qualifiedName : String
  fields : List Field
  fieldNames : List String
  fieldTypes : List (String × String)
  fieldId : List (String × Bool)
  idFields : List Field
  deriving Repr, DecidableEq

namespace EntityView

/-- What there is to tell about an entity. What is given by name is put together field by field, so
of two fields with one name the later would take the place of the earlier. -/
def describe (e : Entity) : EntityView :=
  let fields := e.table.fields
  { packageName := e.package
    entityName := e.interfaceName
    implName := e.generatedName
    qualifiedName := e.qualifiedName
    fields
    fieldNames := fields.map (·.name)
    fieldTypes := Keyed.update [] (fields.map fun f => (f.name, f.typeName))
    fieldId := Keyed.update [] (fields.map fun f => (f.name, f.isIdentifier))
    idFields := fields.filter (·.isIdentifier) }

/-- The variables that may not be empty, in order. -/
def requiredNames (v : EntityView) : List (String × String) :=
  [("entity_name", v.entityName), ("impl_name", v.implName), ("qualified_name", v.qualifiedName)]

/-- The first variable that may not be empty and is. -/
def missingName? (v : EntityView) : Option String :=
  (v.requiredNames.find? fun (_, text) => text == "").map (·.1)

/-- The failure over a variable that is empty and may not be. -/
def incomplete (v : EntityView) (name : String) : Failure :=
  .rendering (if v.qualifiedName = "" then "<unnamed>" else v.qualifiedName)
    ("invalid render context: " ++ name ++ " Value error, must not be empty")

def ofEntity (e : Entity) : Except Failure EntityView :=
  let view := describe e
  match view.missingName? with
  | none => .ok view
  | some name => .error (view.incomplete name)

/-- The variables of a template, in order. -/
def bindings (v : EntityView) : List (String × Value) :=
  [("package_name", .string v.packageName), ("entity_name", .string v.entityName),
    ("impl_name", .string v.implName), ("qualified_name", .string v.qualifiedName),
    ("fields", .tuple (v.fields.map .field)),
    ("field_names", .tuple (v.fieldNames.map .string)),
    ("field_types", .dict (v.fieldTypes.map fun (name, type) => (name, .string type))),
    ("field_id", .dict (v.fieldId.map fun (name, flag) => (name, .bool flag))),
    ("id_fields", .tuple (v.idFields.map .field))]

end EntityView

namespace Settings

/-- The library of templates that settings ask for. -/
def library (s : Settings) (tree : FileTree) : Library where
  tree := tree
  folders := s.templatePath
  style := ⟨s.trimBlocks, s.stripLines⟩
  remembers := s.templateCache
  fault? := s.styleFault?

end Settings

/-- The text of an entity's class. -/
def Entity.render (e : Entity) (l : Library) (h : Handle) : Except Stop String := do
  let view ← (EntityView.ofEntity e).mapError Stop.failure
  h.render l view.bindings

end BeanForge

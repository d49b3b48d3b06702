import BeanForge.Fault
import BeanForge.Json.Display
import BeanForge.Keyed
import BeanForge.Validation

/-!
# Revisions of entities

A revision gives some parts of an entity other values, which may be of any form.
The names of the generated class follow them as far as they can.
-/

namespace BeanForge.Entity

/-- The parts of an entity in whatever form they are given. -/
structure Revision where
  package : Json
  interfaceName : Json
  fields : Json
  deriving Repr

namespace Revision

def of (e : Entity) : Revision where
  package := .string e.package
  interfaceName := .string e.interfaceName
  fields := .array (e.table.fields.map Field.toJson)

/-- Only fields can be listed; another value has none, or members that are no fields. -/
def listed (value : Json) : Except Fault Json :=
  match value.items? with
  | none => .error (.notIterable value.kindName)
  | some [] => .ok (.array [])
  | some (item :: _) => .error (.noMember item.kindName "model_dump")

def generatedName (r : Revision) : Except Fault String :=
  match r.interfaceName with
  | .string name => .ok (name ++ "Impl")
  | value => .error (.notExtensible value.kindName)

/-- A package that does not count is the default package. -/
def qualifiedName (r : Revision) : Except Fault String := do
  let name ← r.generatedName
  pure (if r.package.holds then r.package.shown ++ "." ++ name else name)

end Revision

/-- The entity with other values for some of its parts. -/
def revised (e : Entity) (changes : List (String × Json)) : Except Fault Revision := do
  let start := Revision.of e
  let part (name : String) (old : Json) : Json := (Keyed.get? name changes).getD old
  let fields ← match Keyed.get? "fields" changes with
    | none => pure start.fields
    | some value => Revision.listed value
  pure ⟨part "package_name" start.package, part "source_type_name" start.interfaceName, fields⟩

end BeanForge.Entity

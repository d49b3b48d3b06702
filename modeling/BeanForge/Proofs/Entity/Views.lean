import BeanForge.EntityView
import BeanForge.Proofs.FieldTable.Lookup
import BeanForge.Proofs.Keyed

/-!
# Views of the fields

A template is told the fields of an entity as a list, by their names, and by name with their types
and their flags. A table has each name once, so no field takes the place of another when they are
put together by name, and all views tell the same fields in the same order.
-/

namespace BeanForge

/-! Fields by name -/

namespace FieldTable

variable {ν : Type} (t : FieldTable) (value : Field → ν)

theorem keys_byName :
    Keyed.keys (t.fields.map fun f => (f.name, value f)) = t.names := by
  simp [Keyed.keys, names, Function.comp_def]

/-- No field takes the place of another. -/
theorem update_byName :
    Keyed.update [] (t.fields.map fun f => (f.name, value f)) =
      t.fields.map fun f => (f.name, value f) := by
  apply Keyed.update_nil_of_nodup
  rw [keys_byName]
  exact t.distinct

theorem get?_byName (name : String) :
    Keyed.get? name (t.fields.map fun f => (f.name, value f)) = (t.get? name).map value :=
  Keyed.get?_map Field.name value name t.fields

end FieldTable

/-! Names -/

namespace Entity

theorem generatedName_ne_empty (e : Entity) : e.generatedName ≠ "" := by
  simp [generatedName]

theorem qualifiedName_ne_empty (e : Entity) : e.qualifiedName ≠ "" := by
  rw [qualifiedName, qualify]
  split
  · exact e.generatedName_ne_empty
  · simp [e.generatedName_ne_empty]

end Entity

namespace EntityView

/-- Only the name of the interface can be missing: the other names end in one word. -/
theorem missingName?_describe (e : Entity) :
    (describe e).missingName? = if e.interfaceName = "" then some "entity_name" else none := by
  have himpl : (describe e).implName ≠ "" := e.generatedName_ne_empty
  have hqualified : (describe e).qualifiedName ≠ "" := e.qualifiedName_ne_empty
  have hentity : (describe e).entityName = e.interfaceName := rfl
  by_cases h : e.interfaceName = "" <;>
    simp [missingName?, requiredNames, himpl, hqualified, hentity, h]

theorem ofEntity_of_named {e : Entity} (h : e.interfaceName ≠ "") :
    ofEntity e = .ok (describe e) := by
  simp only [ofEntity, missingName?_describe, if_neg h]

theorem ofEntity_of_nameless {e : Entity} (h : e.interfaceName = "") :
    ofEntity e = .error (.rendering e.qualifiedName
      "invalid render context: entity_name Value error, must not be empty") := by
  have hqualified : (describe e).qualifiedName = e.qualifiedName := rfl
  simp only [ofEntity, missingName?_describe, if_pos h, incomplete, hqualified,
    if_neg e.qualifiedName_ne_empty]
  rfl

theorem ofEntity_eq_ok_iff {e : Entity} {view : EntityView} :
    ofEntity e = .ok view ↔ e.interfaceName ≠ "" ∧ view = describe e := by
  by_cases h : e.interfaceName = ""
  · simp [ofEntity_of_nameless h, h]
  · simp [ofEntity_of_named h, h, eq_comm]

/-! Agreement -/

/-- All views tell the fields of one table, in its order. -/
structure Agrees (v : EntityView) (t : FieldTable) : Prop where
  fields : v.fields = t.fields
  fieldNames : v.fieldNames = t.names
  typeKeys : Keyed.keys v.fieldTypes = t.names
  idKeys : Keyed.keys v.fieldId = t.names
  distinct : t.names.Nodup
  typeCount : v.fieldTypes.length = t.fields.length
  idCount : v.fieldId.length = t.fields.length
  /-- What a table gives under a name is the one field of that name. -/
  entry : ∀ name f, t.get? name = some f ↔ f ∈ t.fields ∧ f.name = name
  types : ∀ name, Keyed.get? name v.fieldTypes = (t.get? name).map Field.typeName
  ids : ∀ name, Keyed.get? name v.fieldId = (t.get? name).map Field.isIdentifier
  identifiers : v.idFields = t.identifiers
  /-- The flags by name pick the identifiers out of the fields. -/
  flagged : v.idFields = v.fields.filter fun f => Keyed.get? f.name v.fieldId = some true

theorem agrees_describe (e : Entity) : (describe e).Agrees e.table := by
  have htypes : (describe e).fieldTypes = e.table.fields.map fun f => (f.name, f.typeName) :=
    e.table.update_byName Field.typeName
  have hids : (describe e).fieldId = e.table.fields.map fun f => (f.name, f.isIdentifier) :=
    e.table.update_byName Field.isIdentifier
  have hget : ∀ name, Keyed.get? name (describe e).fieldId =
      (e.table.get? name).map Field.isIdentifier := fun name => by
    rw [hids, FieldTable.get?_byName]
  refine
    { fields := rfl
      fieldNames := rfl
      typeKeys := by rw [htypes, FieldTable.keys_byName]
      idKeys := by rw [hids, FieldTable.keys_byName]
      distinct := e.table.distinct
      typeCount := by rw [htypes, List.length_map]
      idCount := by rw [hids, List.length_map]
      entry := fun _ _ => FieldTable.get?_eq_some_iff
      types := fun name => by rw [htypes, FieldTable.get?_byName]
      ids := hget
      identifiers := rfl
      flagged := ?_ }
  refine List.filter_congr fun f hf => ?_
  simp [hget, FieldTable.get?_of_mem hf]

/-- An entity with a name is told in views that agree, and one without is not told at all. -/
theorem ofEntity_agrees (e : Entity) :
    (e.interfaceName ≠ "" → ∃ v, ofEntity e = .ok v ∧ v.Agrees e.table) ∧
    (e.interfaceName = "" → ofEntity e = .error (.rendering e.qualifiedName
      "invalid render context: entity_name Value error, must not be empty")) := by
  constructor
  · intro hnamed
    exact ⟨describe e, ofEntity_of_named hnamed, agrees_describe e⟩
  · exact ofEntity_of_nameless

theorem ofEntity_agrees_of_wagon :
    let t : FieldTable := ⟨[⟨"id", "long", true, none⟩, ⟨"", "int[]", false, none⟩,
      ⟨"owner's", "id", true, some "get"⟩], by decide⟩
    let wagon : Entity := ⟨"a.b", "Wagon", t⟩
    let nameless : Entity := ⟨"a.b", "", t⟩
    (wagon.interfaceName ≠ "" ∧ ∃ v, ofEntity wagon = .ok v ∧ v.Agrees t) ∧
    nameless.interfaceName = "" ∧ ofEntity nameless = .error (.rendering "a.b.Impl"
      "invalid render context: entity_name Value error, must not be empty") := by
  intro t wagon nameless
  have hwagon : wagon.interfaceName ≠ "" := by decide
  have hname : nameless.qualifiedName = "a.b.Impl" := by decide
  exact ⟨⟨hwagon, (ofEntity_agrees wagon).1 hwagon⟩, rfl, hname ▸ (ofEntity_agrees nameless).2 rfl⟩

end EntityView

end BeanForge

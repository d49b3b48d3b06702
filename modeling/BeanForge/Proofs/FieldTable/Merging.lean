import BeanForge.Proofs.FieldTable.Lookup
import Mathlib.Data.List.Forall2

/-!
# Merging tables

Two tables merge into the fields of the first one, each with the word of its namesake if it has
none of its own, and the new fields of the second one behind them. The table of two runs of methods
is the merge of their tables. So a table only grows while more methods come: fields are put behind
the others, and a field without a word may get one.
-/

namespace BeanForge.FieldTable

/-- A field with the word of its namesake in a table, if it has none of its own. -/
def complete (t : FieldTable) (f : Field) : Field :=
  match t.get? f.name with
  | some later => learn f later
  | none => f

@[simp] theorem name_complete (t : FieldTable) (f : Field) : (t.complete f).name = f.name := by
  rw [complete]
  split <;> rfl

def mergedFields (t u : FieldTable) : List Field :=
  t.fields.map u.complete ++ u.fields.filter (·.name ∉ t.names)

theorem names_mergedFields (t u : FieldTable) :
    (t.mergedFields u).map Field.name = t.names ++ u.names.filter (· ∉ t.names) := by
  simp [mergedFields, names, List.filter_map, Function.comp_def]

theorem nodup_mergedFields (t u : FieldTable) : ((t.mergedFields u).map Field.name).Nodup := by
  rw [names_mergedFields]
  refine List.nodup_append.2 ⟨t.distinct, u.distinct.filter _, fun a ha b hb => ?_⟩
  rintro rfl
  simp [ha] at hb

def merge (t u : FieldTable) : FieldTable :=
  ⟨t.mergedFields u, t.nodup_mergedFields u⟩

theorem names_merge (t u : FieldTable) :
    (t.merge u).names = t.names ++ u.names.filter (· ∉ t.names) :=
  t.names_mergedFields u

theorem get?_merge (t u : FieldTable) (name : String) :
    (t.merge u).get? name = (t.get? name).merge learn (u.get? name) := by
  have hname : ((·.name == name) ∘ u.complete) = (·.name == name) :=
    funext fun f => by rw [Function.comp_apply, name_complete]
  have hcomplete : (t.fields.map u.complete).find? (·.name == name) =
      (t.get? name).map u.complete := by
    rw [List.find?_map, hname, get?]
  have hmerge : (t.merge u).get? name = ((t.get? name).map u.complete).or
      ((u.fields.filter (·.name ∉ t.names)).find? (·.name == name)) := by
    rw [← hcomplete, ← List.find?_append]
    rfl
  rw [hmerge]
  cases ht : t.get? name with
  | some f =>
    obtain ⟨_, rfl⟩ := get?_eq_some_iff.1 ht
    simp only [Option.map_some, Option.some_or, complete]
    cases u.get? f.name <;> rfl
  | none =>
    have hnew : name ∉ t.names := get?_eq_none_iff.1 ht
    simp only [Option.map_none, Option.none_or, Option.merge_none_left, List.find?_filter, get?]
    congr 1
    funext g
    by_cases hg : g.name = name <;> simp [hg, hnew]

@[simp] theorem merge_empty (t : FieldTable) : t.merge empty = t := by
  refine ext_of_lookup ?_ fun name => ?_
  · simp [names_merge]
  · rw [get?_merge]
    exact Option.merge_none_right

theorem merge_add (t u : FieldTable) (f : Field) : t.merge (u.add f) = (t.merge u).add f := by
  refine ext_of_lookup ?_ fun name => ?_
  · rw [names_merge, names_add, names_add, names_merge]
    by_cases ht : f.name ∈ t.names <;> by_cases hu : f.name ∈ u.names <;>
      simp [ht, hu, List.filter_append]
  · rw [get?_merge, get?_add, get?_add, get?_merge]
    exact ((Option.associative_merge learn).assoc _ _ _).symm

theorem merge_record (t u : FieldTable) (m : Method) :
    t.merge (u.record m) = (t.merge u).record m := by
  cases h : m.field? with
  | error why => rw [record_of_error h, record_of_error h]
  | ok f => rw [record_of_ok h, record_of_ok h, merge_add]

theorem ofMethods_append (methods more : List Method) :
    ofMethods (methods ++ more) = (ofMethods methods).merge (ofMethods more) := by
  induction more using List.reverseRecOn with
  | nil => rw [List.append_nil, ofMethods_nil, merge_empty]
  | append_singleton more m ih =>
    rw [← List.append_assoc, ofMethods_append_singleton, ih, ofMethods_append_singleton,
      merge_record]

/-! Growth -/

/-- A field as it was, but for a word that it may have got. -/
structure Keeps (f g : Field) : Prop where
  name : g.name = f.name
  typeName : g.typeName = f.typeName
  isIdentifier : g.isIdentifier = f.isIdentifier
  word : g.getterWord = f.getterWord ∨
    f.getterWord = none ∧ (g.getterWord = some "get" ∨ g.getterWord = some "is")

/-- The fields of a table stand in front of those of another, each where it was. -/
def Extends (t u : FieldTable) : Prop :=
  ∃ kept more, u.fields = kept ++ more ∧ List.Forall₂ Keeps t.fields kept

theorem keeps_complete {u : FieldTable}
    (h : ∀ f ∈ u.fields, ∀ w, f.getterWord = some w → w = "get" ∨ w = "is") (f : Field) :
    Keeps f (u.complete f) := by
  cases hlater : u.get? f.name with
  | none =>
    have hcomplete : u.complete f = f := by rw [complete, hlater]
    rw [hcomplete]
    exact ⟨rfl, rfl, rfl, .inl rfl⟩
  | some later =>
    have hcomplete : u.complete f = learn f later := by rw [complete, hlater]
    rw [hcomplete]
    refine ⟨rfl, rfl, rfl, ?_⟩
    cases hword : f.getterWord with
    | some w => exact .inl (by simp [learn, hword])
    | none =>
      have hlearn : (learn f later).getterWord = later.getterWord := by simp [learn, hword]
      rw [hlearn]
      cases hlast : later.getterWord with
      | none => exact .inl rfl
      | some w =>
        obtain ⟨hmem, _⟩ := get?_eq_some_iff.1 hlater
        rcases h later hmem w hlast with rfl | rfl
        · exact .inr ⟨rfl, .inl rfl⟩
        · exact .inr ⟨rfl, .inr rfl⟩

theorem extends_merge {t u : FieldTable}
    (h : ∀ f ∈ u.fields, ∀ w, f.getterWord = some w → w = "get" ∨ w = "is") :
    t.Extends (t.merge u) := by
  refine ⟨_, _, rfl, ?_⟩
  rw [List.forall₂_map_right_iff]
  exact List.forall₂_same.2 fun f _ => keeps_complete h f

/-- The table of two runs of methods is the merge of their tables, and the table of the first run
keeps its fields. -/
theorem ofMethods_append_merges (methods more : List Method) :
    ofMethods (methods ++ more) = (ofMethods methods).merge (ofMethods more) ∧
      (ofMethods methods).Extends (ofMethods (methods ++ more)) := by
  refine ⟨ofMethods_append methods more, ?_⟩
  rw [ofMethods_append]
  exact extends_merge (getterWord_ofMethods more)

end BeanForge.FieldTable

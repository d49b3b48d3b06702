import BeanForge.Accessor

/-!
# Field tables

The fields of one interface in the order in which its methods first speak of
them, each name once. A later method adds nothing but the word of a getter to a
field that was seen through setters only.
-/

namespace BeanForge

structure FieldTable where
  fields : List Field
  distinct : (fields.map Field.name).Nodup

namespace FieldTable

def empty : FieldTable := ⟨[], List.nodup_nil⟩

def names (t : FieldTable) : List String :=
  t.fields.map Field.name

def get? (t : FieldTable) (name : String) : Option Field :=
  t.fields.find? (·.name == name)

def contains (t : FieldTable) (name : String) : Bool :=
  t.fields.any (·.name == name)

def identifiers (t : FieldTable) : List Field :=
  t.fields.filter (·.isIdentifier)

/-- The field at a position; negative positions count from the end. -/
def at? (t : FieldTable) (index : Int) : Option Field :=
  let n := t.fields.length
  if 0 ≤ index then t.fields[index.toNat]?
  else if index.natAbs ≤ n then t.fields[n - index.natAbs]?
  else none

/-- The first name that comes a second time. -/
def repeatedName? : List Field → Option String :=
  go []
where
  go (seen : List String) : List Field → Option String
    | [] => none
    | f :: rest => if f.name ∈ seen then some f.name else go (f.name :: seen) rest

theorem nodup_of_go (seen : List String) (fs : List Field)
    (h : repeatedName?.go seen fs = none) :
    (fs.map Field.name).Nodup ∧ ∀ f ∈ fs, f.name ∉ seen := by
  induction fs generalizing seen with
  | nil => simp
  | cons f rest ih =>
    simp only [repeatedName?.go] at h
    split at h
    · simp at h
    · rename_i hf
      obtain ⟨hnodup, hseen⟩ := ih _ h
      refine ⟨?_, ?_⟩
      · simp only [List.map_cons, List.nodup_cons]
        refine ⟨?_, hnodup⟩
        intro hmem
        obtain ⟨g, hg, hname⟩ := List.mem_map.1 hmem
        exact hseen g hg (by simp [hname])
      · intro g hg
        rcases List.mem_cons.1 hg with rfl | hg
        · exact hf
        · exact fun hs => hseen g hg (List.mem_cons_of_mem _ hs)

theorem nodup_of_repeatedName?_eq_none {fs : List Field} (h : repeatedName? fs = none) :
    (fs.map Field.name).Nodup :=
  (nodup_of_go [] fs h).1

/-- The table of these fields, or the name that comes twice. -/
def ofFields (fs : List Field) : Except String FieldTable :=
  match h : repeatedName? fs with
  | some name => .error name
  | none => .ok ⟨fs, nodup_of_repeatedName?_eq_none h⟩

/-- A getter's word fills the place that setters left open. -/
def learn (f : Field) (later : Field) : Field :=
  { f with getterWord := f.getterWord <|> later.getterWord }

def addTo : List Field → Field → List Field
  | [], f => [f]
  | g :: rest, f => if g.name = f.name then learn g f :: rest else g :: addTo rest f

theorem names_addTo (fs : List Field) (f : Field) :
    (addTo fs f).map Field.name =
      if f.name ∈ fs.map Field.name then fs.map Field.name else fs.map Field.name ++ [f.name] := by
  induction fs with
  | nil => simp [addTo]
  | cons g rest ih =>
    by_cases hg : g.name = f.name
    · simp [addTo, hg, learn]
    · have hg' : f.name ≠ g.name := fun h => hg h.symm
      simp only [addTo, hg, if_false, List.map_cons, ih, List.mem_cons, hg', false_or]
      split <;> simp

theorem nodup_addTo {fs : List Field} (h : (fs.map Field.name).Nodup) (f : Field) :
    ((addTo fs f).map Field.name).Nodup := by
  rw [names_addTo]
  split
  · exact h
  · rename_i hf
    rw [List.nodup_append]
    refine ⟨h, by simp, ?_⟩
    intro a ha b hb hab
    simp only [List.mem_singleton] at hb
    exact hf (hb ▸ hab ▸ ha)

def add (t : FieldTable) (f : Field) : FieldTable :=
  ⟨addTo t.fields f, nodup_addTo t.distinct f⟩

/-- What one method adds to the table. -/
def record (t : FieldTable) (m : Method) : FieldTable :=
  match m.field? with
  | .ok f => t.add f
  | .error _ => t

def ofMethods (methods : List Method) : FieldTable :=
  methods.foldl record empty

def isEmpty (t : FieldTable) : Bool :=
  t.fields.isEmpty

@[simp] theorem names_empty : empty.names = [] := rfl

theorem names_add (t : FieldTable) (f : Field) :
    (t.add f).names = if f.name ∈ t.names then t.names else t.names ++ [f.name] :=
  names_addTo t.fields f

@[simp] theorem ofMethods_nil : ofMethods [] = empty := rfl

theorem ofMethods_append_singleton (methods : List Method) (m : Method) :
    ofMethods (methods ++ [m]) = (ofMethods methods).record m := by
  simp [ofMethods]

end FieldTable

end BeanForge

import BeanForge.FieldTable
import Mathlib.Data.List.Induction
import Mathlib.Data.List.Nodup

/-!
# Looking fields up

A table is known by its names in order and by the field under each of them. A field that is added
comes last under a new name, or gives its word to the field that has the name already.
-/

namespace BeanForge

theorem AccessorWord.split?_eq_some_iff {cs rest : List Char} {word : AccessorWord} :
    split? cs = some (word, rest) ↔ cs = word.text.toList ++ rest := by
  constructor
  · intro h
    rw [split?.eq_def] at h
    split at h <;> cases h <;> rfl
  · rintro rfl
    cases word <;> rfl

theorem Method.name_of_field? {m : Method} {f : Field} (h : m.field? = .ok f) :
    ∃ word rest, AccessorWord.split? m.name.toList = some (word, rest) ∧
      f.name = Text.lower (String.ofList rest) := by
  rw [field?] at h
  split at h
  · cases h
  · rename_i word rest hsplit
    refine ⟨word, rest, hsplit, ?_⟩
    split at h
    · cases h
      rfl
    · split at h <;> cases h
      rfl

theorem Method.getterWord_of_field? {m : Method} {f : Field} (h : m.field? = .ok f) {w : String}
    (hw : f.getterWord = some w) : w = "get" ∨ w = "is" := by
  rw [field?] at h
  split at h
  · cases h
  · rename_i word rest _
    split at h
    · cases h
      cases word <;> cases hw
      · exact .inl rfl
      · exact .inr rfl
    · split at h <;> cases h
      cases hw

namespace FieldTable

/-! Fields one by one -/

theorem addTo_of_not_mem {fs : List Field} {f : Field} (h : f.name ∉ fs.map Field.name) :
    addTo fs f = fs ++ [f] := by
  induction fs with
  | nil => rfl
  | cons g rest ih =>
    simp only [List.map_cons, List.mem_cons, not_or] at h
    rw [addTo, if_neg (Ne.symm h.1), ih h.2, List.cons_append]

theorem addTo_append_last {fs : List Field} {f g : Field} (h : g.name ∉ fs.map Field.name)
    (hname : g.name = f.name) : addTo (fs ++ [g]) f = fs ++ [learn g f] := by
  induction fs with
  | nil => rw [List.nil_append, addTo, if_pos hname, List.nil_append]
  | cons first rest ih =>
    simp only [List.map_cons, List.mem_cons, not_or] at h
    rw [List.cons_append, addTo, if_neg fun e => h.1 (hname.trans e.symm), ih h.2,
      List.cons_append]

theorem mem_addTo {fs : List Field} {f g : Field} (h : g ∈ addTo fs f) :
    g = f ∨ g ∈ fs ∨ ∃ known ∈ fs, g = learn known f := by
  induction fs with
  | nil => exact .inl (List.mem_singleton.1 h)
  | cons first rest ih =>
    rw [addTo] at h
    split at h
    · rcases List.mem_cons.1 h with rfl | h
      · exact .inr (.inr ⟨first, List.mem_cons_self, rfl⟩)
      · exact .inr (.inl (List.mem_cons_of_mem _ h))
    · rcases List.mem_cons.1 h with rfl | h
      · exact .inr (.inl List.mem_cons_self)
      · rcases ih h with rfl | h | ⟨known, hknown, rfl⟩
        · exact .inl rfl
        · exact .inr (.inl (List.mem_cons_of_mem _ h))
        · exact .inr (.inr ⟨known, List.mem_cons_of_mem _ hknown, rfl⟩)

@[simp] theorem name_learn (f later : Field) : (learn f later).name = f.name := rfl

theorem getterWord_of_learn {f later : Field} {w : String}
    (h : (learn f later).getterWord = some w) :
    f.getterWord = some w ∨ later.getterWord = some w := by
  cases hword : f.getterWord with
  | none => exact .inr (by simpa [learn, hword] using h)
  | some known => exact .inl (by simpa [learn, hword] using h)

/-- The first word stays, whatever comes after it. -/
instance : Std.Associative learn where
  assoc f g h := by
    simp only [learn, Option.orElse_eq_orElse]
    cases f.getterWord <;> simp

theorem find?_addTo (fs : List Field) (f : Field) (name : String) :
    (addTo fs f).find? (·.name == name) =
      (fs.find? (·.name == name)).merge learn (if f.name = name then some f else none) := by
  induction fs with
  | nil =>
    by_cases hf : f.name = name <;> simp [addTo, hf]
  | cons g rest ih =>
    by_cases hg : g.name = f.name
    · by_cases hf : f.name = name <;> simp [addTo, hg, hf]
    · rw [addTo, if_neg hg]
      by_cases hname : g.name = name
      · have hf : f.name ≠ name := fun e => hg (hname.trans e.symm)
        simp [hname, hf]
      · simp [hname, ih]

/-! Tables -/

theorem get?_of_mem {t : FieldTable} {f : Field} (h : f ∈ t.fields) : t.get? f.name = some f := by
  rw [get?]
  cases hg : t.fields.find? (·.name == f.name) with
  | none => exact absurd (beq_self_eq_true f.name) (List.find?_eq_none.1 hg f h)
  | some g =>
    have hname : g.name = f.name := by simpa using List.find?_some hg
    rw [List.inj_on_of_nodup_map t.distinct (List.mem_of_find?_eq_some hg) h hname]

theorem get?_eq_some_iff {t : FieldTable} {name : String} {f : Field} :
    t.get? name = some f ↔ f ∈ t.fields ∧ f.name = name := by
  constructor
  · intro h
    exact ⟨List.mem_of_find?_eq_some h, by simpa using List.find?_some h⟩
  · rintro ⟨hf, rfl⟩
    exact get?_of_mem hf

theorem get?_eq_none_iff {t : FieldTable} {name : String} : t.get? name = none ↔ name ∉ t.names := by
  simp [get?, names]

/-- The fields are found again under their names. -/
theorem filterMap_get? (t : FieldTable) : t.names.filterMap t.get? = t.fields := by
  rw [names, List.filterMap_map]
  have hall : ∀ f ∈ t.fields, (t.get? ∘ Field.name) f = some f := fun f hf => get?_of_mem hf
  rw [List.filterMap_congr hall, List.filterMap_some]

theorem ext_of_lookup {t u : FieldTable} (hnames : t.names = u.names)
    (hget : ∀ name, t.get? name = u.get? name) : t = u := by
  have hfields : t.fields = u.fields := by
    rw [← filterMap_get? t, ← filterMap_get? u, hnames, funext hget]
  cases t
  cases u
  cases hfields
  rfl

theorem get?_add (t : FieldTable) (f : Field) (name : String) :
    (t.add f).get? name =
      (t.get? name).merge learn (if f.name = name then some f else none) :=
  find?_addTo t.fields f name

/-! Methods -/

def said? (m : Method) (name : String) : Option Field :=
  match m.field? with
  | .ok f => if f.name = name then some f else none
  | .error _ => none

theorem record_of_ok {t : FieldTable} {m : Method} {f : Field} (h : m.field? = .ok f) :
    t.record m = t.add f := by
  rw [record, h]

theorem fields_record_of_ok {t : FieldTable} {m : Method} {f : Field} (h : m.field? = .ok f) :
    (t.record m).fields = addTo t.fields f := by
  rw [record_of_ok h]
  rfl

theorem record_of_error {t : FieldTable} {m : Method} {why : Misfit}
    (h : m.field? = .error why) : t.record m = t := by
  rw [record, h]

/-- A method leaves the names as they are or puts a new one behind them. -/
theorem names_record (t : FieldTable) (m : Method) :
    (t.record m).names = t.names ∨
      ∃ f, m.field? = .ok f ∧ f.name ∉ t.names ∧ (t.record m).names = t.names ++ [f.name] := by
  cases h : m.field? with
  | error why => exact .inl (by rw [record_of_error h])
  | ok f =>
    rw [record_of_ok h, names_add]
    split
    · exact .inl rfl
    · rename_i hnew
      exact .inr ⟨f, rfl, hnew, rfl⟩

theorem get?_record (t : FieldTable) (m : Method) (name : String) :
    (t.record m).get? name = (t.get? name).merge learn (said? m name) := by
  cases h : m.field? with
  | error why => simp [record_of_error h, said?, h]
  | ok f => rw [record_of_ok h, get?_add, said?, h]

/-- All fields of a table are as its methods describe them, if filling in a word keeps them so. -/
theorem forall_fields_ofMethods {P : Field → Prop}
    (hlearn : ∀ f later, P f → P later → P (learn f later)) {methods : List Method}
    (h : ∀ m ∈ methods, ∀ f, m.field? = .ok f → P f) : ∀ f ∈ (ofMethods methods).fields, P f := by
  induction methods using List.reverseRecOn with
  | nil => simp [empty]
  | append_singleton methods m ih =>
    have hbefore := ih fun n hn => h n (List.mem_append_left _ hn)
    have hlast := h m (List.mem_append_right _ (List.mem_singleton.2 rfl))
    rw [ofMethods_append_singleton]
    cases hfield : m.field? with
    | error why => rwa [record_of_error hfield]
    | ok f =>
      intro g hg
      rw [fields_record_of_ok hfield] at hg
      rcases mem_addTo hg with rfl | hg | ⟨known, hknown, rfl⟩
      · exact hlast _ hfield
      · exact hbefore g hg
      · exact hlearn known f (hbefore known hknown) (hlast f hfield)

theorem getterWord_ofMethods (methods : List Method) :
    ∀ f ∈ (ofMethods methods).fields, ∀ w, f.getterWord = some w → w = "get" ∨ w = "is" := by
  refine forall_fields_ofMethods (fun f later hf hlater w hw => ?_) fun _ _ _ hfield _ hw =>
    Method.getterWord_of_field? hfield hw
  exact (getterWord_of_learn hw).elim (hf w) (hlater w)

end FieldTable

end BeanForge

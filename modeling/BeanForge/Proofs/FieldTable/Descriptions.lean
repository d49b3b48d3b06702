import BeanForge.Proofs.FieldTable.Lookup
import Mathlib.Data.List.Perm.Basic

/-!
# What methods say about fields

A method describes a field if it is named as an accessor of the field and tells a type. The fields
of a table are those that its methods describe, in the order of their first descriptions. The first
description of a field gives its type and its flag, the first getter that yields a value gives its
word, and nothing else in the methods matters.
-/

namespace BeanForge

open Text

namespace Method

/-- The method is called by the word and the name of the field, in letters of any size. -/
def Names (m : Method) (word : AccessorWord) (name : String) : Prop :=
  ∃ rest, m.name = word.text ++ rest ∧ lower rest = name

def toldType (m : Method) : String :=
  if m.returnsValue then m.returnType else m.parameterTypes.headD ""

/-- An accessor of the field that tells a type. -/
def Describes (m : Method) (name : String) : Prop :=
  (m.returnsValue = true ∨ m.parameterTypes ≠ []) ∧ ∃ word, m.Names word name

def Gets (m : Method) (name : String) : Prop :=
  m.returnsValue = true ∧ ∃ word, (word = .get ∨ word = .is) ∧ m.Names word name

def IsAccepted (m : Method) : Prop :=
  ∃ name, m.Describes name

theorem names_iff {m : Method} {word : AccessorWord} {name : String} :
    m.Names word name ↔ ∃ rest, AccessorWord.split? m.name.toList = some (word, rest) ∧
      lower (String.ofList rest) = name := by
  constructor
  · rintro ⟨rest, hname, hlower⟩
    refine ⟨rest.toList, AccessorWord.split?_eq_some_iff.2 ?_, by rwa [String.ofList_toList]⟩
    rw [hname, String.toList_append]
  · rintro ⟨rest, hsplit, hlower⟩
    refine ⟨String.ofList rest, String.toList_inj.1 ?_, hlower⟩
    rw [AccessorWord.split?_eq_some_iff.1 hsplit, String.toList_append, String.toList_ofList]

theorem exists_names_iff {m : Method} {name : String} :
    (∃ word, m.Names word name) ↔ fieldName? m.name = some name := by
  simp only [names_iff, fieldName?, Option.map_eq_some_iff, Prod.exists]

instance (m : Method) (name : String) : Decidable (m.Describes name) :=
  decidable_of_iff ((m.returnsValue = true ∨ m.parameterTypes ≠ []) ∧ fieldName? m.name = some name)
    (and_congr_right fun _ => exists_names_iff.symm)

theorem gets_iff {m : Method} {name : String} :
    m.Gets name ↔ m.returnsValue = true ∧ AccessorWord.of? m.name ≠ some .set ∧
      fieldName? m.name = some name := by
  refine and_congr_right fun _ => ?_
  simp only [names_iff, fieldName?, AccessorWord.of?]
  cases AccessorWord.split? m.name.toList with
  | none => simp
  | some found =>
    obtain ⟨word, rest⟩ := found
    cases word <;> simp

instance (m : Method) (name : String) : Decidable (m.Gets name) :=
  decidable_of_iff _ gets_iff.symm

instance (m : Method) : Decidable m.IsAccepted :=
  decidable_of_iff ((fieldName? m.name).any fun name => m.Describes name) (by
    simp only [Option.any_eq_true, decide_eq_true_eq]
    exact ⟨fun ⟨name, _, h⟩ => ⟨name, h⟩, fun ⟨name, h⟩ => ⟨name, exists_names_iff.1 h.2, h⟩⟩)

theorem Gets.describes {m : Method} {name : String} (h : m.Gets name) : m.Describes name :=
  ⟨.inl h.1, h.2.imp fun _ hword => hword.2⟩

def word? (m : Method) : Option String :=
  (AccessorWord.of? m.name).map AccessorWord.text

theorem Names.word? {m : Method} {word : AccessorWord} {name : String} (h : m.Names word name) :
    m.word? = some word.text := by
  obtain ⟨rest, hsplit, _⟩ := names_iff.1 h
  rw [Method.word?, AccessorWord.of?, hsplit]
  rfl

theorem describes_of_field? {m : Method} {f : Field} (h : m.field? = .ok f) :
    m.Describes f.name := by
  rw [field?] at h
  split at h
  · cases h
  · rename_i word rest hsplit
    have hnames : m.Names word (lower (String.ofList rest)) := names_iff.2 ⟨rest, hsplit, rfl⟩
    split at h
    · rename_i hvalue
      cases h
      exact ⟨.inl hvalue, word, hnames⟩
    · split at h
      · cases h
      · rename_i hparameters
        cases h
        exact ⟨.inr (by simp [hparameters]), word, hnames⟩

theorem field?_of_describes {m : Method} {name : String} (h : m.Describes name) :
    m.field? = .ok
      { name, typeName := m.toldType, isIdentifier := m.isIdentifier
        getterWord := if m.Gets name then m.word? else none } := by
  obtain ⟨htyped, word, hnames⟩ := h
  obtain ⟨rest, hsplit, hlower⟩ := names_iff.1 hnames
  have hgets : m.Gets name ↔ m.returnsValue = true ∧ word ≠ .set := by
    rw [gets_iff]
    simp [AccessorWord.of?, fieldName?, hsplit, hlower]
  simp only [field?, hsplit, hlower, hgets, hnames.word?, toldType]
  cases hvalue : m.returnsValue with
  | true => cases word <;> simp [AccessorWord.getterText?]
  | false =>
    have hparameters : m.parameterTypes ≠ [] := htyped.resolve_left (by simp [hvalue])
    obtain ⟨first, others, hparameters⟩ := List.exists_cons_of_ne_nil hparameters
    simp [hparameters]

end Method

namespace FieldTable

def described? (methods : List Method) (name : String) : Option Field :=
  (methods.find? (·.Describes name)).map fun first =>
    { name, typeName := first.toldType
      isIdentifier := first.isIdentifier
      getterWord := (methods.find? (·.Gets name)).bind Method.word? }

theorem described?_eq_none_iff {methods : List Method} {name : String} :
    described? methods name = none ↔ ¬∃ m ∈ methods, m.Describes name := by
  simp [described?]

theorem said?_eq_described? (m : Method) (name : String) : said? m name = described? [m] name := by
  by_cases h : m.Describes name
  · have hword : ([m].find? (·.Gets name)).bind Method.word? =
        if m.Gets name then m.word? else none := by
      by_cases hgets : m.Gets name <;> simp [hgets]
    rw [said?, Method.field?_of_describes h, described?, hword]
    simp [h]
  · have hsaid : said? m name = none := by
      rw [said?]
      split
      · rename_i f hf
        exact if_neg fun hname : f.name = name => h (hname ▸ Method.describes_of_field? hf)
      · rfl
    simp [hsaid, described?, h]

theorem find?_gets_of_none {methods : List Method} {name : String}
    (h : methods.find? (·.Describes name) = none) : methods.find? (·.Gets name) = none := by
  simp only [List.find?_eq_none, decide_eq_true_eq] at h ⊢
  exact fun m hm hgets => h m hm hgets.describes

/-- The descriptions of more methods complete those of the first ones. -/
theorem described?_append (methods more : List Method) (name : String) :
    described? (methods ++ more) name =
      (described? methods name).merge learn (described? more name) := by
  cases hfirst : methods.find? (·.Describes name) with
  | none => simp [described?, List.find?_append, hfirst, find?_gets_of_none hfirst]
  | some first =>
    cases hmore : more.find? (·.Describes name) with
    | none => simp [described?, List.find?_append, hfirst, hmore, find?_gets_of_none hmore]
    | some other =>
      cases hgets : methods.find? (·.Gets name) with
      | none => simp [described?, List.find?_append, hfirst, hmore, hgets, learn]
      | some getter =>
        obtain ⟨_, word, _, hword⟩ : getter.Gets name := by simpa using List.find?_some hgets
        simp [described?, List.find?_append, hfirst, hmore, hgets, learn, hword.word?]

theorem get?_ofMethods (methods : List Method) (name : String) :
    (ofMethods methods).get? name = described? methods name := by
  induction methods using List.reverseRecOn with
  | nil => rfl
  | append_singleton methods m ih =>
    rw [ofMethods_append_singleton, get?_record, ih, said?_eq_described?, described?_append]

theorem mem_names_ofMethods {methods : List Method} {name : String} :
    name ∈ (ofMethods methods).names ↔ ∃ m ∈ methods, m.Describes name := by
  rw [← not_iff_not, ← get?_eq_none_iff, get?_ofMethods, described?_eq_none_iff]

/-- What a table says about the methods that it was made from. -/
structure Reflects (methods : List Method) (t : FieldTable) : Prop where
  mem_names_iff : ∀ name, name ∈ t.names ↔ ∃ m ∈ methods, m.Describes name
  ordered : t.names.Pairwise fun a b =>
    methods.findIdx (·.Describes a) < methods.findIdx (·.Describes b)
  typed : ∀ f ∈ t.fields, ∃ first, methods.find? (·.Describes f.name) = some first ∧
    f.typeName = first.toldType ∧ f.isIdentifier = first.isIdentifier
  worded : ∀ f ∈ t.fields,
    match methods.find? (·.Gets f.name) with
    | some getter => ∃ word, getter.Names word f.name ∧ f.getterWord = some word.text
    | none => f.getterWord = none

theorem ordered_ofMethods (methods : List Method) :
    (ofMethods methods).names.Pairwise fun a b =>
      methods.findIdx (·.Describes a) < methods.findIdx (·.Describes b) := by
  induction methods using List.reverseRecOn with
  | nil => exact .nil
  | append_singleton methods m ih =>
    rw [ofMethods_append_singleton]
    have hearly : ∀ a ∈ (ofMethods methods).names,
        methods.findIdx (·.Describes a) < methods.length := fun a ha =>
      List.findIdx_lt_length_of_exists (by simpa using mem_names_ofMethods.1 ha)
    have hsame : ∀ a ∈ (ofMethods methods).names,
        (methods ++ [m]).findIdx (·.Describes a) = methods.findIdx (·.Describes a) :=
      fun a ha => by rw [List.findIdx_append, if_pos (hearly a ha)]
    have hold : (ofMethods methods).names.Pairwise fun a b =>
        (methods ++ [m]).findIdx (·.Describes a) < (methods ++ [m]).findIdx (·.Describes b) :=
      ih.imp_of_mem fun ha hb hlt => by rwa [hsame _ ha, hsame _ hb]
    rcases names_record (ofMethods methods) m with hnames | ⟨f, _, hnew, hnames⟩
    · rwa [hnames]
    · rw [hnames]
      refine List.pairwise_append.2 ⟨hold, List.pairwise_singleton _ _, fun a ha b hb => ?_⟩
      obtain rfl := List.mem_singleton.1 hb
      have hlate : methods.findIdx (·.Describes f.name) = methods.length := by
        rw [List.findIdx_eq_length]
        simpa [mem_names_ofMethods] using hnew
      rw [hsame a ha, List.findIdx_append, hlate, if_neg (Nat.lt_irrefl _)]
      exact Nat.lt_add_left _ (hearly a ha)

theorem reflects_ofMethods (methods : List Method) : Reflects methods (ofMethods methods) := by
  have hdescribed : ∀ f ∈ (ofMethods methods).fields, described? methods f.name = some f :=
    fun f hf => get?_ofMethods methods f.name ▸ get?_of_mem hf
  refine ⟨fun _ => mem_names_ofMethods, ordered_ofMethods methods, fun f hf => ?_, fun f hf => ?_⟩
  · obtain ⟨first, hfirst, hfield⟩ := Option.map_eq_some_iff.1 (hdescribed f hf)
    exact ⟨first, hfirst, by rw [← hfield], by rw [← hfield]⟩
  · obtain ⟨first, _, hfield⟩ := Option.map_eq_some_iff.1 (hdescribed f hf)
    have hword : f.getterWord = (methods.find? (·.Gets f.name)).bind Method.word? := by
      conv_lhs => rw [← hfield]
    rw [hword]
    cases hgets : methods.find? (·.Gets f.name) with
    | none => rfl
    | some getter =>
      obtain ⟨_, word, _, hnames⟩ : getter.Gets f.name := by simpa using List.find?_some hgets
      exact ⟨word, hnames, hnames.word?⟩

theorem Reflects.get?_eq {methods : List Method} {t : FieldTable} (h : Reflects methods t)
    (name : String) : t.get? name = described? methods name := by
  cases hget : t.get? name with
  | none =>
    have hnobody : ¬∃ m ∈ methods, m.Describes name := fun hm =>
      get?_eq_none_iff.1 hget ((h.mem_names_iff name).2 hm)
    exact (described?_eq_none_iff.2 hnobody).symm
  | some f =>
    obtain ⟨hf, rfl⟩ := get?_eq_some_iff.1 hget
    obtain ⟨first, hfirst, htype, hflag⟩ := h.typed f hf
    have hword : (methods.find? (·.Gets f.name)).bind Method.word? = f.getterWord := by
      have hworded := h.worded f hf
      split at hworded
      · rename_i getter hgets
        obtain ⟨word, hnames, hword⟩ := hworded
        rw [hgets, hword]
        exact hnames.word?
      · rename_i hgets
        rw [hgets, hworded]
        rfl
    rw [described?, hfirst, hword, Option.map_some, ← htype, ← hflag]

/-- Names in the order of their first descriptions stand in one order only. -/
theorem Reflects.names_eq {methods : List Method} {t u : FieldTable} (h : Reflects methods t)
    (h' : Reflects methods u) : t.names = u.names := by
  have hperm : t.names.Perm u.names := (List.perm_ext_iff_of_nodup t.distinct u.distinct).2
    fun name => (h.mem_names_iff name).trans (h'.mem_names_iff name).symm
  exact hperm.eq_of_pairwise (fun _ _ _ _ hab hba => absurd hab (Nat.lt_asymm hba))
    h.ordered h'.ordered

theorem Reflects.eq_ofMethods {methods : List Method} {t : FieldTable} (h : Reflects methods t) :
    t = ofMethods methods :=
  ext_of_lookup (h.names_eq (reflects_ofMethods methods)) fun name =>
    (h.get?_eq name).trans (get?_ofMethods methods name).symm

/-! Methods that describe nothing -/

theorem record_of_not_isAccepted {t : FieldTable} {m : Method} (h : ¬m.IsAccepted) :
    t.record m = t := by
  cases hfield : m.field? with
  | error why => exact record_of_error hfield
  | ok f => exact absurd ⟨f.name, Method.describes_of_field? hfield⟩ h

theorem ofMethods_filter_isAccepted (methods : List Method) :
    ofMethods (methods.filter (·.IsAccepted)) = ofMethods methods := by
  rw [ofMethods, List.foldl_filter]
  congr 1
  funext t m
  by_cases h : m.IsAccepted
  · simp [h]
  · simp [h, record_of_not_isAccepted h]

/-! The check of a table -/

def gather (fs : List Field) (m : Method) : List Field :=
  match m.field? with
  | .ok f => addTo fs f
  | .error _ => fs

theorem fields_record (t : FieldTable) (m : Method) : (t.record m).fields = gather t.fields m := by
  cases h : m.field? with
  | error why => rw [record_of_error h, gather, h]
  | ok f => rw [fields_record_of_ok h, gather, h]

theorem fields_ofMethods (methods : List Method) :
    (ofMethods methods).fields = methods.foldl gather [] :=
  (List.foldl_hom fields fun t m => (fields_record t m).symm).symm

theorem repeatedName?_go_of_nodup {seen : List String} {fs : List Field}
    (hnodup : (fs.map Field.name).Nodup) (hseen : ∀ f ∈ fs, f.name ∉ seen) :
    repeatedName?.go seen fs = none := by
  induction fs generalizing seen with
  | nil => rfl
  | cons f rest ih =>
    rw [List.map_cons, List.nodup_cons] at hnodup
    rw [repeatedName?.go, if_neg (hseen f List.mem_cons_self)]
    refine ih hnodup.2 fun g hg => ?_
    rw [List.mem_cons, not_or]
    exact ⟨fun hname => hnodup.1 (List.mem_map.2 ⟨g, hg, hname⟩),
      hseen g (List.mem_cons_of_mem _ hg)⟩

theorem ofFields_of_nodup {fs : List Field} (h : (fs.map Field.name).Nodup) :
    ofFields fs = .ok ⟨fs, h⟩ := by
  have hnone : repeatedName? fs = none := repeatedName?_go_of_nodup h (by simp)
  unfold ofFields
  split
  · rename_i name hname
    rw [hnone] at hname
    cases hname
  · rfl

/-- A table is told exactly by what its methods say: the first description of each field and the
first getter that yields a value. Other methods do not matter, and the fields that are gathered
always pass the check for repeated names. -/
theorem eq_ofMethods_iff_reflects (methods : List Method) :
    (∀ t, t = ofMethods methods ↔ Reflects methods t) ∧
      ofMethods (methods.filter (·.IsAccepted)) = ofMethods methods ∧
      ofFields (methods.foldl gather []) = .ok (ofMethods methods) := by
  refine ⟨fun t => ⟨?_, Reflects.eq_ofMethods⟩, ofMethods_filter_isAccepted methods, ?_⟩
  · rintro rfl
    exact reflects_ofMethods methods
  · rw [← fields_ofMethods]
    exact ofFields_of_nodup (ofMethods methods).distinct

end FieldTable

end BeanForge

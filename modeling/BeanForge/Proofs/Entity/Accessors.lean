import BeanForge.Proofs.Entity.ClassText
import BeanForge.Proofs.FieldTable.Lookup
import BeanForge.Proofs.Text.SmallLetters

/-!
# Accessors of a class

The class of a table declares a getter and a setter for each field. Read as the methods of an
interface, they describe the fields once more: with the same names and types in the same order, and
with the words of the getters that the class declares.
-/

namespace BeanForge

open Text

namespace Text

def IsAscii (s : String) : Prop :=
  ∀ c ∈ s.toList, c.toNat < 128

instance (s : String) : Decidable (IsAscii s) :=
  List.decidableBAll _ s.toList

def IsSmall (s : String) : Prop :=
  ∀ c ∈ s.toList, c.toNat < 128 ∧ c.toLower = c

theorem isSmall_lower {cs : List Char} (h : ∀ c ∈ cs, c.toNat < 128) :
    IsSmall (lower (String.ofList cs)) := by
  intro c hc
  rw [lower, String.toList_ofList, String.toList_ofList, lowerFrom_of_ascii cs false h] at hc
  obtain ⟨d, hd, rfl⟩ := List.mem_map.1 hc
  exact toLower_toLower_of_ascii (h d hd)

/-- A capital at its front is lost again in small letters. -/
theorem lower_capitalized {s : String} (h : IsSmall s) : lower (capitalized s) = s := by
  apply String.toList_inj.1
  rw [capitalized]
  cases hs : s.toList with
  | nil => simp [lower]
  | cons c rest =>
    have hc := h c (hs ▸ List.mem_cons_self)
    have hrest : ∀ d ∈ rest, d.toNat < 128 ∧ d.toLower = d := fun d hd =>
      h d (hs ▸ List.mem_cons_of_mem c hd)
    have hupper : upperChar c = [c.toUpper] := by rw [upperChar, if_pos hc.1]
    have hascii : ∀ d ∈ c.toUpper :: rest, d.toNat < 128 :=
      List.forall_mem_cons.2 ⟨(toLower_toUpper_of_ascii hc.1).1, fun d hd => (hrest d hd).1⟩
    have hsmall : rest.map Char.toLower = rest :=
      (List.map_congr_left fun d hd => (hrest d hd).2).trans (List.map_id' rest)
    simp only [hupper, List.singleton_append, lower, String.toList_ofList]
    rw [lowerFrom_of_ascii _ false hascii, List.map_cons, hsmall,
      (toLower_toUpper_of_ascii hc.1).2, hc.2]

end Text

/-! The methods -/

namespace Field

def getter (f : Field) : Method where
  name := f.getterName
  returnType := f.typeName

def setter (f : Field) : Method where
  name := f.setterName
  parameterTypes := [f.typeName]

def accessWord (f : Field) : String :=
  f.getterWord.getD (if f.typeName = "boolean" then "is" else "get")

def isValued (f : Field) : Bool :=
  f.typeName != "" && f.typeName != voidType

def bare (f : Field) : Field where
  name := f.name
  typeName := f.typeName

/-- The field as both accessors describe it; a getter that yields no value describes none. -/
def described (f : Field) : Field :=
  { f.bare with getterWord := if f.isValued then some f.accessWord else none }

/-- What the tables of methods with ASCII names hold. -/
structure IsPlain (f : Field) : Prop where
  small : IsSmall f.name
  word : ∀ w, f.getterWord = some w → w = "get" ∨ w = "is"

theorem accessWord_eq {f : Field} (h : f.IsPlain) : f.accessWord = "get" ∨ f.accessWord = "is" := by
  rw [accessWord]
  cases hw : f.getterWord with
  | none =>
    rw [Option.getD_none]
    split
    · exact .inr rfl
    · exact .inl rfl
  | some w => exact h.word w hw

theorem getterName_eq (f : Field) : f.getterName = f.accessWord ++ capitalized f.name := rfl

/-- The name of a getter falls into its word and the name of the field. -/
theorem split?_getterName {f : Field} (h : f.IsPlain) :
    ∃ word, AccessorWord.split? f.getterName.toList = some (word, (capitalized f.name).toList) ∧
      word.getterText? = some f.accessWord := by
  rw [getterName_eq, String.toList_append]
  rcases accessWord_eq h with hw | hw
  · exact ⟨.get, by rw [hw]; rfl, by rw [hw]; rfl⟩
  · exact ⟨.is, by rw [hw]; rfl, by rw [hw]; rfl⟩

theorem field?_getter {f : Field} (h : f.IsPlain) :
    f.getter.field? = if f.isValued then .ok f.described else .error .noParameter := by
  obtain ⟨word, hsplit, htext⟩ := split?_getterName h
  have hname : lower (String.ofList (capitalized f.name).toList) = f.name := by
    rw [String.ofList_toList, lower_capitalized h.small]
  have hvalued : f.getter.returnsValue = f.isValued := rfl
  simp only [Method.field?, getter] at hvalued ⊢
  rw [hsplit]
  simp only [hname, hvalued, htext, described, bare]
  split <;> rfl

theorem field?_setter {f : Field} (h : IsSmall f.name) :
    f.setter.field? = .ok f.bare := by
  have hsplit : AccessorWord.split? f.setterName.toList =
      some (.set, (capitalized f.name).toList) := by
    rw [setterName, String.toList_append]
    rfl
  have hname : lower (String.ofList (capitalized f.name).toList) = f.name := by
    rw [String.ofList_toList, lower_capitalized h]
  simp only [Method.field?, setter, hsplit, hname]
  rfl

end Field

namespace FieldTable

def accessors (t : FieldTable) : List Method :=
  t.fields.flatMap fun f => [f.getter, f.setter]

/-! What a table of ASCII names holds -/

theorem mem_of_split? {cs rest : List Char} {word : AccessorWord} {c : Char}
    (h : AccessorWord.split? cs = some (word, rest)) (hc : c ∈ rest) : c ∈ cs := by
  rw [AccessorWord.split?_eq_some_iff.1 h]
  exact List.mem_append_right _ hc

theorem isPlain_of_field? {m : Method} {f : Field} (h : m.field? = .ok f) (hm : IsAscii m.name) :
    f.IsPlain := by
  obtain ⟨word, rest, hsplit, hname⟩ := Method.name_of_field? h
  refine ⟨?_, fun w hw => Method.getterWord_of_field? h hw⟩
  rw [hname]
  exact isSmall_lower fun c hc => hm c (mem_of_split? hsplit hc)

theorem isPlain_learn {f later : Field} (hf : f.IsPlain) (hlater : later.IsPlain) :
    (learn f later).IsPlain :=
  ⟨hf.small, fun w hw => (getterWord_of_learn hw).elim (hf.word w) (hlater.word w)⟩

theorem isPlain_ofMethods {methods : List Method} (h : ∀ m ∈ methods, IsAscii m.name) :
    ∀ f ∈ (ofMethods methods).fields, f.IsPlain :=
  forall_fields_ofMethods (fun _ _ hf hlater => isPlain_learn hf hlater)
    fun m hm _ hfield => isPlain_of_field? hfield (h m hm)

/-! The table once more -/

/-- A getter and a setter add the field that they describe. -/
theorem fields_record_accessors {t : FieldTable} {f : Field} (hf : f.IsPlain)
    (hnew : f.name ∉ t.names) :
    ((t.record f.getter).record f.setter).fields = t.fields ++ [f.described] := by
  have hsetter := Field.field?_setter hf.small
  have hgetter := Field.field?_getter hf
  have hdescribed : f.described.name ∉ t.fields.map Field.name := hnew
  have hbare : f.bare.name ∉ t.fields.map Field.name := hnew
  split at hgetter
  · rename_i hvalued
    rw [fields_record_of_ok hsetter, fields_record_of_ok hgetter, addTo_of_not_mem hdescribed,
      addTo_append_last hdescribed (f := f.bare) rfl]
    simp [learn, Field.described, Field.bare]
  · rename_i hvalued
    rw [record_of_error hgetter, fields_record_of_ok hsetter, addTo_of_not_mem hbare]
    simp [Field.described, Field.bare, hvalued]

theorem fields_foldl_accessors {fs : List Field} (t : FieldTable)
    (hplain : ∀ f ∈ fs, f.IsPlain) (hnodup : (t.names ++ fs.map Field.name).Nodup) :
    ((fs.flatMap fun f => [f.getter, f.setter]).foldl record t).fields =
      t.fields ++ fs.map Field.described := by
  induction fs generalizing t with
  | nil => simp
  | cons f rest ih =>
    have hnew : f.name ∉ t.names := fun hmem =>
      List.disjoint_of_nodup_append hnodup hmem List.mem_cons_self
    have hstep := fields_record_accessors (hplain f List.mem_cons_self) hnew
    have hnames : ((t.record f.getter).record f.setter).names = t.names ++ [f.name] := by
      simp [names, hstep, Field.described, Field.bare]
    have hrest := ih ((t.record f.getter).record f.setter)
      (fun g hg => hplain g (List.mem_cons_of_mem _ hg))
      (by rw [hnames, List.append_assoc]; exact hnodup)
    rw [List.flatMap_cons, List.foldl_append, List.map_cons]
    exact hrest.trans (by rw [hstep, List.append_assoc]; rfl)

theorem fields_ofMethods_accessors {t : FieldTable} (h : ∀ f ∈ t.fields, f.IsPlain) :
    (ofMethods t.accessors).fields = t.fields.map Field.described :=
  fields_foldl_accessors empty h t.distinct

/-- The class of an interface has the field model of the interface. -/
theorem ofMethods_accessors (methods : List Method) (h : ∀ m ∈ methods, IsAscii m.name) :
    (ofMethods (ofMethods methods).accessors).fields.map (fun f => (f.name, f.typeName)) =
        (ofMethods methods).fields.map (fun f => (f.name, f.typeName)) ∧
      ∀ f ∈ (ofMethods methods).fields, f.typeName ≠ "" → f.typeName ≠ voidType →
        ∃ g, (ofMethods (ofMethods methods).accessors).get? f.name = some g ∧
          g.getterWord = (f.getterWord <|> some (if f.typeName = "boolean" then "is" else "get")) := by
  have hfields := fields_ofMethods_accessors (isPlain_ofMethods h)
  refine ⟨by rw [hfields, List.map_map]; rfl, fun f hf hempty hvoid => ?_⟩
  have hmem : f.described ∈ (ofMethods (ofMethods methods).accessors).fields :=
    hfields ▸ List.mem_map_of_mem hf
  refine ⟨f.described, get?_of_mem hmem, ?_⟩
  have hvalued : f.isValued = true := by simp [Field.isValued, hempty, hvoid]
  rw [Field.described, if_pos hvalued, Field.accessWord]
  cases f.getterWord <;> rfl

/-- Fields named like accessors, a flag that is only set, and fields without a name or a value. -/
def oddMethods : List Method :=
  [{ name := "getGetter", returnType := "int" },
    { name := "setOpen", parameterTypes := ["boolean"] },
    { name := "is", returnType := "Key[]" }, { name := "setVoid", parameterTypes := ["void"] },
    { name := "setGETTER", parameterTypes := ["long"] }]

theorem ofMethods_accessors_of_odd_names :
    (∀ m ∈ oddMethods, IsAscii m.name) ∧
      (ofMethods (ofMethods oddMethods).accessors).fields.map (fun f => (f.name, f.typeName)) =
        [("getter", "int"), ("open", "boolean"), ("", "Key[]"), ("void", "void")] ∧
      ∃ g, (ofMethods (ofMethods oddMethods).accessors).get? "open" = some g ∧
        g.getterWord = some "is" := by
  have h : ∀ m ∈ oddMethods, IsAscii m.name := by decide
  obtain ⟨hfields, hwords⟩ := ofMethods_accessors oddMethods h
  have hopen : ⟨"open", "boolean", false, none⟩ ∈ (ofMethods oddMethods).fields := by decide
  exact ⟨h, hfields.trans rfl, hwords _ hopen (by decide) (by decide)⟩

end FieldTable

end BeanForge

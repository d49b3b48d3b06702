import BeanForge.Proofs.Discovery.Findings
import BeanForge.Proofs.FieldTable.Descriptions

/-!
# Kinds of types

A type has values of a primitive, arrays or other objects, and the generated class compares,
hashes and shows a field accordingly. It knows the type by its name only. The last character of the
name and the names of the primitives tell the kind that the structure of the type gives, so the
comparison and the hash of a field are always made for the same kind.
-/

namespace BeanForge

open Source Discovery

/-! Kinds -/

/-- What the values of a type are, as far as a class treats them differently. -/
inductive TypeKind where
  | primitive (type : Primitive)
  | array
  | object
  deriving Repr, DecidableEq

namespace TypeKind

def className : TypeKind → String
  | primitive type => type.wrapper
  | array => "java.util.Arrays"
  | object => "java.util.Objects"

def isPlain : TypeKind → Bool
  | primitive type => !type.isFloating
  | array | object => false

def comparison (kind : TypeKind) (mine theirs : String) : String :=
  match kind with
  | primitive _ => kind.className ++ ".compare(" ++ mine ++ ", " ++ theirs ++ ") == 0"
  | array | object => kind.className ++ ".equals(" ++ mine ++ ", " ++ theirs ++ ")"

def equality (kind : TypeKind) (mine theirs : String) : String :=
  if kind.isPlain then mine ++ " == " ++ theirs else kind.comparison mine theirs

def hash (kind : TypeKind) (mine : String) : String :=
  kind.className ++ ".hashCode(" ++ mine ++ ")"

def display (kind : TypeKind) (mine : String) : String :=
  match kind with
  | array => kind.className ++ ".toString(" ++ mine ++ ")"
  | primitive _ | object => mine

def initial : TypeKind → String
  | primitive type => type.initial
  | array | object => "null"

theorem className_injective {k l : TypeKind} (h : k.className = l.className) : k = l := by
  cases k with
  | primitive p =>
    cases l with
    | primitive q => revert h; cases p <;> cases q <;> decide
    | array | object => revert h; cases p <;> decide
  | array | object =>
    cases l with
    | primitive q => revert h; cases q <;> decide
    | array | object => revert h; decide

/-- A hash tells the kind that it is made for. -/
theorem eq_of_hash_eq {k l : TypeKind} {mine : String} (h : k.hash mine = l.hash mine) : k = l := by
  simp only [hash, String.append_left_inj] at h
  exact className_injective h

/-- Only comparisons of primitives end in a number. -/
theorem getLast?_comparison (k : TypeKind) (mine theirs : String) :
    (k.comparison mine theirs).toList.getLast? =
      some (match k with | primitive _ => '0' | array | object => ')') := by
  have hnumber : ") == 0".toList ≠ [] := by decide
  have hclose : ")".toList ≠ [] := by decide
  cases k with
  | primitive p =>
    rw [comparison, String.toList_append, List.getLast?_append_of_ne_nil _ hnumber]
    rfl
  | array | object =>
    rw [comparison, String.toList_append, List.getLast?_append_of_ne_nil _ hclose]
    rfl

theorem eq_of_comparison_eq {k l : TypeKind} {mine theirs : String}
    (h : k.comparison mine theirs = l.comparison mine theirs) : k = l := by
  have hlast := congrArg (fun text => text.toList.getLast?) h
  simp only [getLast?_comparison] at hlast
  cases k with
  | primitive p =>
    cases l with
    | primitive q =>
      simp only [comparison, String.append_left_inj] at h
      exact className_injective h
    | array | object => simp at hlast
  | array | object =>
    cases l with
    | primitive q => simp at hlast
    | array | object => exact className_injective (by simp_all [comparison])

/-- No class is named as an object refers to itself. -/
theorem comparison_ne_this (k : TypeKind) (mine theirs rest : String) :
    k.comparison mine theirs ≠ "this" ++ rest := by
  intro h
  cases k with
  | primitive p =>
    cases p <;> simp [comparison, className, Primitive.wrapper, ← String.toList_inj] at h
  | array | object => simp [comparison, className, ← String.toList_inj] at h

/-- Apart from values that `==` compares, a comparison tells the kind that it is made for. -/
theorem eq_or_isPlain_of_equality_eq {k l : TypeKind} {rest theirs : String}
    (h : k.equality ("this" ++ rest) theirs = l.equality ("this" ++ rest) theirs) :
    k = l ∨ k.isPlain = true ∧ l.isPlain = true := by
  by_cases hk : k.isPlain = true <;> by_cases hl : l.isPlain = true
  · exact .inr ⟨hk, hl⟩
  · simp only [equality, if_pos hk, if_neg hl, String.append_assoc] at h
    exact absurd h.symm (comparison_ne_this l _ theirs _)
  · simp only [equality, if_neg hk, if_pos hl, String.append_assoc] at h
    exact absurd h (comparison_ne_this k _ theirs _)
  · simp only [equality, if_neg hk, if_neg hl] at h
    exact .inl (eq_of_comparison_eq h)

theorem display_eq_display_array_iff {k : TypeKind} {mine : String} :
    k.display mine = array.display mine ↔ k = array := by
  have hlonger : mine ≠ array.display mine := by
    intro h
    have hlength := congrArg String.length h
    simp only [display, className, String.length_append] at hlength
    have hclass : "java.util.Arrays".length = 16 := by decide
    omega
  cases k with
  | array => simp
  | primitive p => simpa [display] using hlonger
  | object => simpa [display] using hlonger

theorem initial_eq_null_iff {k : TypeKind} :
    k.initial = "null" ↔ ∀ type, k ≠ primitive type := by
  cases k with
  | primitive p => cases p <;> simp [initial, Primitive.initial]
  | array | object => simp [initial]

def named (typeName : String) : TypeKind :=
  match Primitive.named? typeName with
  | some type => primitive type
  | none => if isArrayType typeName then array else object

end TypeKind

/-! Fields by kind -/

namespace Primitive

theorem isArrayType_typeName (p : Primitive) : isArrayType p.typeName = false := by
  cases p <;> decide

theorem named?_eq_some_iff {typeName : String} {p : Primitive} :
    named? typeName = some p ↔ typeName = p.typeName := by
  constructor
  · intro h
    have hname : p.typeName = typeName := by simpa using List.find?_some h
    exact hname.symm
  · rintro rfl
    cases p <;> decide

theorem typeName_injective {p q : Primitive} (h : p.typeName = q.typeName) : p = q := by
  revert h
  cases p <;> cases q <;> decide

theorem not_isIdentifier_typeName (p : Primitive) : isIdentifier p.typeName = false := by
  cases p <;> decide

/-- The name of a primitive holds nothing that names are put together with. -/
theorem not_mem_typeName (p : Primitive) : '.' ∉ p.typeName.toList ∧ '<' ∉ p.typeName.toList := by
  cases p <;> decide

end Primitive

namespace Field

/-- The generated class treats a field as values of a kind, and its comparison and its hash are
not made for different kinds. -/
structure TreatedAs (f : Field) (kind : TypeKind) : Prop where
  equality : ∀ other, f.equality other = kind.equality (f.access "this") (f.access other)
  hash : f.hash = kind.hash (f.access "this")
  alike : ∀ (other : String) (k l : TypeKind),
    f.equality other = k.equality (f.access "this") (f.access other) →
      f.hash = l.hash (f.access "this") → k = l ∨ k.isPlain = true ∧ l.isPlain = true
  display : f.display = kind.display (f.access "this")
  shown_as_array : f.display = TypeKind.array.display (f.access "this") ↔ kind = .array
  initial : initialValue f.typeName = kind.initial
  initially_null : initialValue f.typeName = "null" ↔ ∀ type, kind ≠ .primitive type

theorem equality_eq (f : Field) (other : String) : f.equality other =
    (TypeKind.named f.typeName).equality (f.access "this") (f.access other) := by
  rw [Field.equality, TypeKind.named]
  cases Primitive.named? f.typeName with
  | some p => cases p <;> rfl
  | none => cases isArrayType f.typeName <;> rfl

theorem hash_eq (f : Field) : f.hash = (TypeKind.named f.typeName).hash (f.access "this") := by
  rw [Field.hash, TypeKind.named]
  cases Primitive.named? f.typeName with
  | some p => rfl
  | none => cases isArrayType f.typeName <;> rfl

/-- Only the last character is asked, which no primitive shares with an array. -/
theorem display_eq (f : Field) :
    f.display = (TypeKind.named f.typeName).display (f.access "this") := by
  rw [Field.display, TypeKind.named]
  cases hp : Primitive.named? f.typeName with
  | some p =>
    rw [Primitive.named?_eq_some_iff.1 hp, p.isArrayType_typeName]
    rfl
  | none => cases isArrayType f.typeName <;> rfl

theorem initialValue_eq (typeName : String) :
    initialValue typeName = (TypeKind.named typeName).initial := by
  rw [initialValue, TypeKind.named]
  cases Primitive.named? typeName with
  | some p => rfl
  | none => cases isArrayType typeName <;> rfl

theorem treatedAs_named (f : Field) : f.TreatedAs (TypeKind.named f.typeName) := by
  refine
    { equality := f.equality_eq
      hash := f.hash_eq
      alike := fun other k l hequality hhash => ?_
      display := f.display_eq
      shown_as_array := by rw [f.display_eq, TypeKind.display_eq_display_array_iff]
      initial := initialValue_eq f.typeName
      initially_null := by rw [initialValue_eq, TypeKind.initial_eq_null_iff] }
  have hl : TypeKind.named f.typeName = l := TypeKind.eq_of_hash_eq (f.hash_eq.symm.trans hhash)
  have hsame := (f.equality_eq other).symm.trans hequality
  -- Every comparison begins with an access of the object itself.
  rw [hl, Field.access, String.append_assoc] at hsame
  obtain rfl | ⟨hlplain, hkplain⟩ := TypeKind.eq_or_isPlain_of_equality_eq hsame
  · exact .inl rfl
  · exact .inr ⟨hkplain, hlplain⟩

end Field

/-! Names of types -/

theorem isArrayType_append {s t : String} (h : t ≠ "") : isArrayType (s ++ t) = isArrayType t := by
  have hne : t.toList ≠ [] := fun hnil => h (String.toList_inj.1 hnil)
  rw [isArrayType, isArrayType, String.toList_append, List.getLast?_append_of_ne_nil _ hne]

theorem isArrayType_append_brackets (s : String) (n : Nat) :
    isArrayType (s ++ TypeTree.brackets n) = (isArrayType s || decide (0 < n)) := by
  induction n generalizing s with
  | zero => simp [TypeTree.brackets]
  | succ n ih =>
    have hpair : isArrayType (s ++ "[]") = true := isArrayType_append (by decide)
    rw [TypeTree.brackets, ← String.append_assoc, ih, hpair]
    simp

theorem isArrayType_of_isIdentifier {word : String} (h : isIdentifier word = true) :
    isArrayType word = false := by
  rw [isArrayType, beq_eq_false_iff_ne]
  intro hlast
  exact absurd (continues_of_isIdentifier h (List.mem_of_getLast? hlast)) (by decide)

namespace Source

theorem isArrayType_linkName {link : TypeLink} (h : link.Spelled) :
    isArrayType (TypeTree.linkName link) = false := by
  obtain ⟨name, arguments, dimensions⟩ := link
  cases arguments with
  | nil => exact isArrayType_of_isIdentifier h.1
  | cons argument rest => exact isArrayType_append (by decide)

theorem isArrayType_linksName {links : List TypeLink} (h : LinksSpelled links) :
    isArrayType (TypeTree.linksName links) = false := by
  induction links with
  | nil => decide
  | cons link rest ih =>
    cases rest with
    | nil => exact isArrayType_linkName h.1
    | cons next more =>
      show isArrayType (TypeTree.linkName link ++ "." ++ TypeTree.linksName (next :: more)) = false
      by_cases hempty : TypeTree.linksName (next :: more) = ""
      · rw [hempty, String.append_empty]
        exact isArrayType_append (by decide)
      · rw [isArrayType_append hempty]
        exact ih h.2

/-- No chain of names reads like a primitive: one name alone is an identifier, and all else holds a
dot or an angle bracket. -/
theorem linksName_ne_typeName {links : List TypeLink} (h : LinksSpelled links) (p : Primitive) :
    TypeTree.linksName links ≠ p.typeName := by
  intro heq
  obtain ⟨hdot, hangle⟩ := p.not_mem_typeName
  rw [← heq] at hdot hangle
  match links, h with
  | [], _ =>
    have hempty : "" = p.typeName := heq
    revert hempty
    cases p <;> decide
  | [.mk name [] _], h =>
    have hname : isIdentifier p.typeName = true := heq ▸ h.1.1
    rw [p.not_isIdentifier_typeName] at hname
    cases hname
  | [.mk name (argument :: rest) _], _ =>
    exact hangle (by simp [TypeTree.linksName, TypeTree.linkName])
  | link :: next :: rest, _ =>
    exact hdot (by simp [TypeTree.linksName])

namespace TypeTree

def stem : TypeTree → String
  | basic type _ => type.typeName
  | reference links => linksName links

theorem name_eq_stem (t : TypeTree) : t.name = t.stem ++ brackets t.dimensions := by
  cases t <;> rfl

theorem brackets_add_one (n : Nat) : brackets (n + 1) = brackets n ++ "[]" := by
  induction n with
  | zero => rfl
  | succ n ih => rw [brackets, ih, ← String.append_assoc, ← brackets, ih]

theorem Spelled.isArrayType_stem {t : TypeTree} (h : t.Spelled) : isArrayType t.stem = false := by
  cases t with
  | basic type dimensions => exact type.isArrayType_typeName
  | reference links => exact isArrayType_linksName h

end TypeTree

namespace Parameter

/-- All dimensions of what is given for a parameter; any number of values are an array of them. -/
def dimensions (p : Parameter) : Nat :=
  p.type.dimensions + if p.isVariadic then 1 else 0

def kind (p : Parameter) : TypeKind :=
  if 0 < p.dimensions then .array
  else match p.type with
    | .basic type _ => .primitive type
    | .reference _ => .object

theorem dimensions_eq_zero_iff {p : Parameter} :
    p.dimensions = 0 ↔ p.type.dimensions = 0 ∧ p.isVariadic = false := by
  cases h : p.isVariadic <;> simp [dimensions, h]

theorem parameterType_eq (p : Parameter) :
    parameterType p = p.type.stem ++ TypeTree.brackets p.dimensions := by
  rw [parameterType, TypeTree.name_eq_stem, dimensions]
  cases p.isVariadic with
  | false => simp
  | true => simp [TypeTree.brackets_add_one, String.append_assoc]

theorem isArrayType_parameterType {p : Parameter} (h : p.type.Spelled) :
    isArrayType (parameterType p) = decide (0 < p.dimensions) := by
  rw [parameterType_eq, isArrayType_append_brackets, h.isArrayType_stem, Bool.false_or]

/-- Only a primitive without dimensions is named as one. -/
theorem named?_parameterType {p : Parameter} (h : p.type.Spelled) {type : Primitive} :
    Primitive.named? (parameterType p) = some type ↔
      p.type = .basic type 0 ∧ p.isVariadic = false := by
  rw [Primitive.named?_eq_some_iff]
  constructor
  · intro hname
    have hflat : p.dimensions = 0 := by
      have harray := isArrayType_parameterType h
      rw [hname, type.isArrayType_typeName] at harray
      exact Nat.eq_zero_of_not_pos (of_decide_eq_false harray.symm)
    rw [parameterType_eq, hflat, TypeTree.brackets, String.append_empty] at hname
    obtain ⟨htree, hsingle⟩ := dimensions_eq_zero_iff.1 hflat
    refine ⟨?_, hsingle⟩
    cases hp : p.type with
    | basic other count =>
      rw [hp] at htree hname
      obtain rfl : count = 0 := htree
      obtain rfl : other = type := Primitive.typeName_injective hname
      rfl
    | reference links =>
      rw [hp] at h hname
      exact absurd hname (linksName_ne_typeName h type)
  · rintro ⟨htype, hsingle⟩
    simp [parameterType, htype, hsingle, TypeTree.name, TypeTree.brackets]

theorem named_parameterType {p : Parameter} (h : p.type.Spelled) :
    TypeKind.named (parameterType p) = p.kind := by
  have harray := isArrayType_parameterType h
  rw [TypeKind.named, kind]
  by_cases hdimensions : 0 < p.dimensions
  · cases hnamed : Primitive.named? (parameterType p) with
    | some type =>
      rw [Primitive.named?_eq_some_iff.1 hnamed, type.isArrayType_typeName] at harray
      exact absurd hdimensions (of_decide_eq_false harray.symm)
    | none => simp [harray, hdimensions]
  · have hflat := dimensions_eq_zero_iff.1 (Nat.eq_zero_of_not_pos hdimensions)
    obtain ⟨htree, hsingle⟩ := hflat
    cases hp : p.type with
    | basic type count =>
      rw [hp] at htree
      obtain rfl : count = 0 := htree
      simp [(named?_parameterType h).2 ⟨hp, hsingle⟩, hdimensions]
    | reference links =>
      have hnone : Primitive.named? (parameterType p) = none := by
        rw [Option.eq_none_iff_forall_ne_some]
        intro type hnamed
        rw [((named?_parameterType h).1 hnamed).1] at hp
        cases hp
      simp [hnone, harray, hdimensions]

/-- The name of what is given for a parameter tells what the structure of its type tells, and a
field of that type is treated so. -/
structure ToldByName (p : Parameter) : Prop where
  array : isArrayType (parameterType p) = true ↔ 0 < p.dimensions
  primitive : ∀ type, Primitive.named? (parameterType p) = some type ↔
    p.type = .basic type 0 ∧ p.isVariadic = false
  treated : ∀ f : Field, f.typeName = parameterType p → f.TreatedAs p.kind

theorem toldByName_of_spelled {p : Parameter} (h : p.type.Spelled) : p.ToldByName where
  array := by rw [isArrayType_parameterType h, decide_eq_true_eq]
  primitive _ := named?_parameterType h
  treated f hname := by
    rw [← named_parameterType h, ← hname]
    exact f.treatedAs_named

end Parameter

end Source

/-! Types that are found -/

namespace Source.MethodDeclaration

/-- A method returns values of a type, which are single ones, or takes it as a parameter. -/
def Mentions (m : MethodDeclaration) (p : Parameter) : Prop :=
  (m.returnType = some p.type ∧ p.isVariadic = false) ∨ p ∈ m.parameters

theorem Spelled.of_mentions {m : MethodDeclaration} (hm : m.Spelled) {p : Parameter}
    (h : m.Mentions p) : p.type.Spelled := by
  obtain ⟨hreturn, _⟩ | hparameter := h
  · exact hm.returns p.type hreturn
  · exact hm.parameters p hparameter

end Source.MethodDeclaration

namespace Discovery

/-- What a method tells about the type of its field names a type that it mentions. -/
theorem toldType_method {marker name : String} {m : MethodDeclaration}
    (h : (method marker m).Describes name) :
    ∃ p, m.Mentions p ∧ (method marker m).toldType = parameterType p := by
  rw [Method.toldType]
  split
  · rename_i hvalue
    cases htype : m.returnType with
    | none => simp [Method.returnsValue, method, htype] at hvalue
    | some type =>
      refine ⟨⟨type, false⟩, .inl ⟨htype, rfl⟩, ?_⟩
      simp [method, htype, parameterType]
  · rename_i hvalue
    have hparameters : (method marker m).parameterTypes ≠ [] := h.1.resolve_left hvalue
    obtain ⟨first, rest, hfirst⟩ := List.exists_cons_of_ne_nil hparameters
    have hmem : first ∈ (method marker m).parameterTypes := hfirst ▸ List.mem_cons_self
    obtain ⟨p, hp, rfl⟩ := List.mem_map.1 hmem
    exact ⟨p, .inr hp, by rw [hfirst]; rfl⟩

/-- The fields of an interface that was found have types that its source mentions. -/
theorem exists_mentions_of_mem_fields {marker : String} {source : Option String}
    {u : CompilationUnit} {i : Interface} (hi : i ∈ interfaces marker source u) :
    ∀ f ∈ i.entity.table.fields, ∃ d ∈ u.declarations, ∃ m ∈ d.methods, ∃ p, m.Mentions p ∧
      f.typeName = parameterType p := by
  obtain ⟨d, hd, hinterface⟩ := List.mem_filterMap.1 hi
  rw [interface?] at hinterface
  split at hinterface
  · cases hinterface
    intro f hf
    obtain ⟨first, hfirst, htype, _⟩ := (FieldTable.reflects_ofMethods _).typed f hf
    have hdescribes : first.Describes f.name := by simpa using List.find?_some hfirst
    obtain ⟨m, hm, rfl⟩ := List.mem_map.1 (List.mem_of_find?_eq_some hfirst)
    obtain ⟨p, hp, htold⟩ := toldType_method hdescribes
    exact ⟨d, hd, m, hm, p, hp, htype.trans htold⟩
  · cases hinterface

/-- Types whose names are identifiers are told by their names. A source mentions no other types,
and all fields that are found in it are treated as the structure of their types asks for. -/
theorem types_told_by_name :
    (∀ p : Parameter, p.type.Spelled → p.ToldByName) ∧
    ∀ text u, compilationUnit text = .ok u →
      (∀ d ∈ u.declarations, ∀ m ∈ d.methods, ∀ p, m.Mentions p → p.type.Spelled) ∧
      ∀ marker source, ∀ i ∈ interfaces marker source u, ∀ f ∈ i.entity.table.fields,
        ∃ d ∈ u.declarations, ∃ m ∈ d.methods, ∃ p, m.Mentions p ∧
          f.typeName = parameterType p ∧ f.TreatedAs p.kind := by
  refine ⟨fun _ => Parameter.toldByName_of_spelled, fun text u hunit => ?_⟩
  have hspelled : ∀ d ∈ u.declarations, ∀ m ∈ d.methods, ∀ p, m.Mentions p → p.type.Spelled :=
    fun d hd m hm _ hp => (spelled_of_compilationUnit hunit d hd m hm).of_mentions hp
  refine ⟨hspelled, fun marker source i hi f hf => ?_⟩
  obtain ⟨d, hd, m, hm, p, hp, htype⟩ := exists_mentions_of_mem_fields hi f hf
  have htold := Parameter.toldByName_of_spelled (hspelled d hd m hm p hp)
  exact ⟨d, hd, m, hm, p, hp, htype, htold.treated f htype⟩

theorem types_told_by_name_of_nested_arrays :
    let rows : Parameter := ⟨.reference [.mk "util" [] 0, .mk "Map"
      [.exactly (.basic .int 1), .extending (.reference [.mk "T" [] 0])] 2], true⟩
    let text := "@GenerateEntity interface Grid \x7b List<int[]> getRows(); void setSize(long n); \x7d"
    (rows.type.Spelled ∧ rows.ToldByName) ∧
    ∃ u, compilationUnit text = .ok u ∧
      (∀ d ∈ u.declarations, ∀ m ∈ d.methods, ∀ p, m.Mentions p → p.type.Spelled) ∧
      (interfaces "GenerateEntity" none u).map (fun i => i.entity.table.fields.map Field.typeName) =
        [["List<int[]>", "long"]] ∧
      ∀ i ∈ interfaces "GenerateEntity" none u, ∀ f ∈ i.entity.table.fields,
        ∃ d ∈ u.declarations, ∃ m ∈ d.methods, ∃ p, m.Mentions p ∧
          f.typeName = parameterType p ∧ f.TreatedAs p.kind := by
  intro rows text
  have hrows : rows.type.Spelled := by
    refine ⟨⟨by decide, trivial⟩, ⟨by decide, trivial, ?_, trivial⟩, trivial⟩
    exact ⟨⟨by decide, trivial⟩, trivial⟩
  have hfields : (compilationUnit text).map (fun u => (interfaces "GenerateEntity" none u).map
      fun i => i.entity.table.fields.map Field.typeName) = .ok [["List<int[]>", "long"]] := by
    decide +kernel
  obtain ⟨htold, hfound⟩ := types_told_by_name
  refine ⟨⟨hrows, htold rows hrows⟩, ?_⟩
  cases hunit : compilationUnit text with
  | error rejection =>
    rw [hunit] at hfields
    cases hfields
  | ok u =>
    rw [hunit] at hfields
    obtain ⟨hspelled, htyped⟩ := hfound text u hunit
    exact ⟨u, rfl, hspelled, Except.ok.inj hfields, htyped "GenerateEntity" none⟩

end Discovery

end BeanForge

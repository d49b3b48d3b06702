import BeanForge.Discovery
import BeanForge.Proofs.Source.Declarations
import BeanForge.Proofs.Source.Lexing

/-!
# Discovery in written sources

From any layout of a written source its marked interfaces are found again, in order, with all their
methods, types and flags.
-/

namespace BeanForge.Discovery

open Text Source Written

/-! Units -/

theorem compilationUnit_of_laidOut {text : String} {cs : List Char} {s : Written.File}
    (hcs : undoEscapes [] text.toList = .ok cs) (h : LaidOut s.lexemes cs) :
    compilationUnit text = .ok s.unit := by
  obtain ⟨ts, hts, hspells⟩ := tokens_of_laidOut hcs h
  have hroom : s.lexemes.length ≤ 4 * ts.length + 6 + 2 := by
    rw [hspells.length_eq]
    omega
  have hfits : ∀ i ∈ s.interfaces, ∀ m ∈ i.methods, Grammar.Method.Fits m (4 * ts.length + 6 + 2) :=
    fun i hi m hm => Grammar.fits_of_source s hroom hi hm
  obtain ⟨rest, hheader, hrest⟩ := (Grammar.leaves_header s (4 * ts.length + 6)).run hspells
  obtain ⟨_, hdeclarations, _⟩ := (Grammar.reads_declarations s.interfaces hfits).leaves.run hrest
  have hlevel : Grammar.levelFor ts = Grammar.level (4 * ts.length + 6 + 2) := rfl
  simp only [compilationUnit, hts, hlevel, hheader, hdeclarations, Except.mapError, bind,
    Except.bind, pure, Except.pure]
  rfl

/-! Markers -/

theorem dottedText_cons_cons (first second : Name) (rest : List Name) :
    (dottedText (first :: second :: rest)).toList =
      first.text.toList ++ '.' :: (dottedText (second :: rest)).toList := by
  simp only [dottedText, List.map_cons, String.intercalate_cons_cons]
  simp

theorem dottedText_concat {names : List Name} (hne : names ≠ []) (name : Name) :
    (dottedText (names ++ [name])).toList =
      (dottedText names).toList ++ '.' :: name.text.toList := by
  induction names with
  | nil => exact absurd rfl hne
  | cons first rest ih =>
    cases rest with
    | nil => simp [dottedText]
    | cons second more =>
      rw [List.cons_append, List.cons_append, dottedText_cons_cons, dottedText_cons_cons,
        ← List.cons_append, ih (List.cons_ne_nil _ _)]
      simp

theorem eq_of_suffix {marker name front : List Char} (hmarker : '.' ∉ marker) (hname : '.' ∉ name)
    (h : '.' :: marker <:+ front ++ '.' :: name) : marker = name := by
  have hlast : '.' :: name <:+ front ++ '.' :: name := List.suffix_append _ _
  cases Nat.le_total ('.' :: marker).length ('.' :: name).length with
  | inl hle =>
    have hsuffix := List.suffix_of_suffix_length_le h hlast hle
    cases List.suffix_cons_iff.1 hsuffix with
    | inl heq => exact (List.cons.inj heq).2
    | inr hinside => exact absurd (hinside.mem List.mem_cons_self) hname
  | inr hle =>
    have hsuffix := List.suffix_of_suffix_length_le hlast h hle
    cases List.suffix_cons_iff.1 hsuffix with
    | inl heq => exact (List.cons.inj heq).2.symm
    | inr hinside => exact absurd (hinside.mem List.mem_cons_self) hmarker

/-- A use is one of the marker if its last name is the marker's. -/
theorem isMarker_use (marker : Name) (a : Annotation) :
    isMarker marker.text a.use.name = decide (a.name = marker) := by
  have hmarker : '.' ∉ marker.text.toList := (not_mem_of_isIdentifier marker.sound).1
  have hname : '.' ∉ a.name.text.toList := (not_mem_of_isIdentifier a.name.sound).1
  rw [Bool.eq_iff_iff, decide_eq_true_eq, isMarker, Bool.or_eq_true, beq_iff_eq,
    List.isSuffixOf_iff_suffix]
  show dottedText (a.qualifiers ++ [a.name]) = _ ∨
    _ <:+ (dottedText (a.qualifiers ++ [a.name])).toList ↔ _
  rw [← String.toList_inj]
  cases hq : a.qualifiers with
  | nil =>
    have hself : (dottedText [a.name]).toList = a.name.text.toList := by simp [dottedText]
    rw [List.nil_append, hself, String.toList_inj]
    constructor
    · intro h
      cases h with
      | inl heq => exact Name.text_inj heq
      | inr hsuffix => exact absurd (hsuffix.mem List.mem_cons_self) hname
    · rintro rfl
      exact .inl rfl
  | cons first rest =>
    have hsplit := dottedText_concat (List.cons_ne_nil first rest) a.name
    rw [hsplit]
    constructor
    · intro h
      cases h with
      | inl heq =>
        rw [← heq] at hmarker
        exact absurd (List.mem_append_right _ List.mem_cons_self) hmarker
      | inr hsuffix =>
        have hsame := eq_of_suffix hmarker hname hsuffix
        exact Name.text_inj (String.toList_inj.1 hsame.symm)
    · rintro rfl
      exact .inr (List.suffix_append _ _)

theorem marker?_use (marker : Name) (annotations : List Annotation) :
    marker? marker.text (annotations.map Annotation.use) =
      (annotations.find? (·.name = marker)).map Annotation.use := by
  rw [marker?, List.find?_map]
  congr 1
  congr 1
  funext a
  exact isMarker_use marker a

theorem identifierFlag_arguments (form : Form) : identifierFlag form.arguments = form.flag := by
  cases form with
  | bare => rfl
  | named flag => cases flag <;> rfl
  | alone flag => cases flag <;> rfl

/-! Records -/

theorem method_declaration (marker : Name) (m : Written.Method) :
    method marker.text m.declaration = m.record marker := by
  have hflag : (marker? marker.text (m.annotations.map Annotation.use)).map
      (fun a => identifierFlag a.arguments) = flag? marker m.annotations := by
    rw [marker?_use, flag?, Option.map_map]
    congr 1
    funext a
    exact identifierFlag_arguments a.form
  have hreturn : ((m.returnType.map AnyType.tree).map TypeTree.name).getD voidType =
      m.returnText := by
    cases hreturn : m.returnType with
    | none => simp [Written.Method.returnText, hreturn, voidType]
    | some t => simp [Written.Method.returnText, hreturn, t.name_tree]
  have hparameters : (parameterDeclarations m.allParameters).map parameterType =
      m.allParameters.map fun p => p.2.typeText p.1 := by
    rw [parameterDeclarations, List.map_map]
    apply List.map_congr_left
    intro p _
    show p.2.type.tree.name ++ _ = p.2.type.text ++ _
    rw [p.2.type.name_tree]
    rfl
  have hidentifier : (flag? marker m.annotations).getD false =
      decide (flag? marker m.annotations = some true) := by
    cases flag? marker m.annotations with
    | none => rfl
    | some flag => cases flag <;> rfl
  unfold method Written.Method.record Written.Method.declaration
  simp only [hflag, hreturn, hparameters, hidentifier]

theorem interface?_declaration (marker : Name) (package : String) (source : Option String)
    (i : Written.Interface) :
    interface? marker.text package source i.declaration =
      if i.isMarked marker then some (i.record marker package source) else none := by
  have hmarked : isMarked marker.text i.declaration = i.isMarked marker := by
    show (marker? marker.text (i.annotations.map Annotation.use)).isSome = _
    rw [marker?_use, Option.isSome_map, Bool.eq_iff_iff, List.find?_isSome]
    simp [Written.Interface.isMarked]
  have hmethods : (i.methods.map Method.declaration).map (method marker.text) =
      i.methods.map (·.record marker) := by
    rw [List.map_map]
    exact List.map_congr_left fun m _ => method_declaration marker m
  unfold interface?
  rw [hmarked]
  cases i.isMarked marker with
  | false => rfl
  | true =>
    show some (BeanForge.Interface.mk i.name.text package
      ((i.methods.map Method.declaration).map (method marker.text)) source) = _
    rw [hmethods]
    rfl

theorem interfaces_unit (marker : Name) (source : Option String) (s : Written.File) :
    interfaces marker.text source s.unit = s.records marker source := by
  have hpackage : s.unit.package.getD "" = dottedText s.package := by
    unfold Written.File.unit
    cases s.package <;> rfl
  unfold interfaces Written.File.records
  rw [hpackage]
  show (s.interfaces.map Interface.declaration).filterMap _ = _
  rw [List.filterMap_map]
  induction s.interfaces with
  | nil => rfl
  | cons i rest ih =>
    rw [List.filterMap_cons, List.filter_cons, Function.comp_apply, interface?_declaration, ih]
    cases i.isMarked marker <;> rfl

/-- Discovery finds what was written, however it is laid out. -/
theorem discover_laidOut (marker : Name) (s : Written.File) (source : Option String)
    {text : String} {cs : List Char} (hcs : undoEscapes [] text.toList = .ok cs)
    (h : LaidOut s.lexemes cs) :
    discover marker.text text source = .ok (s.records marker source) := by
  have hread : read text source = .ok s.unit := by
    rw [read, compilationUnit_of_laidOut hcs h]
    rfl
  rw [discover, hread, ← interfaces_unit]
  rfl

def markerName : Name :=
  ⟨"GenerateEntity", by decide⟩

def carSource : Written.File :=
  let name (text : String) (sound : isIdentifier text = true := by decide) : Name := ⟨text, sound⟩
  let list : ObjectType := .named (.mk (name "u") [])
    [.mk (name "List") [.bounded .extending (.array .int 0)]] 0
  let map : ObjectType := .named (.mk (name "Map")
    [.bounded .exactly (.named (.mk (name "String") []) [] 0), .bounded .exactly list]) [] 0
  { package := [name "a", name "b"]
    interfaces :=
      [{ annotations := [{ name := markerName }]
         name := name "Car"
         methods :=
          [{ annotations :=
              [{ qualifiers := [name "x"], name := markerName, form := .named true }]
             returnType := some (.basic .long 0), name := name "id" },
           { returnType := some (.object map), name := name "parts" },
           { returnType := none, name := name "put"
             variadic := some ⟨.basic .int 0, name "ids"⟩ }] },
       { name := name "Plain" }] }

def carText : String :=
  "// made\n" ++ "package a.b; " ++ "@GenerateEntity interface Car \x7b " ++
    "@x.GenerateEntity(id = true) long id(); " ++
    "Map<String, u.List<? extends int[]>> parts(); " ++ "void put(int... ids); \x7d " ++ "interface Plain\x7b\x7d"

def carRecord : Interface where
  name := "Car"
  package := "a.b"
  source := some "Car.java"
  methods :=
    [{ name := "id", returnType := "long", identifier := some true, isIdentifier := true },
     { name := "parts", returnType := "Map<String, u.List<? extends int[]>>" },
     { name := "put", parameterTypes := ["int[]"] }]

theorem discover_laidOut_of_car :
    discover "GenerateEntity" carText (some "Car.java") = .ok [carRecord] := by
  -- the lexemes that a blank follows
  let parted := [0, 4, 6, 7, 8, 9, 15, 16, 18, 19, 23, 27, 32, 33, 38, 42, 43, 47, 50, 51, 52]
  let gaps := (List.range 56).map fun i => if i ∈ parted then " " else ""
  have hspread : carText.toList = "// made\n".toList ++ spread carSource.lexemes gaps := by
    unfold carText
    rw [String.toList_append, String.toList_append, String.toList_append, String.toList_append,
      String.toList_append, String.toList_append]
    decide +kernel
  have hlays : Lays carSource.lexemes (spread carSource.lexemes gaps) :=
    lays_spread (by decide +kernel)
  have hgap : Gap "// made\n".toList := @Gap.line " made".toList [] (by decide) .nil
  have hplain : '\\' ∉ carText.toList := by
    rw [hspread]
    decide +kernel
  have hfound := discover_laidOut markerName carSource (some "Car.java")
    (undoEscapes_of_not_mem hplain) ⟨_, _, hgap, hlays, hspread⟩
  have hrecords : carSource.records markerName (some "Car.java") = [carRecord] := by
    decide +kernel
  rw [hrecords] at hfound
  exact hfound

end BeanForge.Discovery

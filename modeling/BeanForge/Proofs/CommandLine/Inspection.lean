import BeanForge.CommandLine.Run
import BeanForge.Proofs.Discovery.Findings
import BeanForge.Proofs.Entity.Accessors
import BeanForge.Proofs.Json.Reading
import BeanForge.Proofs.Pass.Repetition
import BeanForge.Proofs.Validation

/-!
# Inspections

What is printed about a search reads back as the interfaces that were found, each with its fields.
The rows with fields describe the entities of every pass over these interfaces that comes to its
end, whatever became of their classes.
-/

namespace BeanForge

open Text Source

/-! Rows -/

structure Inspected where
  interface : String
  package : String
  source : Option String
  fields : List Field
  deriving DecidableEq

namespace Inspected

def ofInterface (i : Interface) : Inspected :=
  ⟨i.name, i.package, i.source, i.entity.table.fields⟩

def check (raw : Json) : Checked Inspected :=
  if raw.isRecord then
    Checked.apply (Checked.apply (Checked.apply (Checked.apply (.ok Inspected.mk)
      (raw.required "interface" Json.checkText))
      (raw.required "package" Json.checkText))
      (raw.required "source" Json.checkTextOrNull))
      (raw.required "fields" (Json.checkList Json.checkField))
  else Checked.issue (.notRecord "Inspected")

end Inspected

theorem Inspected.check_inspectionRow (i : Interface) :
    check (CommandLine.inspectionRow i) = .ok (ofInterface i) := by
  have hsource : (CommandLine.inspectionRow i).required "source" Json.checkTextOrNull =
      .ok i.source :=
    Checked.below_eq_ok_iff.2 (Json.checkTextOrNull_ofOption i.source)
  have hfields : (CommandLine.inspectionRow i).required "fields" (Json.checkList Json.checkField) =
      .ok i.entity.table.fields :=
    Checked.below_eq_ok_iff.2 (Json.checkList_map Json.checkField_toJson i.entity.table.fields)
  rw [check, hsource, hfields]
  rfl

/-! Interfaces that can be told -/

structure Field.Tellable (f : Field) : Prop where
  name : Json.Unpaired f.name
  typeName : Json.Unpaired f.typeName
  word : ∀ w, f.getterWord = some w → Json.Unpaired w

/-- All texts that a row tells about an interface come back from their escapes. -/
structure Interface.Tellable (i : Interface) : Prop where
  name : Json.Unpaired i.name
  package : Json.Unpaired i.package
  source : ∀ p, i.source = some p → Json.Unpaired p
  fields : ∀ f ∈ i.entity.table.fields, f.Tellable

namespace Json

theorem legible_string {s : String} (h : Unpaired s) : Legible asciiChar (string s) :=
  .string (restored_asciiChar h)

theorem legible_ofOption {s : Option String} (h : ∀ t, s = some t → Unpaired t) :
    Legible asciiChar (ofOption s) :=
  .ofOption fun t ht => restored_asciiChar (h t ht)

/-- The members of a row have names of ASCII letters. -/
theorem legible_members {members : List (String × Json)} (hdistinct : (Keyed.keys members).Nodup)
    (hnames : ∀ name ∈ Keyed.keys members, Whole name)
    (hvalues : ∀ m ∈ members, Legible asciiChar m.2) : Legible asciiChar (object members) :=
  .object hdistinct (fun m hm => restored_asciiChar
    (unpaired_of_whole (hnames m.1 (List.mem_map_of_mem hm)))) hvalues

theorem legible_fieldJson {f : Field} (h : f.Tellable) : Legible asciiChar f.toJson := by
  have hkeys : Keyed.keys [("name", string f.name), ("type_name", string f.typeName),
      ("is_identifier", bool f.isIdentifier), ("getter_prefix", ofOption f.getterWord)] =
      ["name", "type_name", "is_identifier", "getter_prefix"] := rfl
  refine legible_members (by rw [hkeys]; decide) (by rw [hkeys]; decide) ?_
  simp only [List.forall_mem_cons, List.not_mem_nil, false_imp_iff, implies_true, and_true]
  exact ⟨legible_string h.name, legible_string h.typeName, .bool _, legible_ofOption h.word⟩

theorem legible_inspectionRow {i : Interface} (h : i.Tellable) :
    Legible asciiChar (CommandLine.inspectionRow i) := by
  have hkeys : Keyed.keys [("interface", string i.name), ("package", string i.package),
      ("source", ofOption i.source), ("fields", array (i.entity.table.fields.map Field.toJson))] =
      ["interface", "package", "source", "fields"] := rfl
  refine legible_members (by rw [hkeys]; decide) (by rw [hkeys]; decide) ?_
  simp only [List.forall_mem_cons, List.not_mem_nil, false_imp_iff, implies_true, and_true]
  refine ⟨legible_string h.name, legible_string h.package, legible_ofOption h.source, .array ?_⟩
  exact List.forall_mem_map.2 fun f hf => legible_fieldJson (h.fields f hf)

end Json

/-! Interfaces that were found -/

namespace Text

theorem isHalf_ofNat {n : Nat} (h : n < 0x10D800) : isHalf (Char.ofNat n) = false := by
  have hle : (Char.ofNat n).toNat < 0x10D800 := by
    rw [Char.ofNat]
    by_cases hvalid : n.isValidChar
    · rw [dif_pos hvalid]
      exact h
    · rw [dif_neg hvalid]
      decide
  simp only [isHalf, Bool.and_eq_false_iff, decide_eq_false_iff_not]
  exact .inl (by omega)

theorem isHalf_lowerChar {c : Char} (h : isHalf c = false) :
    ∀ d ∈ lowerChar c, isHalf d = false := by
  intro d hd
  rw [lowerChar] at hd
  split_ifs at hd with hascii hdotted
  · rw [List.mem_singleton.1 hd]
    have hall : ∀ n < 128, isHalf (Char.ofNat n).toLower = false := by decide
    simpa using hall c.toNat hascii
  · have hpair : Whole (String.ofList ['i', Char.ofNat 0x307]) := by decide
    exact hpair d (by simpa using hd)
  · rw [List.mem_singleton.1 hd, shifted]
    have hshifts : ∀ s ∈ lowerShifts, (s.last + s.distance).toNat < 0x10D800 := by decide +kernel
    cases hfound : lowerShifts.find? (·.covers c.toNat) with
    | none => exact h
    | some s =>
      have hcovers := List.find?_some hfound
      have hbound := hshifts s (List.mem_of_find?_eq_some hfound)
      simp only [Shift.covers, Bool.and_eq_true, decide_eq_true_eq] at hcovers
      exact isHalf_ofNat (by rw [Shift.target]; omega)

theorem isHalf_lowerFrom {cs : List Char} (h : ∀ c ∈ cs, isHalf c = false) (inWord : Bool) :
    ∀ c ∈ lowerFrom inWord cs, isHalf c = false := by
  induction cs generalizing inWord with
  | nil => simp
  | cons c rest ih =>
    have hfirst := isHalf_lowerChar (h c List.mem_cons_self)
    have hrest := ih fun d hd => h d (List.mem_cons_of_mem _ hd)
    rw [lowerFrom]
    by_cases hascii : c.toNat < 128
    · rw [lowerChar, if_pos hascii] at hfirst
      rw [if_pos hascii]
      exact List.forall_mem_cons.2 ⟨hfirst _ (List.mem_singleton.2 rfl), hrest _⟩
    · rw [if_neg hascii]
      refine List.forall_mem_append.2 ⟨?_, hrest _⟩
      have hsigmas : ∀ ends : Bool,
          isHalf (if ends then finalSigma else smallSigma) = false := by decide
      by_cases hsigma : c = capitalSigma
      · rw [if_pos hsigma]
        intro d hd
        rw [List.mem_singleton.1 hd]
        exact hsigmas _
      · rw [if_neg hsigma]
        exact hfirst

theorem whole_lower {s : String} (h : Whole s) : Whole (lower s) := by
  rw [Whole, lower, String.toList_ofList]
  exact isHalf_lowerFrom h false

end Text

/-- A method whose name and types hold no halves describes a field that can be told. -/
theorem tellable_of_field? {m : Method} {f : Field} (h : m.field? = .ok f) (hname : Whole m.name)
    (hreturns : Whole m.returnType) (hparameters : ∀ p ∈ m.parameterTypes, Whole p) :
    f.Tellable := by
  rw [Method.field?] at h
  split at h
  · cases h
  · rename_i word rest hsplit
    have hlower : Whole (lower (String.ofList rest)) := by
      refine Text.whole_lower fun c hc => hname c ?_
      exact FieldTable.mem_of_split? hsplit (by simpa using hc)
    have hword : ∀ w, word.getterText? = some w → Whole w := by
      cases word <;> rintro w ⟨⟩ <;> decide
    split at h
    · cases h
      exact ⟨Json.unpaired_of_whole hlower, Json.unpaired_of_whole hreturns,
        fun w hw => Json.unpaired_of_whole (hword w hw)⟩
    · split at h
      · cases h
      · rename_i type others htypes
        cases h
        have htype : Whole type := hparameters type (by rw [htypes]; exact List.mem_cons_self)
        exact ⟨Json.unpaired_of_whole hlower, Json.unpaired_of_whole htype, by simp⟩

theorem tellable_learn {f later : Field} (hf : f.Tellable) (hlater : later.Tellable) :
    (FieldTable.learn f later).Tellable :=
  ⟨hf.name, hf.typeName, fun w hw =>
    (FieldTable.getterWord_of_learn hw).elim (hf.word w) (hlater.word w)⟩

namespace Discovery

/-- All that is told about a declared interface can be told, if its source can. -/
theorem tellable_of_mem_interfaces {text marker : String} {u : CompilationUnit}
    {source : Option String} (h : compilationUnit text = .ok u) {i : Interface}
    (hi : i ∈ interfaces marker source u) (hsource : ∀ p, i.source = some p → Json.Unpaired p) :
    i.Tellable := by
  obtain ⟨hpackage, hnames⟩ := names_of_compilationUnit h
  obtain ⟨d, hd, hinterface⟩ := List.mem_filterMap.1 hi
  have hspelled := spelled_of_compilationUnit h d hd
  rw [interface?] at hinterface
  split at hinterface
  · cases hinterface
    refine ⟨Json.unpaired_of_whole (whole_of_isIdentifier (hnames d hd)), ?_, hsource, ?_⟩
    · cases hp : u.package with
      | none => exact Json.unpaired_of_whole (show Whole "" by decide)
      | some name => exact Json.unpaired_of_whole (hpackage name hp).whole
    · refine FieldTable.forall_fields_ofMethods (fun _ _ hf hlater => tellable_learn hf hlater) ?_
      intro m hm f hfield
      obtain ⟨declared, hdeclared, rfl⟩ := List.mem_map.1 hm
      obtain ⟨hname, hreturns, hparameters⟩ := hspelled declared hdeclared
      refine tellable_of_field? hfield (whole_of_isIdentifier hname) ?_ ?_
      · cases htype : declared.returnType with
        | none => simpa [method, htype] using (show Whole voidType by decide)
        | some type => simpa [method, htype] using (hreturns type htype).whole
      · intro type htype
        obtain ⟨p, hp, rfl⟩ := List.mem_map.1 htype
        refine (hparameters p hp).whole.append ?_
        cases p.isVariadic <;> decide
  · cases hinterface

theorem mem_interfaces_of_inFile {marker : String} {tree : FileTree} {p : Path} {i : Interface}
    (h : i ∈ (inFile marker tree p).interfaces) :
    ∃ text u source, compilationUnit text = .ok u ∧ i ∈ interfaces marker source u := by
  rw [inFile] at h
  split at h
  · cases h
  · split at h
    · cases h
    · split at h
      · cases h
      · rename_i cs _
        rw [inText, read] at h
        cases hu : compilationUnit (String.ofList (unifyNewlines cs)) with
        | error rejection =>
          rw [hu] at h
          cases rejection <;> cases h
        | ok u =>
          rw [hu] at h
          exact ⟨_, u, _, hu, h⟩

/-- Every interface that is found is declared in a source. -/
theorem mem_interfaces_of_inPaths {marker : String} {tree : FileTree} {paths : List Path}
    {i : Interface} (h : i ∈ (inPaths marker tree paths).interfaces) :
    ∃ text u source, compilationUnit text = .ok u ∧ i ∈ interfaces marker source u := by
  have hall : ∀ files : List Path, i ∈ (untilFault (inFile marker tree) files).interfaces →
      ∃ text u source, compilationUnit text = .ok u ∧ i ∈ interfaces marker source u := by
    intro files hi
    induction files with
    | nil => cases hi
    | cons p rest ih =>
      rw [untilFault] at hi
      split at hi
      · exact mem_interfaces_of_inFile hi
      · rcases List.mem_append.1 hi with hi | hi
        · exact mem_interfaces_of_inFile hi
        · exact ih hi
  rw [inPaths] at h
  split at h
  · cases h
  · exact hall _ h

end Discovery

/-! Inspections and passes -/

/-- Interfaces that can be told are read back from the text about them. -/
theorem Json.read_inspectionText {is : List Interface} (h : ∀ i ∈ is, i.Tellable) :
    (∀ c ∈ (CommandLine.inspectionText is).toList, c.toNat < 128) ∧
      read? (CommandLine.inspectionText is) =
        some (array (is.map CommandLine.inspectionRow)) := by
  have hlegible : Legible asciiChar (array (is.map CommandLine.inspectionRow)) :=
    .array (List.forall_mem_map.2 fun i hi => legible_inspectionRow (h i hi))
  refine ⟨?_, hlegible.read_pretty (List.forall_mem_singleton.2 rfl)⟩
  rw [CommandLine.inspectionText, String.toList_append]
  exact List.forall_mem_append.2 ⟨hlegible.lt_of_mem_pretty, show IsAscii "\n" by decide⟩

/-- The entities of a pass are what the rows with fields tell. -/
theorem Plan.entities_run {σ : Type} [Codecs] {plan : Plan} {site : Site}
    {collector : Collector σ} {batch : List Interface} {mishaps : List Mishap}
    (h : (plan.run site collector batch mishaps).2 = none) :
    (plan.run site collector batch mishaps).1.entities.map
        (fun e => (e.interfaceName, e.package, e.table.fields)) =
      ((batch.map Inspected.ofInterface).filter fun row => !row.fields.isEmpty).map
        fun row => (row.interface, row.package, row.fields) := by
  have hentities : (plan.run site collector batch mishaps).1.entities =
      batch.filterMap Interface.described? :=
    (Pass.entities_advanceAll h).trans (List.nil_append _)
  rw [hentities]
  clear h hentities
  induction batch with
  | nil => rfl
  | cons i rest ih =>
    have hempty : i.entity.table.isEmpty = (Inspected.ofInterface i).fields.isEmpty := rfl
    cases hfields : (Inspected.ofInterface i).fields.isEmpty with
    | true =>
      have hnone : i.described? = none := by rw [Interface.described?, hempty, hfields]; rfl
      simp only [List.filterMap_cons, hnone, List.map_cons, List.filter_cons, hfields,
        Bool.not_true, Bool.false_eq_true, if_false, ih]
    | false =>
      have hsome : i.described? = some i.entity := by
        rw [Interface.described?, hempty, hfields]; rfl
      simp only [List.filterMap_cons, hsome, List.map_cons, List.filter_cons, hfields,
        Bool.not_false, if_true, ih]
      rfl

namespace CommandLine

/-- An inspection tells of all that was found, and of the entities of any pass over it. A path may
hold any character, but no two halves of a pair side by side, as none that was decoded does. -/
theorem inspect_tells [Codecs] {sources : List Path} {s : Surroundings} {settings : Settings}
    (config : Log.Config)
    (hfault : (Discovery.inPaths settings.marker s.tree sources).fault? = none)
    (hpaths : ∀ i ∈ (Discovery.inPaths settings.marker s.tree sources).interfaces,
      ∀ p, i.source = some p → Json.Unpaired p) :
    let is := (Discovery.inPaths settings.marker s.tree sources).interfaces
    let text := (inspect sources s settings config).output
    let rows := is.map Inspected.ofInterface
    (∀ c ∈ text.toList, c.toNat < 128) ∧
    Json.read? text = some (.array (is.map inspectionRow)) ∧
    Json.checkList Inspected.check (.array (is.map inspectionRow)) = .ok rows ∧
    ∀ (σ : Type) (plan : Plan) (site : Site) (collector : Collector σ) (mishaps : List Mishap),
      (plan.run site collector is mishaps).2 = none →
      (plan.run site collector is mishaps).1.entities.map
          (fun e => (e.interfaceName, e.package, e.table.fields)) =
        (rows.filter fun row => !row.fields.isEmpty).map
          fun row => (row.interface, row.package, row.fields) := by
  intro is text rows
  have htext : text = inspectionText is := by
    simp only [text, inspect, hfault]
    rfl
  have htellable : ∀ i ∈ is, i.Tellable := by
    intro i hi
    obtain ⟨_, _, _, hunit, hmem⟩ := Discovery.mem_interfaces_of_inPaths hi
    exact Discovery.tellable_of_mem_interfaces hunit hmem (hpaths i hi)
  obtain ⟨hascii, hread⟩ := Json.read_inspectionText htellable
  rw [htext]
  exact ⟨hascii, hread, Checked.itemsFrom_map Inspected.check_inspectionRow 0 is,
    fun _ _ _ _ _ h => Plan.entities_run h⟩

theorem inspect_tells_of_failing_and_fieldless_interface :
    let source : Text.Bytes := Text.utf8Bytes
      "@GenerateEntity interface B \x7b int getAge(); \x7d @GenerateEntity interface C \x7b\x7d".toList
    let s : Surroundings :=
      { tree := ⟨[(⟨.here, ["\"😀.java"]⟩, .file source)]⟩
        moment := ⟨2020, 1, 1, 0, 0, 0, 0⟩ }
    let sources : List Path := [⟨.here, ["\"😀.java"]⟩]
    let settings : Settings := {}
    let config : Log.Config := ⟨.info, .json true, true⟩
    let is := (Discovery.inPaths settings.marker s.tree sources).interfaces
    let text := (inspect sources s settings config).output
    let plan : Plan := ⟨settings, some "absent"⟩
    let site : Site := ⟨s.tree, .memory ".java" [], ""⟩
    let collector : Collector Unit := { state := () }
    ((Discovery.inPaths settings.marker s.tree sources).fault? = none ∧
      (∀ i ∈ is, ∀ p, i.source = some p → Json.Unpaired p) ∧
      (plan.run site collector is).2 = none ∧
      (plan.run site collector is).1.artifacts = []) ∧
    (∀ c ∈ text.toList, c.toNat < 128) ∧
    Json.read? text = some (.array (is.map inspectionRow)) ∧
    (plan.run site collector is).1.entities.map
        (fun e => (e.interfaceName, e.package, e.table.fields)) =
      ((is.map Inspected.ofInterface).filter fun row => !row.fields.isEmpty).map
        fun row => (row.interface, row.package, row.fields) := by
  intro source s sources settings config is text plan site collector
  have hruns : (Discovery.inPaths settings.marker s.tree sources).fault? = none ∧
      (∀ i ∈ is, i.source = some "\"😀.java") ∧ (plan.run site collector is).2 = none ∧
      (plan.run site collector is).1.artifacts = [] := by decide +kernel
  obtain ⟨hfault, hsources, hrun, hartifacts⟩ := hruns
  have hwhole : Whole "\"😀.java" := by decide +kernel
  have hpaths : ∀ i ∈ is, ∀ p, i.source = some p → Json.Unpaired p := by
    intro i hi p hp
    rw [← Option.some.inj ((hsources i hi).symm.trans hp)]
    exact Json.unpaired_of_whole hwhole
  obtain ⟨hascii, hread, _, hpasses⟩ := inspect_tells config hfault hpaths
  refine ⟨⟨hfault, hpaths, hrun, hartifacts⟩, hascii, hread, ?_⟩
  exact hpasses Unit plan site collector [] hrun

end CommandLine

end BeanForge

import BeanForge.Entity
import BeanForge.Proofs.Artifact.Paths

/-!
# Paths of types

The file of a type has a folder for each package around it. Folders have no dots in their names
and files have one, so that no file ever stands where a folder is wanted, and different types have
different files.
-/

namespace BeanForge

open Text

def Path.inside (p : Path) (names : List String) : Path :=
  ⟨p.anchor, p.names ++ names⟩

theorem Path.inside_inj {p : Path} {names more : List String} (h : p.inside names = p.inside more) :
    names = more := by
  simpa [inside] using h

theorem Path.settled_inside (p : Path) {names : List String} (h : upName ∉ names) :
    (p.inside names).settled = p.settled.inside (names.map storedName) :=
  settled_eq_of_plain h

/-- The parts between the dots of a name are not empty and hold no slash and no NUL. -/
def ProperType (qualifiedName : String) : Prop :=
  ∀ part ∈ splitAt '.' qualifiedName.toList,
    part ≠ [] ∧ '/' ∉ part ∧ Char.ofNat 0 ∉ part

instance (qualifiedName : String) : Decidable (ProperType qualifiedName) :=
  inferInstanceAs (Decidable (∀ part ∈ splitAt '.' qualifiedName.toList, _))

structure ProperExtension (extension : String) : Prop where
  dotted : extension.toList.head? = some '.'
  noSlash : '/' ∉ extension.toList
  noNul : Char.ofNat 0 ∉ extension.toList
  whole : Whole extension

def folderNames (qualifiedName : String) : List String :=
  (splitAt '.' qualifiedName.toList).dropLast.map String.ofList

def fileName (qualifiedName extension : String) : String :=
  String.ofList ((splitAt '.' qualifiedName.toList).getLast (splitAt_ne_nil _ _) ++
    extension.toList)

def typeNames (qualifiedName extension : String) : List String :=
  folderNames qualifiedName ++ [fileName qualifiedName extension]

variable {qualifiedName extension : String}

namespace ProperType

theorem not_mem_of_not_part {c : Char} (hc : c ≠ '.')
    (h : ∀ part ∈ splitAt '.' qualifiedName.toList, c ∉ part) : c ∉ qualifiedName.toList := by
  intro hmem
  obtain ⟨part, hp, hcp⟩ := exists_mem_splitAt hmem hc
  exact h part hp hcp

theorem slash_not_mem (h : ProperType qualifiedName) : '/' ∉ qualifiedName.toList :=
  not_mem_of_not_part (by decide) fun part hp => (h part hp).2.1

theorem inward (h : ProperType qualifiedName) : Inward qualifiedName := by
  constructor
  · intro hdot
    obtain ⟨rest, hrest⟩ := List.head?_eq_some_iff.1 hdot
    have hmem : [] ∈ splitAt '.' qualifiedName.toList := by
      rw [hrest, splitAt_cons_separator]
      exact List.mem_cons_self
    exact (h [] hmem).1 rfl
  · intro hslash
    exact h.slash_not_mem (List.mem_of_mem_head? hslash)

theorem not_mem_folderNames (h : ProperType qualifiedName) {name : String}
    (hname : name ∈ folderNames qualifiedName) :
    name ≠ "" ∧ '.' ∉ name.toList ∧ Char.ofNat 0 ∉ name.toList := by
  obtain ⟨part, hp, rfl⟩ := List.mem_map.1 hname
  have hpart := (List.dropLast_sublist _).subset hp
  obtain ⟨hne, _, hnul⟩ := h part hpart
  rw [String.toList_ofList]
  refine ⟨fun he => hne ?_, not_mem_of_mem_splitAt hpart, hnul⟩
  simpa using congrArg String.toList he

theorem undotted (h : ProperType qualifiedName) :
    ∀ name ∈ folderNames qualifiedName, '.' ∉ name.toList := fun _ hname =>
  (h.not_mem_folderNames hname).2.1

end ProperType

theorem toList_fileName (qualifiedName extension : String) :
    (fileName qualifiedName extension).toList =
      (splitAt '.' qualifiedName.toList).getLast (splitAt_ne_nil _ _) ++ extension.toList :=
  String.toList_ofList

theorem whole_of_mem_folderNames (h : Whole qualifiedName) :
    ∀ name ∈ folderNames qualifiedName, Whole name := by
  intro name hname
  obtain ⟨part, hp, rfl⟩ := List.mem_map.1 hname
  exact Path.whole_of_mem_splitAt h ((List.dropLast_sublist _).subset hp)

theorem whole_of_mem_typeNames (h : Whole qualifiedName) (hext : Whole extension) :
    ∀ name ∈ typeNames qualifiedName extension, Whole name := by
  refine List.forall_mem_append.2 ⟨whole_of_mem_folderNames h, fun name hname => ?_⟩
  rw [List.mem_singleton.1 hname, fileName, String.ofList_append]
  exact (Path.whole_of_mem_splitAt h (List.getLast_mem _)).append
    (by simpa using hext)

theorem dot_mem_fileName (hext : ProperExtension extension) :
    '.' ∈ (fileName qualifiedName extension).toList := by
  rw [toList_fileName]
  exact List.mem_append_right _ (List.mem_of_mem_head? hext.dotted)

theorem nul_not_mem_fileName (h : ProperType qualifiedName) (hext : ProperExtension extension) :
    Char.ofNat 0 ∉ (fileName qualifiedName extension).toList := by
  rw [toList_fileName, List.mem_append, not_or]
  exact ⟨(h _ (List.getLast_mem _)).2.2, hext.noNul⟩

/-- The name of a file does not begin with its dot. -/
theorem head?_fileName (h : ProperType qualifiedName) :
    (fileName qualifiedName extension).toList.head? ≠ some '.' := by
  have hlast := List.getLast_mem (splitAt_ne_nil '.' qualifiedName.toList)
  have hne := (h _ hlast).1
  have hdot := not_mem_of_mem_splitAt hlast
  rw [toList_fileName]
  cases hcs : (splitAt '.' qualifiedName.toList).getLast (splitAt_ne_nil _ _) with
  | nil => exact absurd hcs hne
  | cons c rest =>
    rw [hcs] at hdot
    simp only [List.cons_append, List.head?_cons, ne_eq, Option.some.injEq]
    rintro rfl
    exact hdot List.mem_cons_self

theorem fileName_ne (h : ProperType qualifiedName) (hext : ProperExtension extension) :
    fileName qualifiedName extension ≠ "" ∧ fileName qualifiedName extension ≠ "." := by
  have hmem : '.' ∈ (fileName qualifiedName extension).toList := dot_mem_fileName hext
  constructor
  · intro he
    rw [he] at hmem
    exact absurd hmem (by decide)
  · intro he
    have hhead : (fileName qualifiedName extension).toList.head? ≠ some '.' := head?_fileName h
    rw [he] at hhead
    exact absurd rfl hhead

theorem splitAt_slashed (h : ProperType qualifiedName) (hext : '/' ∉ extension.toList) :
    (splitAt '/' (slashed qualifiedName ++ extension.toList)).map String.ofList =
      typeNames qualifiedName extension := by
  have hslashed : splitAt '/' (slashed qualifiedName) = splitAt '.' qualifiedName.toList :=
    splitAt_map h.slash_not_mem
  obtain ⟨pieces, last, hname, happend⟩ := splitAt_append (slashed qualifiedName) hext
  rw [hslashed] at hname
  simp only [happend, typeNames, folderNames, fileName, hname, List.dropLast_concat,
    List.getLast_append, List.map_append, List.map_cons, List.map_nil]
  simp

theorem namesOf_slashed (h : ProperType qualifiedName) (hext : '/' ∉ extension.toList)
    (hfile : fileName qualifiedName extension ≠ "" ∧ fileName qualifiedName extension ≠ ".") :
    Path.namesOf (slashed qualifiedName ++ extension.toList) =
      typeNames qualifiedName extension := by
  have hdot : ∀ name : String, '.' ∉ name.toList → name ≠ "." := by
    rintro name hname rfl
    exact hname (by decide)
  rw [Path.namesOf, splitAt_slashed h hext, List.filter_eq_self]
  intro name hname
  simp only [Bool.and_eq_true, bne_iff_ne, ne_eq]
  rcases List.mem_append.1 hname with hname | hname
  · obtain ⟨hne, hnodot, _⟩ := h.not_mem_folderNames hname
    exact ⟨hne, hdot name hnodot⟩
  · exact List.mem_singleton.1 hname ▸ hfile

/-- A file whose name is one has it inside the folders of its type. -/
theorem filePath_eq_inside_of_file (root : Path) (h : ProperType qualifiedName)
    (hext : '/' ∉ extension.toList)
    (hfile : fileName qualifiedName extension ≠ "" ∧ fileName qualifiedName extension ≠ ".") :
    Site.filePath root qualifiedName extension =
      root.inside (typeNames qualifiedName extension) := by
  rw [filePath_eq root h.inward hext, namesOf_slashed h hext hfile, Path.inside]

theorem filePath_eq_inside (root : Path) (h : ProperType qualifiedName)
    (hext : ProperExtension extension) :
    Site.filePath root qualifiedName extension = root.inside (typeNames qualifiedName extension) :=
  filePath_eq_inside_of_file root h hext.noSlash (fileName_ne h hext)

/-- Slashes in place of dots tell types apart, as no part of a type's name holds a slash. -/
theorem eq_of_slashed_eq {other : String} (h : ProperType qualifiedName) (ho : ProperType other)
    (he : slashed qualifiedName = slashed other) : qualifiedName = other := by
  have hsplit : splitAt '.' qualifiedName.toList = splitAt '.' other.toList := by
    rw [← splitAt_map h.slash_not_mem, ← splitAt_map ho.slash_not_mem]
    exact congrArg _ he
  exact String.toList_inj.1 (splitAt_injective hsplit)

/-- Types with one path are one type. -/
theorem eq_of_filePath_eq {root : Path} {other : String} (h : ProperType qualifiedName)
    (ho : ProperType other) (hext : ProperExtension extension)
    (he : Site.filePath root qualifiedName extension = Site.filePath root other extension) :
    qualifiedName = other := by
  rw [filePath_eq_inside root h hext, filePath_eq_inside root ho hext] at he
  have hnames := Path.inside_inj he
  rw [← splitAt_slashed h hext.noSlash, ← splitAt_slashed ho hext.noSlash] at hnames
  have hpieces := List.map_inj_right (fun _ _ hs => String.ofList_inj.1 hs) |>.1 hnames
  exact eq_of_slashed_eq h ho (List.append_cancel_right (splitAt_injective hpieces))

/-! Types of interfaces -/

/-- An interface whose name is a part of a proper type's name, in a package of such parts. -/
structure Interface.Proper (i : Interface) : Prop where
  name : i.name ≠ "" ∧ '.' ∉ i.name.toList ∧ '/' ∉ i.name.toList ∧ Char.ofNat 0 ∉ i.name.toList
  package : i.package = "" ∨ ProperType i.package

def Interface.IsWhole (i : Interface) : Prop :=
  Whole i.package ∧ Whole i.name

namespace Interface

def folders (i : Interface) : List String :=
  if i.package = "" then [] else (splitAt '.' i.package.toList).map String.ofList

def classPath (root : Path) (extension : String) (i : Interface) : Path :=
  root.inside (i.folders ++ [i.name ++ "Impl" ++ extension])

variable {i : Interface}

/-- The parts of a name in the package of an interface. -/
theorem splitAt_qualify {name : String} (hdot : '.' ∉ name.toList) :
    splitAt '.' (qualify i.package name).toList = i.folders.map String.toList ++ [name.toList] := by
  have hname : splitAt '.' name.toList = [name.toList] := splitAt_of_not_mem hdot
  rw [qualify, folders]
  by_cases hempty : i.package = ""
  · rw [if_pos hempty, if_pos hempty]
    exact hname
  · have htoList : (i.package ++ "." ++ name).toList =
        i.package.toList ++ '.' :: name.toList := by simp
    have hself : (splitAt '.' i.package.toList).map (String.toList ∘ String.ofList) =
        splitAt '.' i.package.toList := by
      simp [Function.comp_def]
    rw [if_neg hempty, if_neg hempty, List.map_map, hself, ← hname, ← splitAt_append_separator,
      ← htoList]

theorem toList_generatedName (i : Interface) :
    i.entity.generatedName.toList = i.name.toList ++ "Impl".toList := by
  simp [entity, Entity.generatedName]

theorem splitAt_qualifiedName (hdot : '.' ∉ i.name.toList) :
    splitAt '.' i.entity.qualifiedName.toList =
      i.folders.map String.toList ++ [i.name.toList ++ "Impl".toList] := by
  have hgenerated : '.' ∉ i.entity.generatedName.toList := by
    rw [toList_generatedName]
    simp [hdot]
  have hpackage : i.entity.package = i.package := rfl
  rw [Entity.qualifiedName, hpackage, splitAt_qualify hgenerated, toList_generatedName]

/-- A proper name in the package of a proper interface is the name of a proper type. -/
theorem Proper.properType_qualify (h : i.Proper) {name : String} (hne : name.toList ≠ [])
    (hdot : '.' ∉ name.toList) (hslash : '/' ∉ name.toList)
    (hnul : Char.ofNat 0 ∉ name.toList) : ProperType (qualify i.package name) := by
  intro part hp
  rw [splitAt_qualify hdot] at hp
  rcases List.mem_append.1 hp with hp | hp
  · obtain ⟨_, hfolder, rfl⟩ := List.mem_map.1 hp
    rw [folders] at hfolder
    split at hfolder
    · cases hfolder
    · rename_i hpackage
      obtain ⟨part, hpart, rfl⟩ := List.mem_map.1 hfolder
      rw [String.toList_ofList]
      exact h.package.resolve_left hpackage part hpart
  · obtain rfl := List.mem_singleton.1 hp
    exact ⟨hne, hslash, hnul⟩

theorem Proper.properType (h : i.Proper) : ProperType i.entity.qualifiedName := by
  obtain ⟨_, hdot, hslash, hnul⟩ := h.name
  have hchars := i.toList_generatedName
  refine h.properType_qualify ?_ ?_ ?_ ?_ <;> rw [hchars]
  · simp
  · simp [hdot]
  · simp [hslash]
  · simp [hnul]

theorem Proper.fileName_eq (h : i.Proper) (extension : String) :
    fileName i.entity.qualifiedName extension = i.name ++ "Impl" ++ extension := by
  have hlast : String.ofList (i.name.toList ++ "Impl".toList ++ extension.toList) =
      i.name ++ "Impl" ++ extension := by
    rw [String.ofList_append, String.ofList_append, String.ofList_toList, String.ofList_toList,
      String.ofList_toList]
  simp only [fileName, splitAt_qualifiedName h.name.2.1, List.getLast_concat, hlast]

theorem Proper.typeNames_eq (h : i.Proper) (extension : String) :
    typeNames i.entity.qualifiedName extension = i.folders ++ [i.name ++ "Impl" ++ extension] := by
  have hfolders : (i.folders.map String.toList).map String.ofList = i.folders := by
    simp [Function.comp_def]
  rw [typeNames, h.fileName_eq, folderNames, splitAt_qualifiedName h.name.2.1, List.dropLast_concat,
    hfolders]

/-- The class of an interface has the path that its package and its name give it. -/
theorem Proper.filePath_eq (h : i.Proper) (root : Path) {extension : String}
    (hext : '/' ∉ extension.toList) :
    Site.filePath root i.entity.qualifiedName extension = i.classPath root extension := by
  have himpl : 'I' ∈ (fileName i.entity.qualifiedName extension).toList := by
    simp [h.fileName_eq]
  rw [filePath_eq_inside_of_file root h.properType hext ⟨fun he => ?_, fun he => ?_⟩,
    h.typeNames_eq, classPath]
  · rw [he] at himpl
    exact absurd himpl (by decide)
  · rw [he] at himpl
    exact absurd himpl (by decide)

/-! Names on the paths of classes, for any interface and any extension -/

theorem qualifiedName_entity (i : Interface) :
    i.entity.qualifiedName = i.qualifiedName ++ "Impl" := by
  have hgenerated : i.entity.generatedName = i.name ++ "Impl" := rfl
  have hpackage : i.entity.package = i.package := rfl
  rw [Entity.qualifiedName, qualifiedName, qualify, qualify, hgenerated, hpackage]
  split
  · rfl
  · simp only [String.append_assoc]

theorem IsWhole.whole_qualifiedName {i : Interface} (h : i.IsWhole) :
    Whole i.entity.qualifiedName := by
  have hdot : Whole "." := by decide
  have himpl : Whole "Impl" := by decide
  rw [qualifiedName_entity, Interface.qualifiedName, qualify]
  split
  · exact h.2.append himpl
  · exact ((h.1.append hdot).append h.2).append himpl

theorem slashed_entity (i : Interface) :
    slashed i.entity.qualifiedName = slashed i.qualifiedName ++ "Impl".toList := by
  have himpl : "Impl".toList.map (fun c => if c = '.' then '/' else c) = "Impl".toList := by decide
  rw [qualifiedName_entity, slashed, slashed, String.toList_append, List.map_append, himpl]

def namesAmong (pieces : List (List Char)) : List String :=
  (pieces.map String.ofList).filter fun name => name != "" && name != "."

theorem namesAmong_append (pieces more : List (List Char)) :
    namesAmong (pieces ++ more) = namesAmong pieces ++ namesAmong more := by
  rw [namesAmong, List.map_append, List.filter_append]
  rfl

theorem namesAmong_cons {piece : List Char} (more : List (List Char))
    (h : String.ofList piece ≠ "" ∧ String.ofList piece ≠ ".") :
    namesAmong (piece :: more) = String.ofList piece :: namesAmong more := by
  rw [namesAmong, List.map_cons, List.filter_cons_of_pos (by simp [h])]
  rfl

/-- The names of a class: its folders, a name that holds its suffix, and what an extension adds
after that. -/
theorem exists_names_of_class (i : Interface) {extension : String} {first : List Char}
    {back : List (List Char)} (h : splitAt '/' extension.toList = first :: back) :
    ∃ folders last, splitAt '/' (slashed i.qualifiedName) = folders ++ [last] ∧
      Path.namesOf (relativePath i.entity.qualifiedName extension).toList =
        namesAmong folders ++ String.ofList (last ++ "Impl".toList ++ first) ::
          namesAmong back := by
  have hsuffix : splitAt '/' ("Impl".toList ++ extension.toList) =
      ("Impl".toList ++ first) :: back := by
    obtain ⟨pieces, last, himpl, happend⟩ := splitAt_append_splitAt "Impl".toList h
    have hone : splitAt '/' "Impl".toList = [] ++ ["Impl".toList] := by decide
    obtain ⟨rfl, hlast⟩ := List.append_inj' (hone.symm.trans himpl) rfl
    obtain rfl := List.singleton_inj.1 hlast
    exact happend
  obtain ⟨folders, last, hname, hall⟩ :=
    splitAt_append_splitAt (slashed i.qualifiedName) hsuffix
  have himpl : 'I' ∈ last ++ ("Impl".toList ++ first) := by simp
  have hfile : String.ofList (last ++ ("Impl".toList ++ first)) ≠ "" ∧
      String.ofList (last ++ ("Impl".toList ++ first)) ≠ "." := by
    rw [← String.toList_ofList (l := last ++ ("Impl".toList ++ first))] at himpl
    constructor
    · intro he
      rw [he] at himpl
      exact absurd himpl (by decide)
    · intro he
      rw [he] at himpl
      exact absurd himpl (by decide)
  refine ⟨folders, last, hname, ?_⟩
  rw [toList_relativePath, slashed_entity, List.append_assoc]
  show namesAmong (splitAt '/' (slashed i.qualifiedName ++ ("Impl".toList ++ extension.toList))) = _
  rw [hall, namesAmong_append, namesAmong_cons back hfile, List.append_assoc]

end Interface

end BeanForge

import BeanForge.Proofs.Artifact.Emission
import BeanForge.Proofs.Artifact.TypePaths
import BeanForge.Proofs.Codec
import BeanForge.Proofs.FileTree.Listing

/-!
# Filling a root

A root that nothing is in takes the files of any proper types. Outside of it everything stays, the
folders in it have names without dots, and its files are those of the types, in order.
-/

namespace BeanForge

open Text FileTree

namespace Path

structure Fits (p : Path) : Prop where
  text : byteCount p.text < 4096
  names : ∀ name ∈ p.names, byteCount name ≤ 255

theorem inside_concat (p : Path) (names : List String) (name : String) :
    p.inside (names ++ [name]) = (p.inside names).child name := by
  simp [inside, child]

theorem settled_inside_of_whole (p : Path) {names : List String} (h : upName ∉ names)
    (hwhole : ∀ name ∈ names, Whole name) : (p.inside names).settled = p.settled.inside names := by
  rw [settled_inside p h, map_storedName_of_whole hwhole]

theorem isBelow_inside (p : Path) {names : List String} (h : names ≠ []) :
    (p.inside names).isBelow p = true := by
  have hlen := List.length_pos_iff.2 h
  simp [isBelow, inside, hlen]

theorem Fits.of_child {p : Path} {name : String} (h : (p.child name).Fits) : p.Fits :=
  ⟨pathShort_of_child h.text, fun other ho => h.names other (List.mem_append_left _ ho)⟩

theorem Fits.of_inside {p : Path} {names : List String} (more : List String)
    (h : (p.inside (names ++ more)).Fits) : (p.inside names).Fits := by
  induction more generalizing names with
  | nil => simpa using h
  | cons name rest ih =>
    have hnext : (p.inside ((names ++ [name]) ++ rest)).Fits := by simpa using h
    have hchild := ih hnext
    rw [inside_concat] at hchild
    exact hchild.of_child

theorem Fits.allows {p : Path} {names : List String} {name : String}
    (h : (p.inside (names ++ [name])).Fits) (hup : name ≠ upName) :
    Allows (p.inside names) name where
  notUp := hup
  short := h.names name (by simp [inside])
  pathShort := inside_concat p names name ▸ h.text

end Path

section Types

variable {qualifiedName extension : String}

theorem typeNames_ne_nil (qualifiedName extension : String) :
    typeNames qualifiedName extension ≠ [] := by
  simp [typeNames]

theorem fileName_mem_typeNames (qualifiedName extension : String) :
    fileName qualifiedName extension ∈ typeNames qualifiedName extension :=
  List.mem_append_right _ List.mem_cons_self

theorem fileName_ne_upName (h : ProperType qualifiedName) :
    fileName qualifiedName extension ≠ Path.upName := by
  intro he
  have hhead : (fileName qualifiedName extension).toList.head? ≠ some '.' := head?_fileName h
  rw [he] at hhead
  exact hhead (by decide)

theorem upName_not_mem_of_undotted {names : List String}
    (h : ∀ name ∈ names, '.' ∉ name.toList) : Path.upName ∉ names := fun hup =>
  h _ hup (by decide)

theorem upName_not_mem_typeNames (h : ProperType qualifiedName) :
    Path.upName ∉ typeNames qualifiedName extension := by
  intro hup
  rcases List.mem_append.1 hup with hup | hup
  · exact (h.not_mem_folderNames hup).2.1 (by decide)
  · exact fileName_ne_upName h (List.mem_singleton.1 hup).symm

end Types

/-! Roots -/

/-- A folder that can be made if it is not there, with nothing in it. -/
structure Vacant (t : FileTree) (root : Path) : Prop where
  makeable : (t.makeFolders root).2 = none
  allowed : root.fault? = none
  empty : ∀ entry ∈ (t.makeFolders root).1.entries, entry.1.isBelow root.settled = false

def placed (root : Path) (extension : String) (file : Recorded) : Path × Bytes :=
  (root.settled.inside (typeNames file.qualifiedName extension), utf8Bytes file.content.toList)

/-- A tree in which a root holds the files of some artifacts, and which is the same elsewhere. -/
structure Filled (made : FileTree) (root : Path) (extension : String) (files : List Recorded)
    (t : FileTree) : Prop where
  proper : ∀ file ∈ files, ProperType file.qualifiedName ∧ Whole file.qualifiedName
  there : t.isFolder root = true
  outside : ∀ q, q.isBelow root.settled = false → t.entry? q = made.entry? q
  undotted : ∀ names, names ≠ [] → Path.upName ∉ names →
    t.entry? (root.settled.inside names) = some .folder → ∀ name ∈ names, '.' ∉ name.toList
  listed : t.filesIn root.settled = files.map (placed root extension)

theorem onlyUp_inside (p : Path) {names : List String} (hne : names ≠ [])
    (hup : Path.upName ∉ names) : (p.inside names).onlyUp = false := by
  obtain ⟨name, rest, rfl⟩ := List.exists_cons_of_ne_nil hne
  have hname : (name == Path.upName) = false := by
    simp only [beq_eq_false_iff_ne]
    exact fun he => hup (by simp [he])
  simp [Path.onlyUp, Path.inside, hname]

theorem Vacant.filled {t : FileTree} {root : Path} (h : Vacant t root) (extension : String) :
    Filled (t.makeFolders root).1 root extension [] (t.makeFolders root).1 := by
  have hmade : t.makeFolders root = ((t.makeFolders root).1, none) :=
    Prod.ext rfl h.makeable
  refine ⟨by simp, isFolder_of_makeFolders hmade, fun _ _ => rfl, ?_, ?_⟩
  · intro names hne hup he
    have hget : Keyed.get? (root.settled.inside names) (t.makeFolders root).1.entries =
        some .folder := by
      simpa [onlyUp_inside root.settled hne hup, entry?] using he
    have hnot := h.empty _ (Keyed.mem_of_get? hget)
    rw [Path.isBelow_inside _ hne] at hnot
    cases hnot
  · rw [filesIn, List.map_nil, List.filterMap_eq_nil_iff]
    intro entry hentry
    simp only [fileBelow?, h.empty entry hentry]
    split <;> rfl

theorem ne_inside_of_not_below {p q : Path} {names : List String} (hne : names ≠ [])
    (hq : q.isBelow p = false) : q ≠ p.inside names := by
  rintro rfl
  rw [Path.isBelow_inside _ hne] at hq
  cases hq

namespace Filled

variable {made t : FileTree} {root : Path} {extension : String} {files : List Recorded}
  {names : List String}

/-- One more folder without dots changes nothing. -/
theorem withFolder (h : Filled made root extension files t)
    (hne : names ≠ []) (hdots : ∀ name ∈ names, '.' ∉ name.toList) :
    Filled made root extension files (t.withFolder (root.settled.inside names)) := by
  refine ⟨h.proper, isFolder_of_keepsFolders (grows_withFolder t _).keepsFolders h.there, ?_, ?_,
    ?_⟩
  · intro q hq
    rw [entry?_withFolder_of_ne t (ne_inside_of_not_below hne hq)]
    exact h.outside q hq
  · intro more hmore hup he
    by_cases hsame : more = names
    · exact hsame ▸ hdots
    · rw [entry?_withFolder_of_ne t fun heq => hsame (Path.inside_inj heq)] at he
      exact h.undotted more hmore hup he
  · rw [filesIn_withFolder]
    exact h.listed

/-- Files stand only at the paths of types. -/
theorem exists_of_file (h : Filled made root extension files t) {bytes : Bytes} (hne : names ≠ [])
    (he : t.entry? (root.settled.inside names) = some (.file bytes)) :
    ∃ file ∈ files, typeNames file.qualifiedName extension = names := by
  have hmem := mem_filesIn he (Path.isBelow_inside _ hne)
  rw [h.listed] at hmem
  obtain ⟨file, hfile, heq⟩ := List.mem_map.1 hmem
  exact ⟨file, hfile, Path.inside_inj (Prod.mk.inj heq).1⟩

/-- No file stands where a folder without dots is wanted. -/
theorem not_file (h : Filled made root extension files t) (hext : ProperExtension extension)
    (hne : names ≠ []) (hdots : ∀ name ∈ names, '.' ∉ name.toList) (bytes : Bytes) :
    t.entry? (root.settled.inside names) ≠ some (.file bytes) := by
  intro he
  obtain ⟨file, _, rfl⟩ := h.exists_of_file hne he
  exact hdots _ (fileName_mem_typeNames _ _) (dot_mem_fileName hext)

variable {qualifiedName : String}

/-- The place of a type without an artifact is free. -/
theorem free (h : Filled made root extension files t) (hext : ProperExtension extension)
    (hq : ProperType qualifiedName) (hnew : ∀ file ∈ files, file.qualifiedName ≠ qualifiedName) :
    t.entry? (root.settled.inside (typeNames qualifiedName extension)) = none := by
  have hne := typeNames_ne_nil qualifiedName extension
  cases he : t.entry? (root.settled.inside (typeNames qualifiedName extension)) with
  | none => rfl
  | some e =>
    cases e with
    | folder =>
      have hdots := h.undotted _ hne (upName_not_mem_typeNames hq) he
      exact absurd (dot_mem_fileName hext) (hdots _ (fileName_mem_typeNames _ _))
    | file bytes =>
      obtain ⟨file, hfile, hnames⟩ := h.exists_of_file hne he
      have hpaths : Site.filePath root file.qualifiedName extension =
          Site.filePath root qualifiedName extension := by
        rw [filePath_eq_inside root (h.proper file hfile).1 hext, filePath_eq_inside root hq hext,
          hnames]
      exact absurd (eq_of_filePath_eq (h.proper file hfile).1 hq hext hpaths) (hnew file hfile)

/-- Folders without dots can be made one inside the other. -/
theorem makeFolders_inside {u : FileTree} {names : List String} (hext : ProperExtension extension)
    (hu : t.makeFolders (root.inside names) = (u, none)) (h : Filled made root extension files u)
    (more : List String) (hfits : (root.inside (names ++ more)).Fits)
    (hdots : ∀ name ∈ names ++ more, '.' ∉ name.toList)
    (hwhole : ∀ name ∈ names ++ more, Whole name) :
    ∃ v, t.makeFolders (root.inside (names ++ more)) = (v, none) ∧
      Filled made root extension files v := by
  induction more generalizing names u with
  | nil => exact ⟨u, by simpa using hu, h⟩
  | cons name rest ih =>
    have hmore : names ++ name :: rest = (names ++ [name]) ++ rest := by simp
    rw [hmore] at hfits hdots hwhole ⊢
    have hdots' : ∀ other ∈ names ++ [name], '.' ∉ other.toList := fun other ho =>
      hdots other (List.mem_append_left _ ho)
    have hup := upName_not_mem_of_undotted hdots'
    have hup' : Path.upName ∉ names := fun hm => hup (List.mem_append_left _ hm)
    have hname : name ≠ Path.upName := fun he => hup (by simp [he])
    have hwhole' : ∀ other ∈ names, Whole other := fun other ho =>
      hwhole other (List.mem_append_left _ (List.mem_append_left _ ho))
    have hplace : (root.inside names).settled.enter name = root.settled.inside (names ++ [name]) := by
      rw [Path.settled_inside_of_whole _ hup' hwhole', Path.inside_concat, Path.enter,
        storedName_of_whole (hwhole name (by simp))]
    have hnext : t.makeFolders ((root.inside names).child name) =
        (u.withFolder ((root.inside names).settled.enter name), none) := by
      refine makeFolders_child hu (hfits.of_inside rest |>.allows hname) fun bytes => ?_
      rw [hplace]
      exact h.not_file hext (by simp) hdots' bytes
    rw [← Path.inside_concat, hplace] at hnext
    exact ih hnext (h.withFolder (by simp) hdots') hfits hdots hwhole

/-- The file of one more type. -/
theorem add (h : Filled made root extension files t) (hq : ProperType qualifiedName)
    (hwhole : Whole qualifiedName)
    (hfree : t.entry? (root.settled.inside (typeNames qualifiedName extension)) = none)
    (path text : String) :
    Filled made root extension (files ++ [⟨path, text, qualifiedName⟩])
      ((t.put (root.settled.inside (typeNames qualifiedName extension)) (.file [])).put
        (root.settled.inside (typeNames qualifiedName extension))
        (.file (utf8Bytes text.toList))) := by
  have hne := typeNames_ne_nil qualifiedName extension
  have hplace := onlyUp_inside root.settled hne (upName_not_mem_typeNames hq)
  have hempty := t.entry?_put_self (.file []) hplace
  have hkeeps : t.KeepsFolders ((t.put (root.settled.inside (typeNames qualifiedName extension))
      (.file [])).put (root.settled.inside (typeNames qualifiedName extension))
        (.file (utf8Bytes text.toList))) := fun p hp =>
    keepsFolders_put_file _ (by simp [hempty]) p (keepsFolders_put_file _ (by simp [hfree]) p hp)
  constructor
  case proper =>
    intro file hfile
    rcases List.mem_append.1 hfile with hfile | hfile
    · exact h.proper file hfile
    · rw [List.mem_singleton.1 hfile]
      exact ⟨hq, hwhole⟩
  case there => exact isFolder_of_keepsFolders hkeeps h.there
  case outside =>
    intro p hp
    have hne' := ne_inside_of_not_below hne hp
    rw [entry?_put_of_ne _ _ hne', entry?_put_of_ne _ _ hne']
    exact h.outside p hp
  case undotted =>
    intro more hmore hup he
    by_cases hsame : more = typeNames qualifiedName extension
    · subst hsame
      rw [entry?_put_self _ _ hplace] at he
      cases he
    · have hne' : root.settled.inside more ≠
          root.settled.inside (typeNames qualifiedName extension) := fun heq =>
        hsame (Path.inside_inj heq)
      rw [entry?_put_of_ne _ _ hne', entry?_put_of_ne _ _ hne'] at he
      exact h.undotted more hmore hup he
  case listed =>
    rw [filesIn_put_file _ hfree (Path.isBelow_inside _ hne), h.listed, List.map_append]
    rfl

theorem filesBelow (h : Filled made root extension files t) (hext : ProperExtension extension) :
    (t.filesBelow root).Perm (files.map fun file =>
      (Site.filePath root file.qualifiedName extension, utf8Bytes file.content.toList)) := by
  obtain ⟨q, hq, _⟩ := isFolder_iff.1 h.there
  obtain rfl := place_eq_settled hq
  refine (filesBelow_perm hq).trans (List.Perm.of_eq ?_)
  rw [h.listed, List.map_map]
  refine List.map_congr_left fun file hfile => ?_
  have hpath : rebased root root.settled
      (root.settled.inside (typeNames file.qualifiedName extension)) =
        root.inside (typeNames file.qualifiedName extension) := by
    simp [rebased, Path.inside]
  rw [filePath_eq_inside root (h.proper file hfile).1 hext, Function.comp_apply, placed, hpath]

end Filled

theorem Vacant.filesBelow {t : FileTree} {root : Path} (h : Vacant t root) :
    t.filesBelow root = [] := by
  have hmade : t.makeFolders root = ((t.makeFolders root).1, none) :=
    Prod.ext rfl h.makeable
  rcases open_of_makeFolders hmade with hthere | ⟨q, hq, he⟩ | ⟨e, hq, _⟩
  · have hfilled := h.filled ".java"
    rw [makeFolders_of_isFolder hthere] at hfilled
    exact List.perm_nil.1 (hfilled.filesBelow ⟨rfl, by decide, by decide, by decide⟩)
  · have hbelow : ∀ entry ∈ t.entries, entry.1.isBelow q = false := by
      intro entry hentry
      have hput : t.makeFolders root = (t.put q .folder, none) :=
        makeFolders_of_makeFolder (makeFolder_eq_ok_iff.2 ⟨q, hq, he, rfl⟩)
      have hmem : entry ∈ (t.makeFolders root).1.entries := by
        rw [hput]
        exact mem_entries_put he hentry
      rw [place_eq_settled hq]
      exact h.empty entry hmem
    have hnone : t.entries.filter (·.1.isBelow q) = [] := by
      simpa using hbelow
    simp [FileTree.filesBelow, entriesBelow, hq, hnone]
  · simp [FileTree.filesBelow, entriesBelow, hq]

/-! Emissions into a root -/

theorem fault?_inside {p : Path} {names : List String} (hp : p.fault? = none)
    (hwhole : ∀ name ∈ names, Whole name) (hnul : ∀ name ∈ names, Char.ofNat 0 ∉ name.toList) :
    (p.inside names).fault? = none := by
  rw [Path.fault?_eq_none_iff] at hp ⊢
  refine List.forall_mem_append.2 ⟨hp, fun name hname c hc => ?_⟩
  exact isNamed_of_not_isHalf (hwhole name hname c hc) fun he => hnul name hname (he ▸ hc)

section Emission

variable {made t u : FileTree} {root : Path} {extension qualifiedName : String}
  {files : List Recorded}

theorem filePath_eq_child (root : Path) (hq : ProperType qualifiedName)
    (hext : ProperExtension extension) :
    Site.filePath root qualifiedName extension =
      (root.inside (folderNames qualifiedName)).child (fileName qualifiedName extension) := by
  rw [filePath_eq_inside root hq hext, typeNames, Path.inside_concat]

theorem parent_filePath (root : Path) (hq : ProperType qualifiedName)
    (hext : ProperExtension extension) :
    (Site.filePath root qualifiedName extension).parent =
      root.inside (folderNames qualifiedName) := by
  rw [filePath_eq_child root hq hext]
  simp [Path.parent, Path.child, Path.inside]

theorem nul_not_mem_typeNames (hq : ProperType qualifiedName) (hext : ProperExtension extension) :
    ∀ name ∈ typeNames qualifiedName extension, Char.ofNat 0 ∉ name.toList := by
  refine List.forall_mem_append.2 ⟨fun name hname => (hq.not_mem_folderNames hname).2.2, ?_⟩
  simpa using nul_not_mem_fileName hq hext

theorem place_filePath (hq : ProperType qualifiedName) (hwhole : Whole qualifiedName)
    (hext : ProperExtension extension)
    (hfits : (Site.filePath root qualifiedName extension).Fits)
    (hthere : t.isFolder (root.inside (folderNames qualifiedName)) = true) :
    t.place (Site.filePath root qualifiedName extension) =
      .ok (root.settled.inside (typeNames qualifiedName extension)) := by
  have hallows : Allows (root.inside (folderNames qualifiedName))
      (fileName qualifiedName extension) := by
    rw [filePath_eq_inside root hq hext] at hfits
    exact hfits.allows (fileName_ne_upName hq)
  have hfile := whole_of_mem_typeNames hwhole hext.whole _ (fileName_mem_typeNames _ _)
  rw [filePath_eq_child root hq hext, place_child hthere hallows,
    Path.settled_inside_of_whole _ (upName_not_mem_of_undotted hq.undotted)
      (whole_of_mem_folderNames hwhole), Path.enter, storedName_of_whole hfile, ← Path.inside_concat]
  rfl

variable [Codecs]

/-- The file of a new type is opened in a root that stays filled. -/
theorem openFile_of_filled (hroot : root.fault? = none) (hext : ProperExtension extension)
    (hu : t.makeFolders root = (u, none)) (h : Filled made root extension files u)
    (hq : ProperType qualifiedName) (hwhole : Whole qualifiedName)
    (hfits : (Site.filePath root qualifiedName extension).Fits)
    (hnew : ∀ file ∈ files, file.qualifiedName ≠ qualifiedName) :
    ∃ v, Filled made root extension files v ∧
      v.entry? (root.settled.inside (typeNames qualifiedName extension)) = none ∧
      Site.openFile t "utf-8" qualifiedName (Site.filePath root qualifiedName extension) =
        (v.put (root.settled.inside (typeNames qualifiedName extension)) (.file []),
          .ok (root.settled.inside (typeNames qualifiedName extension))) := by
  have hparent := parent_filePath root hq hext
  have hfolders : ∃ v, t.makeFolders (root.inside (folderNames qualifiedName)) = (v, none) ∧
      Filled made root extension files v := by
    have hstart : t.makeFolders (root.inside []) = (u, none) := by simpa [Path.inside] using hu
    have hend : (root.inside (folderNames qualifiedName)).Fits := by
      rw [filePath_eq_child root hq hext] at hfits
      exact hfits.of_child
    exact Filled.makeFolders_inside hext hstart h (folderNames qualifiedName) hend hq.undotted
      (whole_of_mem_folderNames hwhole)
  obtain ⟨v, hv, hfilled⟩ := hfolders
  have hfree := hfilled.free hext hq hnew
  have hplace := place_filePath hq hwhole hext hfits (isFolder_of_makeFolders hv)
  have hopen := openNew_eq_ok_iff.2 ⟨hplace, by simp [hfree], rfl⟩
  have hnamed : Site.encodingFault? "utf-8" = none := by decide +kernel
  have hready : Site.Prepares t v "utf-8" (Site.filePath root qualifiedName extension) := by
    constructor
    case parent =>
      rw [hparent]
      exact fault?_inside hroot (whole_of_mem_folderNames hwhole)
        fun name hname => (hq.not_mem_folderNames hname).2.2
    case folders => exact hparent ▸ hv
    case asked =>
      rw [hnamed, filePath_eq_inside root hq hext]
      exact fault?_inside hroot (whole_of_mem_typeNames hwhole hext.whole)
        (nul_not_mem_typeNames hq hext)
  exact ⟨v, hfilled, hfree, Site.openFile_of_openNew qualifiedName hready hopen
    Codecs.find_utf8⟩

/-- The text of a new type is written below the root. -/
theorem emit_of_filled (hroot : root.fault? = none) (hext : ProperExtension extension)
    (hu : t.makeFolders root = (u, none)) (h : Filled made root extension files u)
    (hq : ProperType qualifiedName) (hwhole : Whole qualifiedName)
    (hfits : (Site.filePath root qualifiedName extension).Fits)
    (hnew : ∀ file ∈ files, file.qualifiedName ≠ qualifiedName) {created : List Path}
    (hcreated : Site.filePath root qualifiedName extension ∉ created) {text : String}
    (htext : Whole text) (workingFolder path : String) :
    ∃ v, Filled made root extension (files ++ [⟨path, text, qualifiedName⟩]) v ∧
      (⟨t, .folder root extension "utf-8" created, workingFolder⟩ : Site).emitText qualifiedName
          text =
        ⟨⟨v, .folder root extension "utf-8"
            (created ++ [Site.filePath root qualifiedName extension]), workingFolder⟩,
          .ok ((Site.filePath root qualifiedName extension).address workingFolder), []⟩ := by
  obtain ⟨v, hfilled, hfree, hopen⟩ := openFile_of_filled hroot hext hu h hq hwhole hfits hnew
  refine ⟨_, hfilled.add hq hwhole hfree path text, ?_⟩
  have hempty := v.entry?_put_self (.file []) (onlyUp_inside root.settled
    (typeNames_ne_nil qualifiedName extension) (upName_not_mem_typeNames hq))
  rw [Site.emit_of_openFile_ok hcreated hopen (Codecs.feed_utf8 [] htext),
    overwrite_of_empty _ hempty]

end Emission

end BeanForge

import BeanForge.Proofs.Artifact.Emission
import BeanForge.Proofs.Artifact.Filling
import BeanForge.Proofs.FileTree.Obstacles

/-!
# Confinement

A store with a root writes below it if the name of a type begins neither with a dot nor with a
slash; only what is missing on the way to the root is added outside. Any other name is a path of
its own, which the root does not contain.
-/

namespace BeanForge

open Text FileTree

/-- A path that goes on from a root by one name or more, none of which leads up. -/
def Path.Encloses (root p : Path) : Prop :=
  ∃ names, names ≠ [] ∧ Path.upName ∉ names ∧ p = root.inside names

namespace Path

variable {root p : Path}

theorem Encloses.isBelow_settled (h : root.Encloses p) : p.settled.isBelow root.settled = true := by
  obtain ⟨names, hne, hup, rfl⟩ := h
  rw [settled_inside root hup]
  exact isBelow_inside root.settled (by simpa using hne)

theorem mem_wayTo_inside {q : Path} {names : List String} (hup : upName ∉ names)
    (hq : q ∈ (root.inside names).wayTo) : q ∈ root.wayTo ∨ q.isBelow root.settled = true := by
  rw [inside, wayTo_append] at hq
  exact (List.mem_append.1 hq).imp_right (mem_way_of_plain hup)

theorem Encloses.mem_wayTo_parent {q : Path} (h : root.Encloses p) (hq : q ∈ p.parent.wayTo) :
    q ∈ root.wayTo ∨ q.isBelow root.settled = true := by
  obtain ⟨names, hne, hup, rfl⟩ := h
  have hparent : (root.inside names).parent = root.inside names.dropLast := by
    rw [parent, inside, inside, List.dropLast_append_of_ne_nil hne]
  rw [hparent] at hq
  exact mem_wayTo_inside (fun hmem => hup ((List.dropLast_sublist names).subset hmem)) hq

end Path

/-! Trees that differ below a root -/

/-- Outside of a root nothing has changed, except that missing folders on the way to the root
may have been made. -/
def Confined (root : Path) (t u : FileTree) : Prop :=
  ∀ q, q.isBelow root.settled = false → u.entry? q = t.entry? q ∨
    q ∈ root.wayTo ∧ t.entry? q = none ∧ u.entry? q = some .folder

namespace Confined

variable {root : Path} {t u v : FileTree}

theorem refl (root : Path) (t : FileTree) : Confined root t t := fun _ _ => .inl rfl

theorem trans (h : Confined root t u) (h' : Confined root u v) : Confined root t v := by
  intro q hq
  rcases h q hq with hu | ⟨hway, ht, hu⟩ <;> rcases h' q hq with hv | ⟨hway', hu', hv⟩
  · exact .inl (hv.trans hu)
  · exact .inr ⟨hway', hu ▸ hu', hv⟩
  · exact .inr ⟨hway, ht, hv.trans hu⟩
  · exact .inr ⟨hway, ht, hv⟩

theorem put {p : Path} (e : Entry) (h : p.isBelow root.settled = true) :
    Confined root t (t.put p e) := by
  intro q hq
  have hne : q ≠ p := by
    rintro rfl
    rw [h] at hq
    cases hq
  exact .inl (t.entry?_put_of_ne e hne)

theorem overwrite {p : Path} (bytes : Bytes) (h : p.isBelow root.settled = true) :
    Confined root t (t.overwrite p bytes) := by
  unfold FileTree.overwrite
  split
  · exact put _ h
  · exact refl root t

theorem of_paves {places : List Path} (h : Paves places t u)
    (hplaces : ∀ q ∈ places, q ∈ root.wayTo ∨ q.isBelow root.settled = true) :
    Confined root t u := by
  intro q hq
  refine (h q).imp_right fun ⟨hmem, he⟩ => ⟨(hplaces q hmem).resolve_right ?_, he⟩
  simp [hq]

end Confined

/-! Opening files -/

namespace Site

section Opening

variable [Codecs]

/-- Opening a file makes folders at most, unless the file is opened. -/
theorem openFile_tree_cases (tree : FileTree) (encoding qualifiedName : String) (path : Path) :
    (openFile tree encoding qualifiedName path).1 = tree ∨
      (openFile tree encoding qualifiedName path).1 = (tree.makeFolders path.parent).1 ∨
        Opened tree (openFile tree encoding qualifiedName path).1 path := by
  cases ho : openFile tree encoding qualifiedName path with
  | mk u opened =>
    cases openFile_eq_iff.1 ho with
    | parent => exact .inl rfl
    | unmade _ bad => exact .inr (.inl (by rw [bad]))
    | unasked _ folders => exact .inr (.inl (by rw [folders]))
    | unopened ready => exact .inr (.inl (by rw [ready.folders]))
    | unknownCharset ready there | opened ready there =>
      exact .inr (.inr ⟨_, ready.folders, there⟩)

theorem confined_openFile {root path : Path} (h : root.Encloses path) (tree : FileTree)
    (encoding qualifiedName : String) :
    Confined root tree (openFile tree encoding qualifiedName path).1 := by
  have hmade : Confined root tree (tree.makeFolders path.parent).1 :=
    .of_paves (tree.paves_makeFolders path.parent) fun _ hq => h.mem_wayTo_parent hq
  rcases openFile_tree_cases tree encoding qualifiedName path with he | he | ⟨made, hm, hopen⟩
  · rw [he]
    exact .refl root tree
  · rw [he]
    exact hmade
  · rw [hm] at hmade
    obtain ⟨_, _, hu⟩ := openNew_eq_ok_iff.1 hopen
    rw [hu]
    exact hmade.trans (.put _ h.isBelow_settled)

theorem confined_create {root : Path} {extension qualifiedName : String}
    (h : root.Encloses (filePath root qualifiedName extension)) (tree : FileTree)
    (encoding workingFolder : String) (created : List Path) :
    Confined root tree ((⟨tree, .folder root extension encoding created, workingFolder⟩ :
      Site).create qualifiedName).1.tree := by
  have hopen := confined_openFile h tree encoding qualifiedName
  rcases create_folder_cases tree root extension encoding workingFolder qualifiedName created with
    ⟨_, hcreate⟩ | ⟨_, u, stop, ho, hcreate⟩ | ⟨_, u, ho, hcreate⟩
  · rw [hcreate]
    exact .refl root tree
  · rw [hcreate]
    rwa [ho] at hopen
  · rw [hcreate]
    rwa [ho] at hopen

end Opening

end Site

/-! Paths of classes -/

namespace Interface

/-- The suffix of a class keeps the last name on its path from leading up. -/
theorem upName_not_mem_namesOf (i : Interface) {extension : String}
    (hext : '/' ∉ extension.toList) :
    Path.upName ∉ Path.namesOf (slashed i.entity.qualifiedName ++ extension.toList) := by
  obtain ⟨folders, last, hfolders, hnames⟩ := i.exists_names_of_class (splitAt_of_not_mem hext)
  rw [← toList_relativePath, hnames, List.mem_append, List.mem_cons]
  rintro (hmem | hfile | hnone)
  · obtain ⟨piece, hpiece, he⟩ := List.mem_map.1 (List.mem_filter.1 hmem).1
    have hdots : '.' ∈ piece := by
      have hchars := congrArg String.toList he
      rw [String.toList_ofList] at hchars
      rw [hchars]
      decide
    have hall : piece ∈ splitAt '/' (slashed i.qualifiedName) :=
      hfolders ▸ List.mem_append_left _ hpiece
    exact dot_not_mem_slashed _ (mem_of_mem_splitAt hall hdots)
  · have himpl : 'I' ∈ Path.upName.toList := by
      rw [hfile, String.toList_ofList]
      simp
    exact absurd himpl (by decide)
  · cases hnone

theorem encloses_of_inward (i : Interface) (root : Path) {extension : String}
    (hname : Inward i.entity.qualifiedName) (hext : '/' ∉ extension.toList) :
    root.Encloses (Site.filePath root i.entity.qualifiedName extension) := by
  obtain ⟨_, _, _, hnames⟩ := i.exists_names_of_class (splitAt_of_not_mem hext)
  refine ⟨_, ?_, i.upName_not_mem_namesOf hext, filePath_eq root hname hext⟩
  rw [← toList_relativePath, hnames]
  simp

/-- Any other name is a path that starts at one of the roots of all folders. -/
theorem filePath_of_not_inward (i : Interface) (root : Path) (extension : String)
    (hname : ¬Inward i.entity.qualifiedName) :
    Site.filePath root i.entity.qualifiedName extension =
      Path.ofString (relativePath i.entity.qualifiedName extension) := by
  have hhead : ∃ rest, (relativePath i.entity.qualifiedName extension).toList = '/' :: rest := by
    rw [toList_relativePath]
    cases hq : i.entity.qualifiedName.toList with
    | nil => exact absurd ⟨by simp [hq], by simp [hq]⟩ hname
    | cons c more =>
      have hc : c = '.' ∨ c = '/' := by
        by_contra hne
        rw [not_or] at hne
        exact hname ⟨by simpa [hq] using hne.1, by simpa [hq] using hne.2⟩
      rcases hc with rfl | rfl
      · exact ⟨_, by simp [slashed, hq]; rfl⟩
      · exact ⟨_, by simp [slashed, hq]; rfl⟩
  obtain ⟨rest, hrest⟩ := hhead
  have hanchor : (Path.ofString (relativePath i.entity.qualifiedName extension)).anchor ≠
      .here := by
    rw [Path.ofString, hrest]
    show Path.anchorOf ('/' :: rest) ≠ .here
    unfold Path.anchorOf
    split <;> simp_all
  rw [Site.filePath, Path.join, if_neg hanchor]

/-- A class lies below the root if its qualified name begins neither with a dot nor with a slash;
else it lies there only by chance. Where it lies below the root, making its file changes nothing
outside but missing folders on the way to the root. -/
theorem encloses_iff_inward [Codecs] (i : Interface) (root : Path) (extension : String)
    (hext : '/' ∉ extension.toList) :
    (root.Encloses (Site.filePath root i.entity.qualifiedName extension) ↔
      Inward i.entity.qualifiedName ∨
        root.Encloses (Path.ofString (relativePath i.entity.qualifiedName extension))) ∧
    (root.Encloses (Site.filePath root i.entity.qualifiedName extension) →
      ∀ tree encoding created workingFolder, Confined root tree
        ((⟨tree, .folder root extension encoding created, workingFolder⟩ : Site).create
          i.entity.qualifiedName).1.tree) := by
  refine ⟨⟨fun h => ?_, ?_⟩, fun h tree encoding created workingFolder =>
    Site.confined_create h tree encoding workingFolder created⟩
  · by_cases hname : Inward i.entity.qualifiedName
    · exact .inl hname
    · rw [i.filePath_of_not_inward root extension hname] at h
      exact .inr h
  · by_cases hname : Inward i.entity.qualifiedName
    · exact fun _ => i.encloses_of_inward root hname hext
    · rw [i.filePath_of_not_inward root extension hname]
      exact fun h => h.resolve_left hname

theorem encloses_iff_inward_of_packaged_person :
    let person : Interface := ⟨"Person", "a.b", [], none⟩
    let root : Path := ⟨.here, ["out"]⟩
    '/' ∉ ".java".toList ∧
      root.Encloses (Site.filePath root person.entity.qualifiedName ".java") := by
  intro person root
  have hext : '/' ∉ ".java".toList := by decide
  exact ⟨hext, (person.encloses_iff_inward root ".java" hext).1.2 (.inl (by decide))⟩

/-- A package that begins with a slash or with a dot leads out of the root. -/
theorem not_encloses_of_leading_slash_or_dot :
    let root : Path := ⟨.here, ["out"]⟩
    let outside : Path := ⟨.root, ["srv", "PersonImpl.java"]⟩
    let site : Site := ⟨{}, .folder root ".java" "utf-8" [], ""⟩
    ∀ package ∈ ["/srv", ".srv"],
      let person : Interface := ⟨"Person", package, [], none⟩
      ¬root.Encloses (Site.filePath root person.entity.qualifiedName ".java") ∧
        outside.isBelow root.settled = false ∧
        (site.create person.entity.qualifiedName).1.tree.entry? outside = some (.file []) := by
  intro root outside site package hpackage person
  have hcases : package = "/srv" ∨ package = ".srv" := by simpa using hpackage
  have hpath : Site.filePath root person.entity.qualifiedName ".java" = outside := by
    rcases hcases with rfl | rfl <;> decide +kernel
  refine ⟨?_, rfl, ?_⟩
  · rintro ⟨names, _, _, hinside⟩
    rw [hpath] at hinside
    have hanchor : Anchor.root = Anchor.here := congrArg Path.anchor hinside
    cases hanchor
  · rcases hcases with rfl | rfl <;> decide +kernel

end Interface

end BeanForge

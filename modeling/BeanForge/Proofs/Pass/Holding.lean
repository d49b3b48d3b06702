import BeanForge.Proofs.Artifact.Identity
import BeanForge.Proofs.Pass.Delivery

/-!
# What deliveries leave

Every file that was delivered stands at a place of its own and stays as it was written, as all that
is done later is to make folders and to open files at other places. Outside of the root nothing
changes once the root is made, so that templates which are kept apart from it stay the same.
-/

namespace BeanForge

open Text FileTree

/-! Paths of classes -/

namespace Interface

variable {i : Interface}

theorem Proper.upName_not_mem (h : i.Proper) (extension : String) :
    Path.upName ∉ i.folders ++ [i.name ++ "Impl" ++ extension] :=
  h.typeNames_eq extension ▸ upName_not_mem_typeNames h.properType

theorem Proper.within_classPath (h : i.Proper) (hwhole : i.IsWhole) (root : Path)
    {extension : String} (hext : '/' ∉ extension.toList) :
    root.Within extension (i.classPath root extension) :=
  h.filePath_eq root hext ▸ h.within_filePath hwhole root hext

theorem parent_classPath (i : Interface) (root : Path) (extension : String) :
    (i.classPath root extension).parent = root.inside i.folders := by
  simp [classPath, Path.inside, Path.parent]

theorem Proper.isBelow_classPath (h : i.Proper) (root : Path) (extension : String) :
    (i.classPath root extension).settled.isBelow root.settled = true := by
  rw [classPath, Path.settled_inside root (h.upName_not_mem extension)]
  exact Path.isBelow_inside _ (by simp)

end Interface

/-! Files that are held -/

/-- Files with their bytes, each at a place of its own below the root of a folder's store. -/
structure Site.Holds (root : Path) (extension encoding : String) (files : List (Path × Bytes))
    (s : Site) : Prop where
  store : s.store = .folder root extension encoding (files.map (·.1))
  within : ∀ e ∈ files, root.Within extension e.1
  nodup : (files.map (·.1)).Nodup
  placed : ∀ e ∈ files, s.tree.place e.1 = .ok e.1.settled
  content : ∀ e ∈ files, s.tree.entry? e.1.settled = some (.file e.2)

namespace Site.Holds

variable {root : Path} {extension encoding : String} {files : List (Path × Bytes)} {s : Site}

theorem read (h : s.Holds root extension encoding files) {e : Path × Bytes} (he : e ∈ files) :
    s.tree.read e.1 = .ok e.2 :=
  read_eq_ok_iff.2 ⟨_, h.placed e he, h.content e he⟩

/-- Different paths that go on from the root never up lead to different places. -/
theorem nodup_settled (h : s.Holds root extension encoding files) :
    ((files.map (·.1)).map Path.settled).Nodup := by
  refine List.pairwise_map.2 (h.nodup.imp_of_mem fun hp hq hne hs => hne ?_)
  obtain ⟨e, he, rfl⟩ := List.mem_map.1 hp
  obtain ⟨e', he', rfl⟩ := List.mem_map.1 hq
  exact Path.eq_of_settled_eq (h.within e he) (h.within e' he') hs

end Site.Holds

namespace Plan

variable [Codecs] {plan : Plan} {root : Path} {extension encoding : String}

/-- One more class leaves all others as they are. -/
theorem Makes.holds (hext : '/' ∉ extension.toList) {before : Site} {i : Interface} {bytes : Bytes} {files : List (Path × Bytes)}
    (h : plan.Makes root extension encoding before i bytes)
    (hholds : before.Holds root extension encoding files) :
    (plan.work before i).1.Holds root extension encoding
      (files ++ [(i.classPath root extension, bytes)]) := by
  obtain ⟨hproper, hwhole, _, hfresh, u, hopened, hgained⟩ := h
  have hnot := hopened.ne_folder
  have hwithin := hproper.within_classPath hwhole root hext
  have htouches := hopened.touches.trans (touches_put_file bytes hnot)
  have hnew : i.classPath root extension ∉ files.map (·.1) := by
    rwa [hholds.store] at hfresh
  rw [hgained, overwrite_of_empty bytes hopened.empty]
  constructor
  case store => simp [hholds.store, Store.enlist]
  case within =>
    exact List.forall_mem_append.2 ⟨hholds.within, List.forall_mem_singleton.2 hwithin⟩
  case nodup =>
    rw [List.map_append, List.map_singleton, List.nodup_append]
    refine ⟨hholds.nodup, by simp, fun p hp q hq he => hnew ?_⟩
    have hlast : q = i.classPath root extension := List.mem_singleton.1 hq
    rwa [← hlast, ← he]
  case placed =>
    refine List.forall_mem_append.2 ⟨fun e he => ?_, List.forall_mem_singleton.2 ?_⟩
    · exact place_of_keepsFolders htouches.1 (hholds.placed e he)
    · exact place_of_keepsFolders (keepsFolders_put_file bytes hnot) hopened.place
  case content =>
    refine List.forall_mem_append.2 ⟨fun e he => ?_, List.forall_mem_singleton.2 ?_⟩
    · have hne : e.1.settled ≠ (i.classPath root extension).settled := fun hs =>
        hnew (Path.eq_of_settled_eq (hholds.within e he) hwithin hs ▸ List.mem_map_of_mem he)
      exact (htouches.2 _ hne e.2).2 (hholds.content e he)
    · exact u.entry?_put_self _ (onlyUp_of_entry?_ne hnot)

theorem Delivers.holds (hext : '/' ∉ extension.toList) {before after : Site} {batch : List Interface}
    {kept files : List (Path × Bytes)}
    (h : plan.Delivers root extension encoding before batch after files)
    (hholds : before.Holds root extension encoding kept) :
    after.Holds root extension encoding (kept ++ files) := by
  induction h generalizing kept with
  | nil => simpa using hholds
  | fieldless _ _ ih => exact ih hholds
  | made _ makes _ ih => simpa using ih (makes.holds hext hholds)

/-- One file for each interface that has fields, in order. -/
theorem Delivers.paths {before after : Site} {batch : List Interface}
    {files : List (Path × Bytes)}
    (h : plan.Delivers root extension encoding before batch after files) :
    files.map (·.1) = (batch.filter fun i => !i.entity.table.isEmpty).map
      (Interface.classPath root extension) := by
  induction h with
  | nil => rfl
  | fieldless fields _ ih => simpa [fields] using ih
  | made fields _ _ ih => simp [fields, ih]

/-- The bytes of a file are rendered from the tree at the turn of its interface. -/
theorem Delivers.exists_renders {before after : Site} {batch : List Interface}
    {files : List (Path × Bytes)}
    (h : plan.Delivers root extension encoding before batch after files)
    {done rest : List Interface} {i : Interface} (hbatch : batch = done ++ i :: rest)
    (hfields : i.entity.table.isEmpty = false) :
    ∃ bytes, (i.classPath root extension, bytes) ∈ files ∧
      plan.Renders encoding (plan.siteOver before done).tree i bytes := by
  induction h generalizing done with
  | nil => simp at hbatch
  | fieldless fields _ ih =>
    cases done with
    | nil =>
      obtain rfl := (List.cons.inj hbatch).1
      simp [hfields] at fields
    | cons j more =>
      obtain ⟨rfl, hmore⟩ := List.cons.inj hbatch
      obtain ⟨bytes, hmem, hrenders⟩ := ih hmore
      refine ⟨bytes, hmem, ?_⟩
      rwa [siteOver, List.foldl_cons, work_of_fieldless fields]
  | made fields makes _ ih =>
    cases done with
    | nil =>
      obtain rfl := (List.cons.inj hbatch).1
      exact ⟨_, List.mem_cons_self, makes.renders⟩
    | cons j more =>
      obtain ⟨rfl, hmore⟩ := List.cons.inj hbatch
      obtain ⟨bytes, hmem, hrenders⟩ := ih hmore
      exact ⟨bytes, List.mem_cons_of_mem _ hmem, hrenders⟩

end Plan

/-! Folders below a root -/

/-- Folders made below a root leave all that is not on their way as making the root does. -/
theorem FileTree.makeFolders_of_inside {t u : FileTree} {root : Path} {names : List String}
    (hup : Path.upName ∉ names) (h : t.makeFolders (root.inside names) = (u, none)) :
    ∃ v, t.makeFolders root = (v, none) ∧ v.Grows u ∧
      ∀ q, q ∉ root.settled.way names → u.entry? q = v.entry? q := by
  induction names generalizing root with
  | nil => exact ⟨u, by simpa [Path.inside] using h, .refl u, fun _ _ => rfl⟩
  | cons name rest ih =>
    have hname : name ≠ Path.upName := fun he => hup (he ▸ List.mem_cons_self)
    have hinside : root.inside (name :: rest) = (root.child name).inside rest := by
      simp [Path.inside, Path.child]
    have hchild : (root.child name).settled = root.settled.enter name :=
      Path.settled_inside root fun hm => hname (List.mem_singleton.1 hm).symm
    rw [hinside] at h
    obtain ⟨v, hv, hgrows, hsame⟩ := ih (fun hm => hup (List.mem_cons_of_mem _ hm)) h
    obtain ⟨w, hw, hgrows', hsame'⟩ := makeFolders_parent hname hv
    refine ⟨w, hw, hgrows'.trans hgrows, fun q hq => ?_⟩
    rw [Path.way, if_neg hname, List.mem_cons, not_or] at hq
    rw [hsame q (hchild ▸ hq.2), hsame' q hq.1]

/-- A root that can be made is apart from any folder that is there and has nothing to do with
it. -/
theorem apart_of_makeFolders {t u : FileTree} {root folder : Path}
    (hmade : t.makeFolders root = (u, none)) (hplain : Path.upName ∉ root.names)
    (hthere : t.isFolder folder = true) (hout : ¬folder.settled.names <+: root.settled.names)
    (hin : ¬root.settled.names <+: folder.settled.names)
    (hway : ∀ q ∈ Path.way ⟨folder.anchor, []⟩ folder.names, q.isBelow root.settled = false) :
    Apart t root folder := by
  have hroot : root = Path.inside ⟨root.anchor, []⟩ root.names := by simp [Path.inside]
  have hsettled : root.settled.names = root.names.map storedName := by
    rw [Path.settled, Path.along_of_plain _ hplain, List.nil_append]
  obtain ⟨v, hv, hgrows, hsame⟩ := makeFolders_of_inside hplain (hroot ▸ hmade)
  rw [t.makeFolders_of_names_nil rfl] at hv
  obtain rfl : t = v := (Prod.mk.inj hv).1
  obtain ⟨p, hp, he⟩ := isFolder_iff.1 hthere
  obtain rfl : p = folder.settled := place_eq_settled hp
  intro q hq
  refine ⟨?_, hq.not_isBelow hout hin hway⟩
  rw [hmade]
  rcases hq with hq | rfl | hq
  · have hfolder := folder_of_mem_way (place_eq_ok_iff.1 hp).2 he q hq
    rw [hfolder, hgrows.keepsFolders q hfolder]
  · rw [he, hgrows.keepsFolders _ he]
  · refine hsame q fun hmem => hout ?_
    have hprefix : q.names <+: root.names.map storedName := Path.prefix_of_mem_way hplain hmem
    simp only [Path.isBelow, Bool.and_eq_true, List.isPrefixOf_iff_prefix] at hq
    exact hsettled ▸ hq.1.2.trans hprefix

/-! Templates that are kept apart -/

namespace Plan

variable [Codecs] {plan : Plan} {root : Path} {extension encoding : String} {start : FileTree}

/-- Making a class changes nothing outside of the root, once the root is made. -/
theorem Makes.spares {before : Site} {i : Interface} {bytes : Bytes}
    (h : plan.Makes root extension encoding before i bytes)
    (hspares : Spares start root before.tree) :
    Spares start root (plan.work before i).1.tree := by
  obtain ⟨hproper, _, _, _, u, hopened, hgained⟩ := h
  have hempty := hopened.empty
  have hnot := hopened.ne_folder
  obtain ⟨made, hmade, hopen⟩ := hopened
  obtain ⟨_, hfree, hput⟩ := openNew_eq_ok_iff.1 hopen
  have hfolders : Path.upName ∉ i.folders := fun hup =>
    hproper.upName_not_mem extension (List.mem_append_left _ hup)
  rw [i.parent_classPath] at hmade
  obtain ⟨v, hv, hgrows, hsame⟩ := makeFolders_of_inside hfolders hmade
  have hroot : ∀ q, q.isBelow root.settled = false →
      v.entry? q = FileTree.entry? (start.makeFolders root).1 q := by
    rcases hspares with hstart | ⟨hthere, houtside⟩
    · rw [hstart] at hv
      simp [hv]
    · rw [makeFolders_of_isFolder hthere] at hv
      exact (Prod.mk.inj hv).1 ▸ houtside
  have hkeeps := keepsFolders_put_file [] hfree
  rw [hgained, overwrite_of_empty bytes hempty]
  refine .inr ⟨isFolder_of_keepsFolders (keepsFolders_put_file bytes hnot) ?_, fun q hq => ?_⟩
  · rw [hput]
    exact isFolder_of_keepsFolders hkeeps
      (isFolder_of_keepsFolders hgrows.keepsFolders (isFolder_of_makeFolders hv))
  · have hne : q ≠ (i.classPath root extension).settled := by
      rintro rfl
      rw [hproper.isBelow_classPath] at hq
      cases hq
    have hapart : q ∉ root.settled.way i.folders := fun hmem => by
      rw [Path.mem_way_of_plain hfolders hmem] at hq
      cases hq
    rw [entry?_put_of_ne _ _ hne, hput, entry?_put_of_ne _ _ hne, hsame q hapart, hroot q hq]

/-- At every turn nothing outside of the root has changed but by the making of the root. -/
theorem Delivers.spares {before after : Site} {batch : List Interface}
    {files : List (Path × Bytes)}
    (h : plan.Delivers root extension encoding before batch after files)
    {done rest : List Interface} (hbatch : batch = done ++ rest)
    (hspares : Spares start root before.tree) :
    Spares start root (plan.siteOver before done).tree := by
  induction h generalizing done with
  | nil =>
    obtain rfl : done = [] := (List.append_eq_nil_iff.1 hbatch.symm).1
    exact hspares
  | fieldless fields _ ih =>
    cases done with
    | nil => exact hspares
    | cons j more =>
      obtain ⟨rfl, hmore⟩ := List.cons.inj hbatch
      rw [siteOver, List.foldl_cons, work_of_fieldless fields]
      exact ih hmore hspares
  | made fields makes _ ih =>
    cases done with
    | nil => exact hspares
    | cons j more =>
      obtain ⟨rfl, hmore⟩ := List.cons.inj hbatch
      exact ih hmore (makes.spares hspares)

end Plan

end BeanForge

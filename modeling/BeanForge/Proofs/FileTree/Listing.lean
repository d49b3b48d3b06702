import BeanForge.Proofs.FileTree.Folders

/-!
# Files below a place

The files below a place in the order in which their entries came. What comes new is listed last,
folders are not listed, and the listing of a root has the same files.
-/

namespace BeanForge

open Text

namespace FileTree

def fileBelow? (place : Path) (entry : Path × Entry) : Option (Path × Bytes) :=
  match entry.2 with
  | .file bytes => if entry.1.isBelow place then some (entry.1, bytes) else none
  | .folder => none

def filesIn (t : FileTree) (place : Path) : List (Path × Bytes) :=
  t.entries.filterMap (fileBelow? place)

theorem get?_of_entry?_eq_none {t : FileTree} {p : Path} (h : t.entry? p = none) :
    Keyed.get? p t.entries = none := by
  have hup : p.onlyUp = false := onlyUp_of_entry?_ne (t := t) (by simp [h])
  simpa [hup, entry?] using h

theorem mem_entries_put {t : FileTree} {q : Path} {e : Entry} {entry : Path × Entry}
    (h : t.entry? q = none) (hentry : entry ∈ t.entries) : entry ∈ (t.put q e).entries := by
  rw [put, Keyed.put_of_get?_eq_none (get?_of_entry?_eq_none h)]
  exact List.mem_append_left _ hentry

theorem filesIn_put_folder {t : FileTree} {q : Path} (place : Path) (h : t.entry? q = none) :
    (t.put q .folder).filesIn place = t.filesIn place := by
  rw [filesIn, put, Keyed.put_of_get?_eq_none (get?_of_entry?_eq_none h), List.filterMap_append]
  simp [filesIn, fileBelow?]

theorem filesIn_withFolder (t : FileTree) (q place : Path) :
    (t.withFolder q).filesIn place = t.filesIn place := by
  rw [withFolder]
  split
  · rename_i h
    exact filesIn_put_folder place h
  · rfl

theorem filesIn_put_file {t : FileTree} {q place : Path} (bytes : Bytes)
    (h : t.entry? q = none) (hq : q.isBelow place = true) :
    ((t.put q (.file [])).put q (.file bytes)).filesIn place = t.filesIn place ++ [(q, bytes)] := by
  have hget := get?_of_entry?_eq_none h
  rw [filesIn, put, put, Keyed.put_of_get?_eq_none hget, Keyed.put_append_self _ hget,
    List.filterMap_append]
  simp [filesIn, fileBelow?, hq]

theorem mem_filesIn {t : FileTree} {p place : Path} {bytes : Bytes}
    (h : t.entry? p = some (.file bytes)) (hp : p.isBelow place = true) :
    (p, bytes) ∈ t.filesIn place := by
  have hup : p.onlyUp = false := onlyUp_of_entry?_ne (t := t) (by simp [h])
  have hget : Keyed.get? p t.entries = some (.file bytes) := by simpa [hup, entry?] using h
  exact List.mem_filterMap.2 ⟨_, Keyed.mem_of_get? hget, by simp [fileBelow?, hp]⟩

theorem filesBelow_perm {t : FileTree} {root q : Path} (h : t.place root = .ok q) :
    (t.filesBelow root).Perm ((t.filesIn q).map fun file => (rebased root q file.1, file.2)) := by
  rw [filesBelow, entriesBelow, h]
  refine (List.mergeSort_perm _ _).trans (List.Perm.of_eq ?_)
  rw [filesIn]
  induction t.entries with
  | nil => rfl
  | cons entry rest ih =>
    obtain ⟨p, e⟩ := entry
    cases e with
    | folder =>
      have hnone : fileBelow? q (p, .folder) = none := rfl
      rw [List.filterMap_cons_none hnone, ← ih]
      cases hp : p.isBelow q <;> simp [hp]
    | file bytes =>
      cases hp : p.isBelow q with
      | false =>
        have hnone : fileBelow? q (p, .file bytes) = none := by simp [fileBelow?, hp]
        rw [List.filterMap_cons_none hnone, ← ih]
        simp [hp]
      | true =>
        have hsome : fileBelow? q (p, .file bytes) = some (p, bytes) := by simp [fileBelow?, hp]
        rw [List.filterMap_cons_some hsome, List.map_cons, ← ih]
        simp [hp]

end FileTree

end BeanForge

import BeanForge.Proofs.FileTree.Walk

/-!
# Contents of files

A file that gets other contents stays where it is. All paths lead where they led, the same paths are
found below every folder, and what is read from any other place does not change.
-/

namespace BeanForge.FileTree

/-- Folders and files are where they were, but the files may hold other bytes. -/
def SameShape (t u : FileTree) : Prop :=
  ∀ p, u.entry? p = t.entry? p ∨
    ∃ old new, t.entry? p = some (.file old) ∧ u.entry? p = some (.file new)

theorem sameShape_put_file {t : FileTree} {place : Path} {old : Text.Bytes} (new : Text.Bytes)
    (h : t.entry? place = some (.file old)) : t.SameShape (t.put place (.file new)) := by
  intro p
  by_cases hp : p = place
  · subst hp
    exact .inr ⟨old, new, h, t.entry?_put_self _ (onlyUp_of_entry?_ne (t := t) (by simp [h]))⟩
  · exact .inl (t.entry?_put_of_ne _ hp)

theorem SameShape.follow_eq {t u : FileTree} (h : t.SameShape u) (folder : Path)
    (names : List String) : u.follow folder names = t.follow folder names := by
  induction names generalizing folder with
  | nil => rfl
  | cons name rest ih =>
    simp only [follow, ih]
    rcases h (folder.enter name) with hsame | ⟨old, new, hold, hnew⟩
    · rw [hsame]
    · rw [hold, hnew]

theorem SameShape.place_eq {t u : FileTree} (h : t.SameShape u) (p : Path) :
    u.place p = t.place p := by
  rw [place, place, h.follow_eq]

/-- A path stays barred, leads nowhere, to a file or to a folder as before. -/
theorem SameShape.walk_cases {t u : FileTree} (h : t.SameShape u) (p : Path) :
    u.walk p = t.walk p ∨
      ∃ old new, t.walk p = .ok (some (.file old)) ∧ u.walk p = .ok (some (.file new)) := by
  rw [walk, walk, h.place_eq]
  cases t.place p with
  | error e => exact .inl rfl
  | ok q =>
    rcases h q with hsame | ⟨old, new, hold, hnew⟩
    · exact .inl (by simp [Except.map, hsame])
    · exact .inr ⟨old, new, by simp [Except.map, hold], by simp [Except.map, hnew]⟩

theorem SameShape.isFolder_eq {t u : FileTree} (h : t.SameShape u) (p : Path) :
    u.isFolder p = t.isFolder p := by
  rcases h.walk_cases p with hsame | ⟨old, new, hold, hnew⟩
  · rw [isFolder, isFolder, hsame]
  · rw [isFolder, isFolder, hold, hnew]

theorem read_put_of_ne {t : FileTree} {place p : Path} {old : Text.Bytes} (new : Text.Bytes)
    (h : t.entry? place = some (.file old)) (hp : t.place p ≠ .ok place) :
    (t.put place (.file new)).read p = t.read p := by
  have hwalk : (t.put place (.file new)).walk p = t.walk p := by
    rw [walk, walk, (sameShape_put_file new h).place_eq]
    cases hq : t.place p with
    | error e => rfl
    | ok q =>
      have hne : q ≠ place := fun e => hp (e ▸ hq)
      simp [Except.map, t.entry?_put_of_ne _ hne]
  rw [read, read, hwalk]

/-! Paths below a folder -/

theorem keys_put_file {t : FileTree} {place : Path} {old : Text.Bytes} (new : Text.Bytes)
    (h : t.entry? place = some (.file old)) :
    Keyed.keys (t.put place (.file new)).entries = Keyed.keys t.entries := by
  have hup : place.onlyUp = false := onlyUp_of_entry?_ne (t := t) (by simp [h])
  have hget : Keyed.get? place t.entries = some (.file old) := by simpa [hup, entry?] using h
  have hmem : place ∈ Keyed.keys t.entries := List.mem_map_of_mem (Keyed.mem_of_get? hget)
  rw [put, Keyed.keys_put, if_pos hmem]

theorem map_fst_below (t : FileTree) (root : Path) :
    (t.below root).map (·.1) =
      match t.place root with
      | .error _ => []
      | .ok q => (((Keyed.keys t.entries).filter (·.isBelow q)).map (rebased root q)).mergeSort
          Path.le := by
  rw [below, List.map_mergeSort (s := Path.le) fun a _ b _ => rfl, entriesBelow]
  cases t.place root with
  | error e => simp
  | ok q => simp [Keyed.keys, List.filter_map, Function.comp_def]

theorem map_fst_below_put_file {t : FileTree} {place : Path} {old : Text.Bytes} (new : Text.Bytes)
    (h : t.entry? place = some (.file old)) (root : Path) :
    ((t.put place (.file new)).below root).map (·.1) = (t.below root).map (·.1) := by
  rw [map_fst_below, map_fst_below, keys_put_file new h, (sameShape_put_file new h).place_eq]

end BeanForge.FileTree

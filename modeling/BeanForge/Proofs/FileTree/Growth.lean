import BeanForge.Proofs.FileTree.Walk

/-!
# Growth of file trees

Making folders adds folders where nothing was and changes nothing else, whether it succeeds or
not. Opening, writing and unlinking a file concern one place only.
-/

namespace BeanForge.FileTree

/-- One tree comes from the other by adding folders where nothing was. -/
def Grows (t u : FileTree) : Prop :=
  ∀ p, u.entry? p = t.entry? p ∨ t.entry? p = none ∧ u.entry? p = some .folder

theorem Grows.refl (t : FileTree) : t.Grows t := fun _ => .inl rfl

theorem Grows.trans {t u v : FileTree} (h : t.Grows u) (h' : u.Grows v) : t.Grows v := by
  intro p
  rcases h p with hu | ⟨ht, hu⟩ <;> rcases h' p with hv | ⟨hu', hv⟩
  · exact .inl (hv.trans hu)
  · exact .inr ⟨hu ▸ hu', hv⟩
  · exact .inr ⟨ht, hv.trans hu⟩
  · exact .inr ⟨ht, hv⟩

theorem Grows.keepsFolders {t u : FileTree} (h : t.Grows u) : t.KeepsFolders u := by
  intro p hp
  rcases h p with hu | ⟨hn, _⟩
  · exact hu.trans hp
  · rw [hp] at hn
    cases hn

theorem Grows.file_iff {t u : FileTree} (h : t.Grows u) (p : Path) (bytes : Text.Bytes) :
    u.entry? p = some (.file bytes) ↔ t.entry? p = some (.file bytes) := by
  rcases h p with hu | ⟨hn, hf⟩
  · rw [hu]
  · simp [hn, hf]

theorem grows_put_folder {t : FileTree} {p : Path} (h : t.entry? p = none) :
    t.Grows (t.put p .folder) := by
  intro q
  by_cases hq : q = p
  · subst hq
    exact .inr ⟨h, t.entry?_put_self _ (onlyUp_of_entry?_ne (t := t) (by simp [h]))⟩
  · exact .inl (t.entry?_put_of_ne _ hq)

/-- No folder disappears, and files come, go and change at one place only. -/
def Touches (place : Path) (t u : FileTree) : Prop :=
  t.KeepsFolders u ∧ ∀ p, p ≠ place → ∀ bytes,
    u.entry? p = some (.file bytes) ↔ t.entry? p = some (.file bytes)

theorem Touches.trans {place : Path} {t u v : FileTree} (h : Touches place t u)
    (h' : Touches place u v) : Touches place t v :=
  ⟨fun p hp => h'.1 p (h.1 p hp), fun p hp bytes => (h'.2 p hp bytes).trans (h.2 p hp bytes)⟩

theorem Grows.touches {t u : FileTree} (h : t.Grows u) (place : Path) : Touches place t u :=
  ⟨h.keepsFolders, fun p _ => h.file_iff p⟩

/-! Making folders -/

theorem makeFolder_eq_ok_iff {t u : FileTree} {p : Path} :
    t.makeFolder p = .ok u ↔
      ∃ q, t.place p = .ok q ∧ t.entry? q = none ∧ u = t.put q .folder := by
  cases hp : t.place p with
  | error e => simp [makeFolder, hp, bind, Except.bind]
  | ok q =>
    cases he : t.entry? q <;>
      simp [makeFolder, hp, he, bind, Except.bind, pure, Except.pure, throw, throwThe,
        MonadExceptOf.throw, eq_comm]

theorem grows_of_makeFolder {t u : FileTree} {p : Path} (h : t.makeFolder p = .ok u) :
    t.Grows u := by
  obtain ⟨q, _, he, rfl⟩ := makeFolder_eq_ok_iff.1 h
  exact grows_put_folder he

theorem grows_makeFoldersAt (t : FileTree) (a : Anchor) (names : List String) :
    t.Grows (t.makeFoldersAt a names).1 := by
  induction names with
  | nil => exact .refl t
  | cons name outer ih =>
    simp only [makeFoldersAt]
    split
    · rename_i hm
      exact grows_of_makeFolder hm
    · split
      · split
        · rename_i ho
          simpa only [ho] using ih
        · rename_i made ho
          have hmade : t.Grows made := by simpa only [ho] using ih
          split
          · rename_i hm
            exact hmade.trans (grows_of_makeFolder hm)
          · exact hmade
      · exact .refl t

theorem grows_makeFolders (t : FileTree) (p : Path) : t.Grows (t.makeFolders p).1 :=
  t.grows_makeFoldersAt p.anchor p.names.reverse

theorem grows_of_makeFolders {t u : FileTree} {p : Path} {outcome : Option OsError}
    (h : t.makeFolders p = (u, outcome)) : t.Grows u := by
  simpa only [h] using t.grows_makeFolders p

/-! Files -/

theorem openNew_eq_ok_iff {t u : FileTree} {p q : Path} :
    t.openNew p = .ok (q, u) ↔
      t.place p = .ok q ∧ t.entry? q ≠ some .folder ∧ u = t.put q (.file []) := by
  cases hp : t.place p with
  | error e => simp [openNew, hp, bind, Except.bind]
  | ok r =>
    by_cases he : t.entry? r = some .folder
    · simp only [openNew, hp, he, bind, Except.bind, throw, throwThe, MonadExceptOf.throw]
      constructor
      · intro h
        cases h
      · rintro ⟨hr, hne, _⟩
        exact absurd (Except.ok.inj hr ▸ he) hne
    · simp only [openNew, hp, he, bind, Except.bind, pure, Except.pure, if_false,
        Except.ok.injEq, Prod.mk.injEq]
      constructor
      · rintro ⟨rfl, rfl⟩
        exact ⟨rfl, he, rfl⟩
      · rintro ⟨rfl, _, rfl⟩
        exact ⟨rfl, rfl⟩

/-- A file is opened at a name inside a folder, never above the path. -/
theorem place_of_openNew {t u : FileTree} {p q : Path} (h : t.openNew p = .ok (q, u)) :
    ∃ g name, t.Stands g ∧ name ≠ Path.upName ∧ q = g.enter name ∧ p.names.getLast? = some name := by
  obtain ⟨hp, he, _⟩ := openNew_eq_ok_iff.1 h
  rcases (place_eq_ok_iff.1 hp).2.stands_or_child (t.stands_anchor p.anchor) with
    hq | ⟨g, name, hg, hup, _, hq, hlast⟩
  · exact absurd hq.entry? he
  · exact ⟨g, name, hg, hup, hq, hlast⟩

theorem read_eq_ok_iff {t : FileTree} {p : Path} {bytes : Text.Bytes} :
    t.read p = .ok bytes ↔ ∃ q, t.place p = .ok q ∧ t.entry? q = some (.file bytes) := by
  cases hp : t.place p with
  | error e => simp [read, walk, hp, Except.map]
  | ok q => cases he : t.entry? q with
    | none => simp [read, walk, hp, he, Except.map]
    | some e => cases e <;> simp [read, walk, hp, he, Except.map]

theorem unlink_of_file {t : FileTree} {p q : Path} {bytes : Text.Bytes} (hp : t.place p = .ok q)
    (he : t.entry? q = some (.file bytes)) : t.unlink p = .ok (t.remove q) := by
  simp [unlink, hp, he]

theorem overwrite_of_empty {t : FileTree} {q : Path} (bytes : Text.Bytes)
    (he : t.entry? q = some (.file [])) : t.overwrite q bytes = t.put q (.file bytes) := by
  simp [overwrite, he]

theorem keepsFolders_put_file {t : FileTree} {p : Path} (bytes : Text.Bytes)
    (h : t.entry? p ≠ some .folder) : t.KeepsFolders (t.put p (.file bytes)) := by
  intro q hq
  have hne : q ≠ p := by
    rintro rfl
    exact h hq
  rwa [t.entry?_put_of_ne _ hne]

theorem touches_put_file {t : FileTree} {p : Path} (bytes : Text.Bytes)
    (h : t.entry? p ≠ some .folder) : Touches p t (t.put p (.file bytes)) :=
  ⟨keepsFolders_put_file bytes h, fun q hq _ => by rw [t.entry?_put_of_ne _ hq]⟩

theorem keepsFolders_remove {t : FileTree} {p : Path} (h : t.entry? p ≠ some .folder) :
    t.KeepsFolders (t.remove p) := by
  intro q hq
  have hne : q ≠ p := by
    rintro rfl
    exact h hq
  rwa [t.entry?_remove_of_ne hne]

theorem touches_remove {t : FileTree} {p : Path} (h : t.entry? p ≠ some .folder) :
    Touches p t (t.remove p) :=
  ⟨keepsFolders_remove h, fun q hq _ => by rw [t.entry?_remove_of_ne hq]⟩

end BeanForge.FileTree

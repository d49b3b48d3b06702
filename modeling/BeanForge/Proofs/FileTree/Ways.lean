import BeanForge.Proofs.FileTree.Growth

/-!
# Ways through file trees

A walk looks at the places along its way and at nothing else. A longer walk goes on where a
shorter one ends, if there is a folder.
-/

namespace BeanForge

open Text

namespace Path

def way (folder : Path) : List String → List Path
  | [] => []
  | name :: rest =>
    if name = upName then way folder.outer rest
    else folder.enter name :: way (folder.enter name) rest

theorem way_append (folder : Path) (names more : List String) :
    folder.way (names ++ more) = folder.way names ++ (folder.along names).way more := by
  induction names generalizing folder with
  | nil => rfl
  | cons name rest ih =>
    by_cases hup : name = upName
    · rw [List.cons_append, way, if_pos hup, way, if_pos hup, along, if_pos hup, ih]
    · rw [List.cons_append, way, if_neg hup, way, if_neg hup, along, if_neg hup, ih,
        List.cons_append]

theorem mem_way_of_plain {folder q : Path} {names : List String} (h : upName ∉ names)
    (hq : q ∈ folder.way names) : q.isBelow folder = true := by
  induction names generalizing folder with
  | nil => cases hq
  | cons name rest ih =>
    have hname : name ≠ upName := fun he => h (by simp [he])
    have hrest : upName ∉ rest := fun hr => h (List.mem_cons_of_mem _ hr)
    rw [way, if_neg hname] at hq
    rcases List.mem_cons.1 hq with rfl | hq
    · simp [isBelow, enter, child]
    · have hbelow := ih hrest hq
      simp only [isBelow, enter, child, Bool.and_eq_true, decide_eq_true_eq, beq_iff_eq,
        List.isPrefixOf_iff_prefix, List.length_append] at hbelow ⊢
      exact ⟨⟨hbelow.1.1, (List.prefix_append _ _).trans hbelow.1.2⟩, by omega⟩

theorem prefix_of_mem_way {folder q : Path} {names : List String} (h : upName ∉ names)
    (hq : q ∈ folder.way names) : q.names <+: folder.names ++ names.map storedName := by
  induction names generalizing folder with
  | nil => cases hq
  | cons name rest ih =>
    have hname : name ≠ upName := fun he => h (by simp [he])
    have hrest : upName ∉ rest := fun hr => h (List.mem_cons_of_mem _ hr)
    have hall : (folder.enter name).names ++ rest.map storedName =
        folder.names ++ (name :: rest).map storedName := by
      simp [enter, child]
    rw [way, if_neg hname] at hq
    rcases List.mem_cons.1 hq with rfl | hq
    · exact hall ▸ List.prefix_append _ _
    · exact hall ▸ ih hrest hq

end Path

namespace FileTree

theorem follow_up (t : FileTree) (folder : Path) (rest : List String) :
    t.follow folder (Path.upName :: rest) = t.follow folder.outer rest := by
  rw [follow, if_pos rfl]

theorem follow_plain (t : FileTree) (folder : Path) {name : String} (rest : List String)
    (h : name ≠ Path.upName) :
    t.follow folder (name :: rest) =
      if 255 < byteCount name then .error .nameTooLong
      else if rest.isEmpty then .ok (folder.enter name)
      else match t.entry? (folder.enter name) with
        | none => .error .notFound
        | some (.file _) => .error .notFolder
        | some .folder => t.follow (folder.enter name) rest :=
  if_neg h

/-- Trees that agree on the places along a way let the same walks pass. -/
theorem follow_congr {t u : FileTree} {folder : Path} {names : List String}
    (h : ∀ q ∈ folder.way names, u.entry? q = t.entry? q) :
    u.follow folder names = t.follow folder names := by
  induction names generalizing folder with
  | nil => rfl
  | cons name rest ih =>
    by_cases hup : name = Path.upName
    · subst hup
      rw [Path.way, if_pos rfl] at h
      rw [follow_up, follow_up, ih h]
    · rw [Path.way, if_neg hup] at h
      have hnext := h (folder.enter name) List.mem_cons_self
      have hrest := ih fun q hq => h q (List.mem_cons_of_mem _ hq)
      rw [follow_plain u _ _ hup, follow_plain t _ _ hup, hnext, hrest]

/-- All on the way are folders, except what is at its end. -/
theorem Leads.end_or_folder {t : FileTree} {folder q : Path} {names : List String}
    (h : t.Leads folder names q) :
    ∀ p ∈ folder.way names, p = q ∨ t.entry? p = some .folder := by
  induction h with
  | here => simp [Path.way]
  | up _ ih =>
    rw [Path.way, if_pos rfl]
    exact ih
  | last plain _ =>
    rw [Path.way, if_neg plain]
    simp [Path.way]
  | down plain _ _ there _ ih =>
    rw [Path.way, if_neg plain]
    exact List.forall_mem_cons.2 ⟨.inr there, ih⟩

theorem folder_of_mem_way {t : FileTree} {folder q : Path} {names : List String}
    (h : t.Leads folder names q) (he : t.entry? q = some .folder) :
    ∀ p ∈ folder.way names, t.entry? p = some .folder := by
  intro p hp
  rcases h.end_or_folder p hp with rfl | hfolder
  · exact he
  · exact hfolder

theorem follow_append {t : FileTree} {folder q : Path} {names : List String}
    (hs : t.Stands folder) (h : t.Leads folder names q) (name : String) (more : List String) :
    t.follow folder (names ++ name :: more) =
      match t.entry? q with
      | none => .error .notFound
      | some (.file _) => .error .notFolder
      | some .folder => t.follow q (name :: more) := by
  induction h with
  | here =>
    rw [hs.entry?]
    rfl
  | up _ ih =>
    rw [List.cons_append, follow_up]
    exact ih hs.outer
  | last plain short =>
    rw [List.singleton_append, follow_plain t _ _ plain, if_neg (by omega)]
    rfl
  | @down folder q first rest plain short _ there _ ih =>
    have hmore : (rest ++ name :: more).isEmpty = false := by simp
    rw [List.cons_append, follow_plain t _ _ plain, if_neg (by omega), hmore, there]
    exact ih (hs.child there)

theorem follow_append_of_error {t : FileTree} {folder : Path} {names : List String}
    {k : OsError.Kind} (h : t.follow folder names = .error k) (more : List String) :
    t.follow folder (names ++ more) = .error k := by
  induction names generalizing folder with
  | nil => simp [follow] at h
  | cons first rest ih =>
    by_cases hup : first = Path.upName
    · subst hup
      rw [follow_up] at h
      rw [List.cons_append, follow_up]
      exact ih h
    · rw [follow_plain t _ _ hup] at h
      rw [List.cons_append, follow_plain t _ _ hup]
      by_cases hlen : 255 < byteCount first
      · rw [if_pos hlen] at h ⊢
        exact h
      · rw [if_neg hlen] at h ⊢
        cases rest with
        | nil => simp at h
        | cons second others =>
          cases he : t.entry? (folder.enter first) with
          | none => simpa [he] using h
          | some e =>
            cases e with
            | file bytes => simpa [he] using h
            | folder =>
              simp only [he] at h
              simpa using ih (by simpa using h)

end FileTree

end BeanForge

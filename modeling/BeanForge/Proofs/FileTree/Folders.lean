import BeanForge.Proofs.FileTree.Ways

/-!
# Making folders

A folder is made together with those around it unless a file stands in the way or a name is too
long. Where that succeeds, one more folder inside can be made under any short name that no file
has.
-/

namespace BeanForge

namespace Path

theorem exists_child (p : Path) : p.names = [] ∨ ∃ (g : Path) (name : String), p = g.child name := by
  obtain ⟨a, names⟩ := p
  rcases List.eq_nil_or_concat names with h | ⟨outer, name, h⟩
  · exact .inl h
  · exact .inr ⟨⟨a, outer⟩, name, by simp [child, h]⟩

end Path

namespace FileTree

theorem isFolder_iff {t : FileTree} {p : Path} :
    t.isFolder p = true ↔ ∃ q, t.place p = .ok q ∧ t.entry? q = some .folder := by
  cases hp : t.place p with
  | error e => simp [isFolder, walk, hp, Except.map]
  | ok q => cases he : t.entry? q with
    | none => simp [isFolder, walk, hp, he, Except.map]
    | some e => cases e <;> simp [isFolder, walk, hp, he, Except.map]

theorem isFolder_of_keepsFolders {t u : FileTree} {p : Path} (hk : t.KeepsFolders u)
    (h : t.isFolder p = true) : u.isFolder p = true := by
  obtain ⟨q, hq, he⟩ := isFolder_iff.1 h
  exact isFolder_iff.2 ⟨q, place_of_keepsFolders hk hq, hk q he⟩

theorem place_of_names_nil (t : FileTree) {p : Path} (h : p.names = []) : t.place p = .ok p := by
  obtain ⟨a, names⟩ := p
  obtain rfl : names = [] := h
  have hlen : byteCount (Path.text ⟨a, []⟩) < 4096 := by cases a <;> decide +kernel
  exact place_eq_ok_iff.2 ⟨hlen, leads_of_follow rfl⟩

theorem makeFolder_eq_error {t : FileTree} {p : Path} {e : OsError}
    (h : t.makeFolder p = .error e) :
    t.place p = .error e ∨
      ∃ q x, t.place p = .ok q ∧ t.entry? q = some x ∧ e = ⟨.occupied, p⟩ := by
  cases hp : t.place p with
  | error e' =>
    simp [makeFolder, hp, bind, Except.bind] at h
    exact .inl (by rw [h])
  | ok q =>
    cases he : t.entry? q with
    | none => simp [makeFolder, hp, he, bind, Except.bind, pure, Except.pure] at h
    | some x =>
      simp [makeFolder, hp, he, bind, Except.bind, throw, throwThe, MonadExceptOf.throw] at h
      exact .inr ⟨q, x, rfl, he, h.symm⟩

theorem makeFolders_of_names_nil (t : FileTree) {p : Path} (h : p.names = []) :
    t.makeFolders p = (t, none) := by
  rw [makeFolders, h]
  rfl

theorem makeFolders_child_eq (t : FileTree) (p : Path) (name : String) :
    t.makeFolders (p.child name) =
      match t.makeFolder (p.child name) with
      | .ok made => (made, none)
      | .error e =>
        if e.kind = .notFound then
          match t.makeFolders p with
          | (made, some e) => (made, some e)
          | (made, none) =>
            match made.makeFolder (p.child name) with
            | .ok all => (all, none)
            | .error e => (made, if made.isFolder (p.child name) then none else some e)
        else (t, if t.isFolder (p.child name) then none else some e) := by
  have hreverse : (p.child name).names.reverse = name :: p.names.reverse := by
    simp [Path.child]
  have hpath : (⟨(p.child name).anchor, (name :: p.names.reverse).reverse⟩ : Path) =
      p.child name := by
    simp [Path.child]
  rw [makeFolders, hreverse, makeFoldersAt, hpath]
  rfl

theorem makeFolders_of_makeFolder {t u : FileTree} {p : Path} (h : t.makeFolder p = .ok u) :
    t.makeFolders p = (u, none) := by
  rcases p.exists_child with hnil | ⟨g, name, rfl⟩
  · obtain ⟨q, hq, he, _⟩ := makeFolder_eq_ok_iff.1 h
    rw [t.place_of_names_nil hnil] at hq
    obtain rfl : p = q := Except.ok.inj hq
    rw [t.entry?_of_onlyUp (Path.onlyUp_of_names_nil hnil)] at he
    cases he
  · rw [makeFolders_child_eq, h]

theorem makeFolders_of_isFolder {t : FileTree} {p : Path} (h : t.isFolder p = true) :
    t.makeFolders p = (t, none) := by
  rcases p.exists_child with hnil | ⟨g, name, rfl⟩
  · exact t.makeFolders_of_names_nil hnil
  · obtain ⟨q, hq, he⟩ := isFolder_iff.1 h
    have hoccupied : t.makeFolder (g.child name) = .error ⟨.occupied, g.child name⟩ := by
      simp [makeFolder, hq, he, bind, Except.bind, throw, throwThe, MonadExceptOf.throw]
    rw [makeFolders_child_eq, hoccupied]
    simp [h]

theorem isFolder_of_makeFolder {t u : FileTree} {p : Path} (h : t.makeFolder p = .ok u) :
    u.isFolder p = true := by
  obtain ⟨q, hq, he, rfl⟩ := makeFolder_eq_ok_iff.1 h
  have hgrows : t.Grows (t.put q .folder) := grows_put_folder he
  have hup : q.onlyUp = false := onlyUp_of_entry?_ne (t := t) (by simp [he])
  exact isFolder_iff.2 ⟨q, place_of_keepsFolders hgrows.keepsFolders hq,
    t.entry?_put_self .folder hup⟩

theorem makeFolders_child_cases {t u : FileTree} {g : Path} {name : String}
    (h : t.makeFolders (g.child name) = (u, none)) :
    t.makeFolder (g.child name) = .ok u ∨ t.isFolder (g.child name) = true ∧ u = t ∨
      ∃ e made, t.makeFolder (g.child name) = .error e ∧ e.kind = .notFound ∧
        t.makeFolders g = (made, none) ∧ (made.makeFolder (g.child name) = .ok u ∨
          made.isFolder (g.child name) = true ∧ u = made) := by
  rw [makeFolders_child_eq] at h
  cases hm : t.makeFolder (g.child name) with
  | ok made =>
    simp only [hm, Prod.mk.injEq, and_true] at h
    exact .inl (by rw [h])
  | error e =>
    simp only [hm] at h
    by_cases hk : e.kind = .notFound
    · rw [if_pos hk] at h
      cases ho : t.makeFolders g with
      | mk made outcome =>
        cases outcome with
        | some e' => simp [ho] at h
        | none =>
          simp only [ho] at h
          refine .inr (.inr ⟨e, made, rfl, hk, rfl, ?_⟩)
          cases hlast : made.makeFolder (g.child name) with
          | ok all =>
            simp only [hlast, Prod.mk.injEq, and_true] at h
            exact .inl (by rw [h])
          | error e' =>
            cases hf : made.isFolder (g.child name) with
            | false => simp [hlast, hf] at h
            | true =>
              simp only [hlast, hf, if_true, Prod.mk.injEq, and_true] at h
              exact .inr ⟨rfl, h.symm⟩
    · rw [if_neg hk] at h
      cases hf : t.isFolder (g.child name) with
      | false => simp [hf] at h
      | true =>
        simp only [hf, if_true, Prod.mk.injEq, and_true] at h
        exact .inr (.inl ⟨rfl, h.symm⟩)

/-- What is made is there afterwards. -/
theorem isFolder_of_makeFolders {t u : FileTree} {p : Path} (h : t.makeFolders p = (u, none)) :
    u.isFolder p = true := by
  rcases p.exists_child with hnil | ⟨g, name, rfl⟩
  · rw [t.makeFolders_of_names_nil hnil] at h
    obtain rfl : t = u := (Prod.mk.inj h).1
    exact isFolder_iff.2 ⟨p, t.place_of_names_nil hnil,
      t.entry?_of_onlyUp (Path.onlyUp_of_names_nil hnil)⟩
  · rcases makeFolders_child_cases h with hm | ⟨hf, rfl⟩ | ⟨_, _, _, _, _, hm | ⟨hf, rfl⟩⟩
    · exact isFolder_of_makeFolder hm
    · exact hf
    · exact isFolder_of_makeFolder hm
    · exact hf

/-- Where folders can be made, nothing but a missing folder bars the way. -/
theorem open_of_makeFolders {t u : FileTree} {p : Path} (h : t.makeFolders p = (u, none)) :
    t.isFolder p = true ∨ (∃ q, t.place p = .ok q ∧ t.entry? q = none) ∨
      ∃ e, t.place p = .error e ∧ e.kind = .notFound := by
  rcases p.exists_child with hnil | ⟨g, name, rfl⟩
  · exact .inl (isFolder_iff.2 ⟨p, t.place_of_names_nil hnil,
      t.entry?_of_onlyUp (Path.onlyUp_of_names_nil hnil)⟩)
  · rcases makeFolders_child_cases h with hm | ⟨hf, _⟩ | ⟨e, _, hm, hk, _⟩
    · obtain ⟨q, hq, he, _⟩ := makeFolder_eq_ok_iff.1 hm
      exact .inr (.inl ⟨q, hq, he⟩)
    · exact .inl hf
    · rcases makeFolder_eq_error hm with hp | ⟨_, _, _, _, rfl⟩
      · exact .inr (.inr ⟨e, hp, hk⟩)
      · cases hk

/-! One more folder -/

structure Allows (p : Path) (name : String) : Prop where
  notUp : name ≠ Path.upName
  short : byteCount name ≤ 255
  pathShort : byteCount (p.child name).text < 4096

theorem byteCount_append (s t : String) : byteCount (s ++ t) = byteCount s + byteCount t := by
  simp [byteCount]

theorem pathShort_of_child {p : Path} {name : String}
    (h : byteCount (p.child name).text < 4096) : byteCount p.text < 4096 := by
  by_cases hnil : p.names = []
  · exact (place_eq_ok_iff.1 (place_of_names_nil {} hnil)).1
  · have htext : p.text = p.anchor.text ++ "/".intercalate p.names := by
      simp [Path.text, hnil]
    have hchild : (p.child name).text =
        p.anchor.text ++ ("/".intercalate p.names ++ "/" ++ name) := by
      have hjoin := String.intercalate_append_of_ne_nil (s := "/") hnil (List.cons_ne_nil name [])
      rw [String.intercalate_singleton] at hjoin
      simp [Path.text, Path.child, hjoin]
    rw [hchild] at h
    rw [htext]
    simp only [byteCount_append] at h ⊢
    omega

theorem place_child {t : FileTree} {p : Path} {name : String} (hp : t.isFolder p = true)
    (h : Allows p name) : t.place (p.child name) = .ok (p.settled.enter name) := by
  obtain ⟨q, hq, he⟩ := isFolder_iff.1 hp
  have hsettled : q = p.settled := place_eq_settled hq
  subst hsettled
  refine place_eq_ok_iff.2 ⟨h.pathShort, leads_of_follow ?_⟩
  have hstands : t.Stands ⟨p.anchor, []⟩ := t.stands_anchor p.anchor
  have hlen : ¬255 < byteCount name := by have := h.short; omega
  show t.follow ⟨p.anchor, []⟩ (p.names ++ [name]) = _
  rw [follow_append hstands (place_eq_ok_iff.1 hq).2, he]
  show t.follow p.settled [name] = _
  rw [follow_plain t _ _ h.notUp, if_neg hlen]
  rfl

def withFolder (t : FileTree) (q : Path) : FileTree :=
  if t.entry? q = none then t.put q .folder else t

theorem grows_withFolder (t : FileTree) (q : Path) : t.Grows (t.withFolder q) := by
  rw [withFolder]
  split
  · rename_i h
    exact grows_put_folder h
  · exact .refl t

theorem entry?_withFolder_of_ne (t : FileTree) {p q : Path} (h : p ≠ q) :
    entry? (t.withFolder q) p = t.entry? p := by
  rw [withFolder]
  split
  · exact t.entry?_put_of_ne _ h
  · rfl

theorem makeFolder_child {t : FileTree} {p : Path} {name : String} (hp : t.isFolder p = true)
    (h : Allows p name) :
    t.makeFolder (p.child name) =
      if t.entry? (p.settled.enter name) = none then .ok (t.put (p.settled.enter name) .folder)
      else .error ⟨.occupied, p.child name⟩ := by
  have hplace := place_child hp h
  cases he : t.entry? (p.settled.enter name) <;>
    simp [makeFolder, hplace, he, bind, Except.bind, pure, Except.pure, throw, throwThe,
      MonadExceptOf.throw]

/-- Inside a folder that is not there yet nothing can be made. -/
theorem makeFolder_child_of_missing {t : FileTree} {p : Path} {name : String}
    (h : byteCount (p.child name).text < 4096)
    (hp : (∃ q, t.place p = .ok q ∧ t.entry? q = none) ∨
      ∃ e, t.place p = .error e ∧ e.kind = .notFound) :
    t.makeFolder (p.child name) = .error ⟨.notFound, p.child name⟩ := by
  have hstands : t.Stands ⟨p.anchor, []⟩ := t.stands_anchor p.anchor
  have hfollow : t.follow ⟨p.anchor, []⟩ (p.names ++ [name]) = .error .notFound := by
    rcases hp with ⟨q, hq, he⟩ | ⟨e, he, hk⟩
    · rw [follow_append hstands (place_eq_ok_iff.1 hq).2, he]
    · have hlen : ¬4096 ≤ byteCount p.text := by
        have := pathShort_of_child h
        omega
      rw [place, if_neg hlen] at he
      cases hf : t.follow ⟨p.anchor, []⟩ p.names with
      | ok q => simp [hf, Except.mapError] at he
      | error k =>
        simp only [hf, Except.mapError, Except.error.injEq] at he
        subst he
        exact follow_append_of_error (hf.trans (by rw [← hk])) [name]
  have hplace : t.place (p.child name) = .error ⟨.notFound, p.child name⟩ := by
    have hlen : ¬4096 ≤ byteCount (p.child name).text := by omega
    have hchild : t.follow ⟨(p.child name).anchor, []⟩ (p.child name).names = .error .notFound :=
      hfollow
    rw [place, if_neg hlen, hchild]
    rfl
  simp [makeFolder, hplace, bind, Except.bind]

/-- A folder is made inside one that can be made. -/
theorem makeFolders_child {t u : FileTree} {p : Path} {name : String}
    (hp : t.makeFolders p = (u, none)) (h : Allows p name)
    (hfile : ∀ bytes, u.entry? (p.settled.enter name) ≠ some (.file bytes)) :
    t.makeFolders (p.child name) = (u.withFolder (p.settled.enter name), none) := by
  have hfolder := isFolder_of_makeFolders hp
  have hoccupied : u.entry? (p.settled.enter name) ≠ none → u.isFolder (p.child name) = true := by
    intro hsome
    refine isFolder_iff.2 ⟨_, place_child hfolder h, ?_⟩
    cases he : u.entry? (p.settled.enter name) with
    | none => exact absurd he hsome
    | some e =>
      cases e with
      | file bytes => exact absurd he (hfile bytes)
      | folder => rfl
  have hmake := makeFolder_child hfolder h
  rw [makeFolders_child_eq, withFolder]
  rcases open_of_makeFolders hp with hthere | hmissing
  · rw [makeFolders_of_isFolder hthere] at hp
    obtain rfl : t = u := (Prod.mk.inj hp).1
    rw [hmake]
    by_cases hnone : t.entry? (p.settled.enter name) = none
    · rw [if_pos hnone, if_pos hnone]
    · rw [if_neg hnone, if_neg hnone]
      simp [hoccupied hnone]
  · rw [makeFolder_child_of_missing h.pathShort hmissing, hp]
    simp only [if_true, hmake]
    by_cases hnone : u.entry? (p.settled.enter name) = none
    · rw [if_pos hnone, if_pos hnone]
    · rw [if_neg hnone, if_neg hnone]
      simp [hoccupied hnone]

/-! Folders around others -/

/-- A way that goes on from a path leads through a folder. -/
theorem isFolder_of_place_child {t : FileTree} {g q : Path} {name : String}
    (h : t.place (g.child name) = .ok q) (hname : name ≠ Path.upName) :
    t.isFolder g = true ∧ q = g.settled.enter name := by
  have hstands : t.Stands ⟨g.anchor, []⟩ := t.stands_anchor g.anchor
  obtain ⟨hshort, hleads⟩ := place_eq_ok_iff.1 h
  have hall : t.follow ⟨g.anchor, []⟩ (g.names ++ [name]) = .ok q := hleads.follow
  cases hg : t.follow ⟨g.anchor, []⟩ g.names with
  | error k =>
    rw [follow_append_of_error hg] at hall
    cases hall
  | ok p =>
    have houter := leads_of_follow hg
    have hplace : t.place g = .ok p := place_eq_ok_iff.2 ⟨pathShort_of_child hshort, houter⟩
    rw [follow_append hstands houter] at hall
    cases he : t.entry? p with
    | none => simp [he] at hall
    | some e =>
      cases e with
      | file bytes => simp [he] at hall
      | folder =>
        simp only [he, follow_plain t _ _ hname] at hall
        split at hall
        · cases hall
        · obtain rfl : p.enter name = q := by simpa using hall
          exact ⟨isFolder_iff.2 ⟨p, hplace, he⟩, by rw [place_eq_settled hplace]⟩

/-- Where a folder is made, those around it are made first. -/
theorem makeFolders_parent {t u : FileTree} {g : Path} {name : String} (hname : name ≠ Path.upName)
    (h : t.makeFolders (g.child name) = (u, none)) :
    ∃ v, t.makeFolders g = (v, none) ∧ v.Grows u ∧
      ∀ q, q ≠ g.settled.enter name → u.entry? q = v.entry? q := by
  have hstep : ∀ {v w : FileTree}, v.makeFolder (g.child name) = .ok w →
      v.isFolder g = true ∧ ∀ q, q ≠ g.settled.enter name → w.entry? q = v.entry? q := by
    intro v w hm
    obtain ⟨q, hq, _, rfl⟩ := makeFolder_eq_ok_iff.1 hm
    obtain ⟨hfolder, rfl⟩ := isFolder_of_place_child hq hname
    exact ⟨hfolder, fun p hp => v.entry?_put_of_ne _ hp⟩
  rcases makeFolders_child_cases h with hm | ⟨hf, rfl⟩ | ⟨_, made, _, _, hmade, hm | ⟨_, rfl⟩⟩
  · obtain ⟨hfolder, hsame⟩ := hstep hm
    exact ⟨t, makeFolders_of_isFolder hfolder, grows_of_makeFolder hm, hsame⟩
  · obtain ⟨q, hq, _⟩ := isFolder_iff.1 hf
    obtain ⟨hfolder, _⟩ := isFolder_of_place_child hq hname
    exact ⟨u, makeFolders_of_isFolder hfolder, .refl u, fun _ _ => rfl⟩
  · exact ⟨made, hmade, grows_of_makeFolder hm, (hstep hm).2⟩
  · exact ⟨u, hmade, .refl u, fun _ _ => rfl⟩

end FileTree

end BeanForge

import BeanForge.Proofs.FileTree.Folders
import Mathlib.Data.List.Induction

/-!
# Obstacles

Folders can be made along a path unless a file stands on its way or something is too long. As
files stay files and folders stay folders, an obstacle once met is there for good, and making
folders changes nothing but missing places on the way.
-/

namespace BeanForge

namespace Path

def wayTo (p : Path) : List Path :=
  way ⟨p.anchor, []⟩ p.names

theorem wayTo_append (p : Path) (more : List String) :
    wayTo ⟨p.anchor, p.names ++ more⟩ = p.wayTo ++ p.settled.way more :=
  way_append _ _ _

theorem wayTo_child (p : Path) (name : String) :
    (p.child name).wayTo = p.wayTo ++ p.settled.way [name] :=
  p.wayTo_append [name]

@[simp] theorem parent_child (p : Path) (name : String) : (p.child name).parent = p := by
  simp [parent, child]

end Path

namespace FileTree

/-- A walk that does not end at a folder ends on its way. -/
theorem Leads.mem_way {t : FileTree} {folder q : Path} {names : List String}
    (h : t.Leads folder names q) (hs : t.Stands folder) (hq : t.entry? q ≠ some .folder) :
    q ∈ folder.way names := by
  induction h with
  | here => exact absurd hs.entry? hq
  | up _ ih =>
    rw [Path.way, if_pos rfl]
    exact ih hs.outer hq
  | last plain _ =>
    rw [Path.way, if_neg plain]
    exact List.mem_cons_self
  | down plain _ _ there _ ih =>
    rw [Path.way, if_neg plain]
    exact List.mem_cons_of_mem _ (ih (hs.child there) hq)

/-! Making folders -/

structure Passable (t : FileTree) (p : Path) : Prop where
  short : byteCount p.text < 4096
  names : ∀ name ∈ p.names, name = Path.upName ∨ byteCount name ≤ 255
  clear : ∀ q ∈ p.wayTo, ∀ bytes, t.entry? q ≠ some (.file bytes)

theorem Passable.outer {t : FileTree} {p : Path} {name : String} (h : t.Passable (p.child name)) :
    t.Passable p where
  short := pathShort_of_child h.short
  names := fun other ho => h.names other (List.mem_append_left _ ho)
  clear := fun q hq => h.clear q (by rw [p.wayTo_child name]; exact List.mem_append_left _ hq)

theorem passable_of_makeFolders {t u : FileTree} {p : Path} (h : t.makeFolders p = (u, none)) :
    t.Passable p := by
  have hgrows := grows_of_makeFolders h
  obtain ⟨q, hq, he⟩ := isFolder_iff.1 (isFolder_of_makeFolders h)
  obtain ⟨hshort, hleads⟩ := place_eq_ok_iff.1 hq
  refine ⟨hshort, hleads.short, fun r hr bytes hfile => ?_⟩
  have hfolder := folder_of_mem_way hleads he r hr
  rw [(hgrows.file_iff r bytes).2 hfile] at hfolder
  cases hfolder

/-- The way up out of a folder leads to a folder. -/
theorem isFolder_child_up {t : FileTree} {p : Path} (hp : t.isFolder p = true)
    (hshort : byteCount (p.child Path.upName).text < 4096) :
    t.isFolder (p.child Path.upName) = true := by
  obtain ⟨q, hq, he⟩ := isFolder_iff.1 hp
  have hleads := (place_eq_ok_iff.1 hq).2
  have hstands : t.Stands q := by
    rcases hleads.stands_or_child (t.stands_anchor p.anchor) with
      hs | ⟨g, name, hg, _, _, rfl, _⟩
    · exact hs
    · exact hg.child he
  have hup : t.follow ⟨p.anchor, []⟩ (p.names ++ [Path.upName]) = .ok q.outer := by
    rw [follow_append (t.stands_anchor p.anchor) hleads, he]
    exact t.follow_up q []
  exact isFolder_iff.2
    ⟨q.outer, place_eq_ok_iff.2 ⟨hshort, leads_of_follow hup⟩, hstands.outer.entry?⟩

theorem makeFolders_child_up {t u : FileTree} {p : Path} (hp : t.makeFolders p = (u, none))
    (hshort : byteCount (p.child Path.upName).text < 4096) :
    (t.makeFolders (p.child Path.upName)).2 = none := by
  have hthere := isFolder_child_up (isFolder_of_makeFolders hp) hshort
  rcases open_of_makeFolders hp with hfolder | hmissing
  · rw [makeFolders_of_isFolder (isFolder_child_up hfolder hshort)]
  · rw [makeFolders_child_eq, makeFolder_child_of_missing hshort hmissing, hp]
    simp only [if_true]
    cases u.makeFolder (p.child Path.upName) with
    | ok all => rfl
    | error e => simp [hthere]

theorem makeFolders_of_passable {t : FileTree} {p : Path} (h : t.Passable p) :
    (t.makeFolders p).2 = none := by
  obtain ⟨a, names⟩ := p
  -- From the outermost folder inwards: each one is made inside those around it.
  induction names using List.reverseRecOn with
  | nil => rw [makeFolders_of_names_nil t rfl]
  | append_singleton names name ih =>
    have hchild : (⟨a, names ++ [name]⟩ : Path) = (⟨a, names⟩ : Path).child name := rfl
    rw [hchild] at h ⊢
    have hp : t.makeFolders ⟨a, names⟩ = ((t.makeFolders ⟨a, names⟩).1, none) :=
      Prod.ext rfl (ih h.outer)
    by_cases hup : name = Path.upName
    · subst hup
      exact makeFolders_child_up hp h.short
    · have hname := (h.names name (List.mem_append_right _ List.mem_cons_self)).resolve_left hup
      rw [makeFolders_child hp ⟨hup, hname, h.short⟩]
      intro bytes hfile
      have hbefore := ((grows_of_makeFolders hp).file_iff _ bytes).1 hfile
      refine h.clear _ ?_ bytes hbefore
      rw [Path.wayTo_child, Path.way, if_neg hup]
      exact List.mem_append_right _ List.mem_cons_self

theorem makeFolders_eq_none_iff {t : FileTree} {p : Path} :
    (t.makeFolders p).2 = none ↔ t.Passable p :=
  ⟨fun h => passable_of_makeFolders (Prod.ext rfl h), makeFolders_of_passable⟩

/-! What making folders changes -/

/-- One tree comes from the other by adding folders at missing places among some. -/
def Paves (places : List Path) (t u : FileTree) : Prop :=
  ∀ q, u.entry? q = t.entry? q ∨
    q ∈ places ∧ t.entry? q = none ∧ u.entry? q = some .folder

theorem Paves.refl (places : List Path) (t : FileTree) : Paves places t t := fun _ => .inl rfl

theorem Paves.trans {places : List Path} {t u v : FileTree} (h : Paves places t u)
    (h' : Paves places u v) : Paves places t v := by
  intro q
  rcases h q with hu | ⟨hq, ht, hu⟩ <;> rcases h' q with hv | ⟨hq', hu', hv⟩
  · exact .inl (hv.trans hu)
  · exact .inr ⟨hq', hu ▸ hu', hv⟩
  · exact .inr ⟨hq, ht, hv.trans hu⟩
  · exact .inr ⟨hq, ht, hv⟩

theorem Paves.mono {places more : List Path} {t u : FileTree} (h : Paves places t u)
    (hsub : ∀ q ∈ places, q ∈ more) : Paves more t u := fun q =>
  (h q).imp_right fun ⟨hq, he⟩ => ⟨hsub q hq, he⟩

theorem paves_of_makeFolder {t u : FileTree} {p : Path} (h : t.makeFolder p = .ok u) :
    Paves p.wayTo t u := by
  obtain ⟨q, hq, he, rfl⟩ := makeFolder_eq_ok_iff.1 h
  have hmissing : t.entry? q ≠ some .folder := by simp [he]
  have hway : q ∈ p.wayTo :=
    (place_eq_ok_iff.1 hq).2.mem_way (t.stands_anchor p.anchor) hmissing
  intro r
  by_cases hr : r = q
  · subst hr
    exact .inr ⟨hway, he, t.entry?_put_self .folder (onlyUp_of_entry?_ne hmissing)⟩
  · exact .inl (t.entry?_put_of_ne _ hr)

/-- Folders that are made are on the way, even if not all of them can be. -/
theorem paves_makeFolders (t : FileTree) (p : Path) : Paves p.wayTo t (t.makeFolders p).1 := by
  obtain ⟨a, names⟩ := p
  induction names using List.reverseRecOn with
  | nil =>
    rw [makeFolders_of_names_nil t rfl]
    exact .refl _ t
  | append_singleton names name ih =>
    have hchild : (⟨a, names ++ [name]⟩ : Path) = (⟨a, names⟩ : Path).child name := rfl
    have houter : Paves ((⟨a, names⟩ : Path).child name).wayTo t (t.makeFolders ⟨a, names⟩).1 :=
      ih.mono fun q hq => by
        rw [Path.wayTo_child]
        exact List.mem_append_left _ hq
    rw [hchild, makeFolders_child_eq]
    cases hm : t.makeFolder ((⟨a, names⟩ : Path).child name) with
    | ok made => exact paves_of_makeFolder hm
    | error e =>
      by_cases hk : e.kind = .notFound
      · simp only [if_pos hk]
        cases hp : t.makeFolders ⟨a, names⟩ with
        | mk made outcome =>
          rw [hp] at houter
          cases outcome with
          | some e' => exact houter
          | none =>
            cases hlast : made.makeFolder ((⟨a, names⟩ : Path).child name) with
            | ok all =>
              simp only [hlast]
              exact Paves.trans houter (paves_of_makeFolder hlast)
            | error e' =>
              simp only [hlast]
              exact houter
      · simp only [if_neg hk]
        exact .refl _ t

/-! Obstacles stay -/

/-- Folders stay folders, and files stay files, with any bytes. -/
def Outlasts (t u : FileTree) : Prop :=
  t.KeepsFolders u ∧ ∀ p bytes, t.entry? p = some (.file bytes) →
    ∃ others, u.entry? p = some (.file others)

theorem Outlasts.refl (t : FileTree) : t.Outlasts t :=
  ⟨fun _ h => h, fun _ bytes h => ⟨bytes, h⟩⟩

theorem Outlasts.trans {t u v : FileTree} (h : t.Outlasts u) (h' : u.Outlasts v) :
    t.Outlasts v := by
  refine ⟨fun p hp => h'.1 p (h.1 p hp), fun p bytes hp => ?_⟩
  obtain ⟨others, ho⟩ := h.2 p bytes hp
  exact h'.2 p others ho

theorem Outlasts.passable {t u : FileTree} (h : t.Outlasts u) {p : Path} (hp : u.Passable p) :
    t.Passable p := by
  refine ⟨hp.short, hp.names, fun q hq bytes hfile => ?_⟩
  obtain ⟨others, ho⟩ := h.2 q bytes hfile
  exact hp.clear q hq others ho

/-- Folders that cannot be made once cannot be made later. -/
theorem Outlasts.makeFolders {t u : FileTree} (h : t.Outlasts u) {p : Path}
    (hp : (t.makeFolders p).2 ≠ none) : (u.makeFolders p).2 ≠ none := fun hu =>
  hp (makeFolders_eq_none_iff.2 (h.passable (makeFolders_eq_none_iff.1 hu)))

/-- Making the same folders later leaves at least those that are there after making them now. -/
theorem keepsFolders_makeFolders {t u v : FileTree} (h : t.KeepsFolders u) {p : Path}
    (hv : u.makeFolders p = (v, none)) : (t.makeFolders p).1.KeepsFolders v := by
  obtain ⟨q, hq, he⟩ := isFolder_iff.1 (isFolder_of_makeFolders hv)
  have hway := folder_of_mem_way (place_eq_ok_iff.1 hq).2 he
  intro r hr
  rcases t.paves_makeFolders p r with hsame | ⟨hmem, _, _⟩
  · exact (grows_of_makeFolders hv).keepsFolders r (h r (hsame ▸ hr))
  · exact hway r hmem

/-- Nor does a file that cannot be opened inside a folder become one that can be. -/
theorem openNew_of_keepsFolders {t u : FileTree} (h : t.KeepsFolders u) {p : Path} {e : OsError}
    (hparent : t.isFolder p.parent = true) (hp : t.openNew p = .error e) :
    ∃ e', u.openNew p = .error e' := by
  cases hu : u.openNew p with
  | error e' => exact ⟨e', rfl⟩
  | ok opened =>
    obtain ⟨q, v⟩ := opened
    obtain ⟨hplace, hfolder, _⟩ := openNew_eq_ok_iff.1 hu
    obtain ⟨_, name, _, hup, _, hlast⟩ := place_of_openNew hu
    obtain ⟨g, rfl⟩ : ∃ g : Path, p = g.child name := by
      obtain ⟨outer, houter⟩ := List.getLast?_eq_some_iff.1 hlast
      exact ⟨⟨p.anchor, outer⟩, by simp [Path.child, ← houter]⟩
    rw [Path.parent_child] at hparent
    obtain ⟨hshort, hleads⟩ := place_eq_ok_iff.1 hplace
    have hname := (hleads.short name
      (List.mem_append_right _ List.mem_cons_self)).resolve_left hup
    have hthen := place_child hparent ⟨hup, hname, hshort⟩
    have hsame : q = g.settled.enter name := by
      have hlater := place_of_keepsFolders h hthen
      rw [hplace] at hlater
      exact Except.ok.inj hlater
    have hopen : t.openNew (g.child name) = .ok (q, t.put q (.file [])) :=
      openNew_eq_ok_iff.2 ⟨hsame ▸ hthen, fun hf => hfolder (h q hf), rfl⟩
    rw [hopen] at hp
    cases hp

end FileTree

end BeanForge

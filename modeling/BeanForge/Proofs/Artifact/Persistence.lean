import BeanForge.Proofs.Artifact.Confinement

/-!
# What a store goes on refusing

After an attempt to emit an artifact its type is barred: it is known to the store, or something is
in the way of its file. Nothing that is emitted later takes that away again.
-/

namespace BeanForge

open Text FileTree

namespace Site

/-! Obstacles to opening -/

section Opening

variable [Codecs] {tree u v : FileTree} {encoding qualifiedName : String} {path : Path} {f : Failure}

/-- A file that an obstacle keeps from being opened cannot be opened later either. -/
theorem openFile_failure_of_outlasts
    (h : openFile tree encoding qualifiedName path = (u, .error (.failure f)))
    (hv : tree.Outlasts v) :
    ∃ w f', openFile v encoding qualifiedName path = (w, .error (.failure f')) := by
  have hunmade : ∀ {made : FileTree} {e : OsError}, path.parent.fault? = none →
      v.makeFolders path.parent = (made, some e) →
        ∃ w f', openFile v encoding qualifiedName path = (w, .error (.failure f')) :=
    fun hparent hmade => ⟨_, _, openFile_eq_iff.2 (.unmade hparent hmade)⟩
  cases hmade : v.makeFolders path.parent with
  | mk made outcome =>
    cases openFile_eq_iff.1 h with
    | unmade parent bad =>
      have hstill := hv.makeFolders (p := path.parent) (by rw [bad]; simp)
      rw [hmade] at hstill
      obtain ⟨e, rfl⟩ := Option.ne_none_iff_exists'.1 hstill
      exact hunmade parent hmade
    | unopened ready bad =>
      cases outcome with
      | some e => exact hunmade ready.parent hmade
      | none =>
        have hthere : u.isFolder path.parent = true := isFolder_of_makeFolders ready.folders
        have hkeeps : u.KeepsFolders made := by
          have hkept := keepsFolders_makeFolders hv.1 hmade
          rwa [ready.folders] at hkept
        obtain ⟨e', hopen'⟩ := openNew_of_keepsFolders hkeeps hthere bad
        exact ⟨made, _, openFile_eq_iff.2
          (.unopened ⟨ready.parent, hmade, ready.asked⟩ hopen')⟩

end Opening

/-! Emissions into a folder -/

section Folder

variable {tree : FileTree} {root : Path} {extension encoding workingFolder qualifiedName : String}
  {created : List Path}

end Folder

/-! What later sites keep -/

def Keeps (s : Site) (qualifiedName : String) : Prop :=
  match s.store with
  | .memory _ _ => True
  | .folder root extension _ _ => root.Encloses (filePath root qualifiedName extension)

/-- One site comes from the other by more artifacts, each at its place in the store. -/
def Reaches (s t : Site) : Prop :=
  match s.store with
  | .memory extension files =>
    t.tree = s.tree ∧ ∃ more, t.store = .memory extension (files ++ more)
  | .folder root extension encoding created =>
    s.tree.Outlasts t.tree ∧ Confined root s.tree t.tree ∧
      ∃ more, t.store = .folder root extension encoding (created ++ more)

variable {s t u : Site} {qualifiedName text : String}

theorem Reaches.refl (s : Site) : s.Reaches s := by
  unfold Reaches
  cases s.store with
  | memory extension files => exact ⟨rfl, [], by rw [List.append_nil]⟩
  | folder root extension encoding created =>
    exact ⟨.refl _, .refl root _, [], by rw [List.append_nil]⟩

theorem Reaches.trans (h : s.Reaches t) (h' : t.Reaches u) : s.Reaches u := by
  obtain ⟨tree, store, workingFolder⟩ := s
  cases store with
  | memory extension files =>
    obtain ⟨htree, more, hstore⟩ := h
    rw [Reaches, hstore] at h'
    obtain ⟨htree', others, hstore'⟩ := h'
    exact ⟨htree'.trans htree, more ++ others, by rw [hstore', List.append_assoc]⟩
  | folder root extension encoding created =>
    obtain ⟨houtlasts, hconfined, more, hstore⟩ := h
    rw [Reaches, hstore] at h'
    obtain ⟨houtlasts', hconfined', others, hstore'⟩ := h'
    exact ⟨houtlasts.trans houtlasts', hconfined.trans hconfined', more ++ others,
      by rw [hstore', List.append_assoc]⟩

theorem Reaches.keeps (h : s.Reaches t) (hs : s.Keeps qualifiedName) : t.Keeps qualifiedName := by
  obtain ⟨tree, store, workingFolder⟩ := s
  cases store with
  | memory extension files =>
    obtain ⟨_, more, hstore⟩ := h
    simp only [Keeps, hstore]
  | folder root extension encoding created =>
    obtain ⟨_, _, more, hstore⟩ := h
    simpa only [Keeps, hstore] using hs

/-! Types that are barred -/

variable [Codecs]

/-- The store knows a type, or an obstacle is in the way of its file. -/
def Bars (s : Site) (qualifiedName : String) : Prop :=
  match s.store with
  | .memory _ files => ∃ file ∈ files, file.qualifiedName = qualifiedName
  | .folder root extension encoding created =>
    filePath root qualifiedName extension ∈ created ∨
      ∃ u f, openFile s.tree encoding qualifiedName (filePath root qualifiedName extension) =
        (u, .error (.failure f))

theorem Reaches.bars (h : s.Reaches t) (hs : s.Bars qualifiedName) : t.Bars qualifiedName := by
  obtain ⟨tree, store, workingFolder⟩ := s
  cases store with
  | memory extension files =>
    obtain ⟨_, more, hstore⟩ := h
    obtain ⟨file, hfile, hname⟩ := hs
    simp only [Bars, hstore]
    exact ⟨file, List.mem_append_left _ hfile, hname⟩
  | folder root extension encoding created =>
    obtain ⟨houtlasts, _, more, hstore⟩ := h
    simp only [Bars, hstore]
    rcases hs with hknown | ⟨v, f, hopen⟩
    · exact .inl (List.mem_append_left _ hknown)
    · exact .inr (openFile_failure_of_outlasts hopen houtlasts)

end Site

end BeanForge

import BeanForge.Artifact.Store
import BeanForge.Proofs.FileTree.Growth
import BeanForge.Proofs.Text.Pieces

/-!
# Paths of artifacts

The file of a type lies below the root, under names that never lead up again unless the last one
does, and no file can be opened there. Paths without such names lead to different places if they
are different, as long as halves of pairs are in nothing but the extension.
-/

namespace BeanForge

open Text

/-- Names of types that stay below a root. -/
def Inward (qualifiedName : String) : Prop :=
  qualifiedName.toList.head? ≠ some '.' ∧ qualifiedName.toList.head? ≠ some '/'

instance (qualifiedName : String) : Decidable (Inward qualifiedName) :=
  inferInstanceAs (Decidable (_ ∧ _))

/-- A path that goes on from a root and never up: by the names along a text without halves of
pairs, with an ending behind it. -/
structure Path.Within (root : Path) (ending : String) (p : Path) : Prop where
  noSlash : '/' ∉ ending.toList
  spelled : ∃ cs, (∀ c ∈ cs, isHalf c = false) ∧
    p = ⟨root.anchor, root.names ++ Path.namesOf (cs ++ ending.toList)⟩ ∧
    Path.upName ∉ Path.namesOf (cs ++ ending.toList)

namespace Path

theorem anchorOf_of_head {cs : List Char} (h : cs.head? ≠ some '/') : anchorOf cs = .here := by
  cases cs with
  | nil => rfl
  | cons c rest =>
    have hc : c ≠ '/' := fun e => h (by simp [e])
    unfold anchorOf
    split <;> simp_all

theorem settled_eq_of_plain {root : Path} {names : List String} (h : upName ∉ names) :
    settled ⟨root.anchor, root.names ++ names⟩ =
      ⟨root.settled.anchor, root.settled.names ++ names.map storedName⟩ := by
  rw [settled_append, along_of_plain _ h]

/-! Names along a text with an ending -/

theorem whole_of_mem_splitAt {separator : Char} {cs piece : List Char}
    (h : ∀ c ∈ cs, isHalf c = false) (hp : piece ∈ splitAt separator cs) :
    Whole (String.ofList piece) := fun c hc =>
  h c (mem_of_mem_splitAt hp (by rwa [String.toList_ofList] at hc))

/-- The names along a text that goes on by an ending: an ending with halves is a part of the last
one. -/
theorem namesOf_append_cases {cs ending : List Char} (hcs : ∀ c ∈ cs, isHalf c = false)
    (hslash : '/' ∉ ending) :
    ((∀ c ∈ ending, isHalf c = false) ∧ ∀ name ∈ namesOf (cs ++ ending), Whole name) ∨
    ((∃ c ∈ ending, isHalf c = true) ∧ ∃ outer last,
      namesOf (cs ++ ending) = outer ++ [String.ofList (last ++ ending)] ∧
      (∀ name ∈ outer, Whole name) ∧ ∀ c ∈ last, isHalf c = false) := by
  by_cases hending : ∀ c ∈ ending, isHalf c = false
  · refine .inl ⟨hending, fun name hname => ?_⟩
    obtain ⟨piece, hpiece, rfl⟩ := List.mem_map.1 (List.mem_filter.1 hname).1
    exact whole_of_mem_splitAt (List.forall_mem_append.2 ⟨hcs, hending⟩) hpiece
  · obtain ⟨c, hc, hhalf⟩ : ∃ c ∈ ending, isHalf c = true := by simpa using hending
    obtain ⟨pieces, last, hname, happend⟩ := splitAt_append cs hslash
    have hpieces : ∀ piece ∈ pieces ++ [last], piece ∈ splitAt '/' cs := fun _ hp => hname ▸ hp
    have hkept : ∀ other : String, Whole other → String.ofList (last ++ ending) ≠ other := by
      rintro _ hother rfl
      rw [hother c (by rw [String.toList_ofList]; exact List.mem_append_right _ hc)] at hhalf
      cases hhalf
    refine .inr ⟨⟨c, hc, hhalf⟩,
      (pieces.map String.ofList).filter fun name => name != "" && name != ".", last, ?_, ?_, ?_⟩
    · have hlast : [String.ofList (last ++ ending)].filter (fun name => name != "" && name != ".") =
          [String.ofList (last ++ ending)] := by
        refine List.filter_eq_self.2 fun name hname => ?_
        rw [List.mem_singleton.1 hname, Bool.and_eq_true, bne_iff_ne, bne_iff_ne]
        exact ⟨hkept "" (by decide), hkept "." (by decide)⟩
      rw [namesOf, happend, List.map_append, List.filter_append, List.map_singleton, hlast]
    · intro name hmem
      obtain ⟨piece, hp, rfl⟩ := List.mem_map.1 (List.mem_filter.1 hmem).1
      exact whole_of_mem_splitAt hcs (hpieces piece (List.mem_append_left _ hp))
    · exact fun d hd => hcs d (mem_of_mem_splitAt
        (hpieces last (List.mem_append_right _ List.mem_cons_self)) hd)

theorem map_storedName_of_whole {names : List String} (h : ∀ name ∈ names, Whole name) :
    names.map storedName = names :=
  (List.map_congr_left fun name hname => storedName_of_whole (h name hname)).trans (by simp)

/-- Names along texts of one ending are told apart by the files they lead to. -/
theorem namesOf_append_injective {cs ds ending : List Char} (hcs : ∀ c ∈ cs, isHalf c = false)
    (hds : ∀ c ∈ ds, isHalf c = false) (hslash : '/' ∉ ending)
    (h : (namesOf (cs ++ ending)).map storedName = (namesOf (ds ++ ending)).map storedName) :
    namesOf (cs ++ ending) = namesOf (ds ++ ending) := by
  rcases namesOf_append_cases hcs hslash with ⟨hwhole, hnames⟩ | ⟨⟨c, hc, hhalf⟩, outer, last,
    hnames, houter, hlast⟩
  · rcases namesOf_append_cases hds hslash with ⟨_, hmore⟩ | ⟨⟨c, hc, hhalf⟩, _⟩
    · rwa [map_storedName_of_whole hnames, map_storedName_of_whole hmore] at h
    · exact absurd hhalf (by simp [hwhole c hc])
  · rcases namesOf_append_cases hds hslash with ⟨hwhole, _⟩ | ⟨_, outer', last', hmore, houter',
      hlast'⟩
    · exact absurd hhalf (by simp [hwhole c hc])
    · rw [hnames, hmore, List.map_append, List.map_append, map_storedName_of_whole houter,
        map_storedName_of_whole houter'] at h
      obtain ⟨rfl, hstored⟩ := List.append_inj' h rfl
      have hbytes := congrArg (fun name => fileBytes name.toList) (List.singleton_inj.1 hstored)
      simp only [fileBytes_storedName, String.toList_ofList, fileBytes_append,
        List.append_cancel_right_eq] at hbytes
      have heq : String.ofList last = String.ofList last' :=
        eq_of_fileBytes_eq (by simpa [Whole] using hlast) (by simpa [Whole] using hlast')
          (by simpa using hbytes)
      rw [hnames, hmore, String.ofList_injective heq]

theorem eq_of_settled_eq {root p q : Path} {ending : String} (hp : root.Within ending p)
    (hq : root.Within ending q) (h : p.settled = q.settled) : p = q := by
  obtain ⟨cs, hcs, rfl, hnames⟩ := hp.spelled
  obtain ⟨ds, hds, rfl, hothers⟩ := hq.spelled
  rw [settled_eq_of_plain hnames, settled_eq_of_plain hothers] at h
  simp only [Path.mk.injEq, List.append_cancel_left_eq, true_and] at h
  rw [namesOf_append_injective hcs hds hp.noSlash h]

end Path

def slashed (qualifiedName : String) : List Char :=
  qualifiedName.toList.map fun c => if c = '.' then '/' else c

theorem toList_relativePath (qualifiedName extension : String) :
    (relativePath qualifiedName extension).toList = slashed qualifiedName ++ extension.toList := by
  simp [relativePath, slashed]

theorem dot_not_mem_slashed (qualifiedName : String) : '.' ∉ slashed qualifiedName := by
  intro h
  obtain ⟨c, _, hc⟩ := List.mem_map.1 h
  split at hc
  · exact absurd hc (by decide)
  · contradiction

theorem head?_slashed {qualifiedName : String} (h : Inward qualifiedName) :
    (slashed qualifiedName).head? ≠ some '/' := by
  obtain ⟨hdot, hslash⟩ := h
  cases hq : qualifiedName.toList with
  | nil => simp [slashed, hq]
  | cons c rest =>
    rw [hq] at hdot hslash
    have hc : c ≠ '.' := fun e => hdot (by simp [e])
    simpa [slashed, hq, hc] using hslash

theorem filePath_eq (root : Path) {qualifiedName extension : String} (h : Inward qualifiedName)
    (hext : '/' ∉ extension.toList) :
    Site.filePath root qualifiedName extension =
      ⟨root.anchor, root.names ++ Path.namesOf (slashed qualifiedName ++ extension.toList)⟩ := by
  have hhead : (slashed qualifiedName ++ extension.toList).head? ≠ some '/' := by
    cases hs : slashed qualifiedName with
    | nil =>
      intro he
      exact hext (List.mem_of_mem_head? (by simpa [hs] using he))
    | cons c rest => simpa [hs] using head?_slashed h
  rw [Site.filePath, Path.ofString, toList_relativePath, Path.anchorOf_of_head hhead]
  rfl

/-- Only the last name can lead up, as it alone can have dots. -/
theorem getLast?_namesOf_slashed {qualifiedName : String} {cs : List Char} (hcs : '/' ∉ cs)
    (h : Path.upName ∈ Path.namesOf (slashed qualifiedName ++ cs)) :
    (Path.namesOf (slashed qualifiedName ++ cs)).getLast? = some Path.upName := by
  obtain ⟨pieces, last, hname, happend⟩ := splitAt_append (slashed qualifiedName) hcs
  have hup : ∀ piece ∈ pieces, String.ofList piece ≠ Path.upName := by
    intro piece hp he
    have hdots : piece = ['.', '.'] := by
      have hchars := congrArg String.toList he
      simpa [Path.upName] using hchars
    have hmem : piece ∈ splitAt '/' (slashed qualifiedName) := by
      rw [hname]
      exact List.mem_append_left _ hp
    exact dot_not_mem_slashed qualifiedName (mem_of_mem_splitAt hmem (by simp [hdots]))
  simp only [Path.namesOf, happend, List.map_append, List.filter_append, List.map_cons,
    List.map_nil] at h ⊢
  rcases List.mem_append.1 h with h | h
  · obtain ⟨piece, hp, he⟩ := List.mem_map.1 (List.mem_filter.1 h).1
    exact absurd he (hup piece hp)
  · have he : String.ofList (last ++ cs) = Path.upName :=
      (List.mem_singleton.1 (List.mem_filter.1 h).1).symm
    rw [he]
    simp [Path.upName]

theorem not_isHalf_of_mem_slashed {qualifiedName : String} (h : Whole qualifiedName) :
    ∀ c ∈ slashed qualifiedName, isHalf c = false := by
  intro c hc
  obtain ⟨d, hd, rfl⟩ := List.mem_map.1 hc
  split
  · decide
  · exact h d hd

/-- Where a file is opened, its path stays within the root. -/
theorem within_of_openNew {t u : FileTree} {root place : Path} {qualifiedName extension : String}
    (h : Inward qualifiedName) (hwhole : Whole qualifiedName) (hext : '/' ∉ extension.toList)
    (ho : t.openNew (Site.filePath root qualifiedName extension) = .ok (place, u)) :
    root.Within extension (Site.filePath root qualifiedName extension) := by
  refine ⟨hext, _, not_isHalf_of_mem_slashed hwhole, filePath_eq root h hext, fun hup => ?_⟩
  obtain ⟨_, name, _, hname, _, hlast⟩ := FileTree.place_of_openNew ho
  rw [filePath_eq root h hext] at hlast
  simp only [List.getLast?_append, getLast?_namesOf_slashed hext hup, Option.some_or,
    Option.some.injEq] at hlast
  exact hname hlast.symm

end BeanForge

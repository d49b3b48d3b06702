import BeanForge.Proofs.Discovery.Answers
import BeanForge.Proofs.FileTree.Contents
import BeanForge.Proofs.Pass.Account

/-!
# Isolation of files

A file that is selected cannot be read, holds a text that is rejected, or gives interfaces. What
becomes of it is a matter of this file alone: a search shows the interfaces of the good files and
one error for each of the others, in order. As long as discovery tells about every text, only a
path that is too long or cannot be asked for ends the search for all files.
-/

namespace BeanForge.Discovery

open Text

inductive Verdict where
  /-- No text can be read. -/
  | unreadable (reason : String)
  | rejected (f : Failure)
  | found (interfaces : List Interface)
  deriving Repr, DecidableEq

namespace Verdict

def interfaces : Verdict → List Interface
  | found interfaces => interfaces
  | unreadable _ | rejected _ => []

def complaint? (p : Path) : Verdict → Option Diagnostic
  | unreadable reason => some ⟨.error, "Cannot read source: " ++ reason, some p.text⟩
  | rejected f => some ⟨.error, f.message, some p.text⟩
  | found _ => none

def ofAnswer? : Except Stop (List Interface) → Option Verdict
  | .ok interfaces => some (.found interfaces)
  | .error (.failure f) => some (.rejected f)
  | .error (.fault _) => none

end Verdict

def verdict? (marker : String) (tree : FileTree) (p : Path) : Option Verdict :=
  match p.fault? with
  | some f => some (.unreadable f.message)
  | none =>
    match tree.read p with
    | .error e => some (.unreadable e.message)
    | .ok bytes =>
      match Utf8.decode bytes with
      | .error u => some (.unreadable u.message)
      | .ok cs =>
        Verdict.ofAnswer? (discover marker (String.ofList (unifyNewlines cs)) (some p.text))

def chosen (tree : FileTree) (p : Path) : List Path :=
  if p.fault? = none ∧ tree.isFolder p then ((tree.below p).map (·.1)).filter isSourceFile
  else [p]

def chosenAll (tree : FileTree) (paths : List Path) : List Path :=
  paths.flatMap (chosen tree)

def isTooLong (tree : FileTree) (p : Path) : Bool :=
  match tree.walk p with
  | .error e => e.kind == .nameTooLong
  | .ok _ => false

def Accessible (tree : FileTree) (paths : List Path) : Prop :=
  (∀ p ∈ paths, isTooLong tree p = false) ∧ ∀ p ∈ chosenAll tree paths, p.fault? = none

instance (tree : FileTree) (paths : List Path) : Decidable (Accessible tree paths) :=
  inferInstanceAs (Decidable (_ ∧ _))

def interfacesOf (marker : String) (tree : FileTree) (files : List Path) : List Interface :=
  (files.filterMap (verdict? marker tree)).flatMap Verdict.interfaces

def complaints (marker : String) (tree : FileTree) (files : List Path) : List Diagnostic :=
  files.filterMap fun p => (verdict? marker tree p).bind (Verdict.complaint? p)

/-- The end of a search with these interfaces and, for every collector, these diagnostics. -/
structure Finding.Shows (f : Finding) (interfaces : List Interface)
    (diagnostics : List Diagnostic) : Prop where
  fault? : f.fault? = none
  interfaces : f.interfaces = interfaces
  diagnostics {σ : Type} (c : Collector σ) :
    (c.followAll f.events).diagnostics = c.diagnostics ++ diagnostics

def Isolates (marker : String) (tree : FileTree) (paths : List Path) : Prop :=
  (inPaths marker tree paths).Shows (interfacesOf marker tree (chosenAll tree paths))
    (complaints marker tree (chosenAll tree paths))

/-- A change of the file at a place neither adds nor takes files, and all that lead elsewhere fare
as before. -/
structure KeepsOthers (marker : String) (tree changed : FileTree) (place : Path)
    (paths : List Path) : Prop where
  files : chosenAll changed paths = chosenAll tree paths
  others (p : Path) (h : tree.place p ≠ .ok place) :
    verdict? marker changed p = verdict? marker tree p

variable {marker : String} {tree : FileTree}

/-! Single files -/

theorem Finding.Shows.append {f g : Finding} {is js : List Interface} {ds es : List Diagnostic}
    (hf : f.Shows is ds) (hg : g.Shows js es) : (f.append g).Shows (is ++ js) (ds ++ es) where
  fault? := by simp [Finding.append, hf.fault?, hg.fault?]
  interfaces := by simp [Finding.append, hf.interfaces, hg.interfaces]
  diagnostics c := by
    rw [Finding.append, Collector.followAll_append, hg.diagnostics, hf.diagnostics,
      List.append_assoc]

theorem shows_complaint (p : Path) (message : String) :
    (Finding.complaint p message).Shows [] [⟨.error, message, some p.text⟩] where
  fault? := rfl
  interfaces := rfl
  diagnostics c := c.diagnostics_report _

theorem shows_inText {text : String} {p : Path} {v : Verdict}
    (h : Verdict.ofAnswer? (discover marker text (some p.text)) = some v) :
    (inText marker text p).Shows v.interfaces (v.complaint? p).toList := by
  rw [discover] at h
  unfold inText
  cases hread : read text (some p.text) with
  | ok u =>
    rw [hread] at h
    cases h
    refine ⟨rfl, rfl, fun c => ?_⟩
    rw [Collector.diagnostics_followAll]
    simp [List.filterMap_map, Function.comp_def, Event.told?, Verdict.complaint?]
  | error stop =>
    rw [hread] at h
    cases stop with
    | failure f =>
      cases h
      exact shows_complaint p f.message
    | fault f => cases h

theorem shows_inFile {p : Path} {v : Verdict} (hpath : p.fault? = none)
    (h : verdict? marker tree p = some v) :
    (inFile marker tree p).Shows v.interfaces (v.complaint? p).toList := by
  rw [verdict?, hpath] at h
  rw [inFile, hpath]
  cases hread : tree.read p with
  | error e =>
    rw [hread] at h
    cases h
    exact shows_complaint p _
  | ok bytes =>
    simp only [hread] at h ⊢
    cases hdecode : Utf8.decode bytes with
    | error u =>
      rw [hdecode] at h
      cases h
      exact shows_complaint p _
    | ok cs =>
      rw [hdecode] at h
      exact shows_inText h

/-! Lists of files -/

/-- No file is lost, moved or seen in part: each adds its own share. -/
theorem shows_untilFault {files : List Path} (hpaths : ∀ p ∈ files, p.fault? = none)
    (h : ∀ p ∈ files, (verdict? marker tree p).isSome) :
    (untilFault (inFile marker tree) files).Shows (interfacesOf marker tree files)
      (complaints marker tree files) := by
  induction files with
  | nil => exact ⟨rfl, rfl, fun c => (List.append_nil _).symm⟩
  | cons p rest ih =>
    obtain ⟨hfirst, hothers⟩ := List.forall_mem_cons.1 h
    obtain ⟨hpath, hpathothers⟩ := List.forall_mem_cons.1 hpaths
    obtain ⟨v, hv⟩ := Option.isSome_iff_exists.1 hfirst
    have hshows := shows_inFile hpath hv
    have hrest := hshows.append (ih hpathothers hothers)
    -- a file with a verdict ends nothing, so the search goes on behind it
    have hfiles : untilFault (inFile marker tree) (p :: rest) =
        (inFile marker tree p).append (untilFault (inFile marker tree) rest) := by
      simp [untilFault, hshows.fault?]
    have hinterfaces : interfacesOf marker tree (p :: rest) =
        v.interfaces ++ interfacesOf marker tree rest := by
      simp [interfacesOf, hv]
    have hcomplaints : complaints marker tree (p :: rest) =
        (v.complaint? p).toList ++ complaints marker tree rest := by
      cases hc : v.complaint? p <;> simp [complaints, hv, hc]
    rwa [hfiles, hinterfaces, hcomplaints]

theorem selected_eq_ok_iff (p : Path) (files : List Path) :
    selected tree p = .ok files ↔
      chosen tree p = files ∧ (isTooLong tree p = true → p.fault? ≠ none) := by
  unfold selected chosen FileTree.checkFolder FileTree.isFolder isTooLong
  cases hpath : p.fault? with
  | some f => simp [Except.mapError, bind, Except.bind, pure, Except.pure]
  | none =>
    cases tree.walk p with
    | error e =>
      by_cases hkind : e.kind = .nameTooLong <;>
        simp [hkind, Except.mapError, bind, Except.bind, pure, Except.pure]
    | ok entry =>
      by_cases hfolder : entry = some .folder <;>
        simp [hfolder, Except.mapError, bind, Except.bind, pure, Except.pure]

/-- All paths are asked for folders before the first file is read. -/
theorem mapM_selected_eq_ok_iff (paths : List Path) (files : List (List Path)) :
    paths.mapM (selected tree) = .ok files ↔
      paths.map (chosen tree) = files ∧
        ∀ p ∈ paths, isTooLong tree p = true → p.fault? ≠ none := by
  induction paths generalizing files with
  | nil => simp [pure, Except.pure]
  | cons p rest ih =>
    rw [List.mapM_cons, List.map_cons]
    constructor
    · intro h
      cases hp : selected tree p with
      | error f => simp [hp, bind, Except.bind] at h
      | ok first =>
        cases hrest : rest.mapM (selected tree) with
        | error f => simp [hp, hrest, bind, Except.bind] at h
        | ok others =>
          obtain ⟨rfl, hfirst⟩ := (selected_eq_ok_iff p first).1 hp
          obtain ⟨rfl, hothers⟩ := (ih others).1 hrest
          refine ⟨?_, List.forall_mem_cons.2 ⟨hfirst, hothers⟩⟩
          simpa [hp, hrest, bind, Except.bind, pure, Except.pure] using h
    · rintro ⟨rfl, h⟩
      obtain ⟨hfirst, hothers⟩ := List.forall_mem_cons.1 h
      rw [(selected_eq_ok_iff p _).2 ⟨rfl, hfirst⟩, (ih _).2 ⟨rfl, hothers⟩]
      rfl

theorem exists_walk_of_isTooLong {p : Path} (h : isTooLong tree p = true) :
    ∃ e, tree.walk p = .error e := by
  cases hwalk : tree.walk p with
  | error e => exact ⟨e, rfl⟩
  | ok entry => simp [isTooLong, hwalk] at h

theorem chosen_of_isTooLong {p : Path} (h : isTooLong tree p = true) : chosen tree p = [p] := by
  obtain ⟨e, hwalk⟩ := exists_walk_of_isTooLong h
  simp [chosen, FileTree.isFolder, hwalk]

theorem isSome_verdict?_of_isTooLong {p : Path} (h : isTooLong tree p = true) :
    (verdict? marker tree p).isSome := by
  obtain ⟨e, hwalk⟩ := exists_walk_of_isTooLong h
  rw [verdict?, FileTree.read, hwalk]
  cases p.fault? <;> rfl

theorem isTooLong_of_name (tree : FileTree) (anchor : Anchor) {name : String}
    (hup : name ≠ Path.upName) (h : 255 < FileTree.byteCount name) :
    isTooLong tree ⟨anchor, [name]⟩ = true := by
  have hplace : tree.place ⟨anchor, [name]⟩ = .error ⟨.nameTooLong, ⟨anchor, [name]⟩⟩ := by
    by_cases hlen : 4096 ≤ FileTree.byteCount (Path.text ⟨anchor, [name]⟩)
    · rw [FileTree.place, if_pos hlen]
    · rw [FileTree.place, if_neg hlen]
      simp [FileTree.follow, hup, h, Except.mapError]
  simp [isTooLong, FileTree.walk, hplace, Except.map]

theorem accessible_of_fault?_none {paths : List Path}
    (h : (inPaths marker tree paths).fault? = none) : Accessible tree paths := by
  obtain ⟨files, hfiles, hends⟩ := (fault?_inPaths marker tree paths).1 h
  obtain ⟨rfl, hlong⟩ := (mapM_selected_eq_ok_iff paths files).1 hfiles
  -- a path that is too long passes for a file if it cannot be asked for, and then ends the search
  have hasked : ∀ p ∈ chosenAll tree paths, p.fault? = none := by
    intro p hp
    rw [chosenAll, List.flatMap_def] at hp
    exact Option.eq_none_iff_forall_ne_some.2 fun f hf => hends p hp (.path hf)
  refine ⟨fun p hp => Bool.eq_false_iff.2 fun htoo => ?_, hasked⟩
  have hself : p ∈ chosen tree p := by simp [chosen_of_isTooLong htoo]
  exact hlong p hp htoo (hasked p (List.mem_flatMap.2 ⟨p, hp, hself⟩))

theorem isolates_of_accessible {paths : List Path}
    (h : ∀ p ∈ chosenAll tree paths, (verdict? marker tree p).isSome)
    (haccess : Accessible tree paths) : Isolates marker tree paths := by
  obtain ⟨hlong, hasked⟩ := haccess
  have hfiles : paths.mapM (selected tree) = .ok (paths.map (chosen tree)) :=
    (mapM_selected_eq_ok_iff paths _).2 ⟨rfl, fun p hp htoo => by simp [hlong p hp] at htoo⟩
  have hpaths : inPaths marker tree paths =
      untilFault (inFile marker tree) (chosenAll tree paths) := by
    rw [inPaths, hfiles, chosenAll, List.flatMap_def]
  rw [Isolates, hpaths]
  exact shows_untilFault hasked h

/-! Other contents -/

section Contents

variable {place : Path} {old : Bytes} (new : Bytes) (hplace : tree.entry? place = some (.file old))
include hplace

theorem isTooLong_put_file (p : Path) :
    isTooLong (tree.put place (.file new)) p = isTooLong tree p := by
  rcases (FileTree.sameShape_put_file new hplace).walk_cases p with hsame | ⟨_, _, hold, hnew⟩
  · rw [isTooLong, isTooLong, hsame]
  · rw [isTooLong, isTooLong, hold, hnew]

theorem chosenAll_put_file (paths : List Path) :
    chosenAll (tree.put place (.file new)) paths = chosenAll tree paths := by
  have hchosen : chosen (tree.put place (.file new)) = chosen tree := by
    funext p
    rw [chosen, chosen, (FileTree.sameShape_put_file new hplace).isFolder_eq,
      FileTree.map_fst_below_put_file new hplace]
  rw [chosenAll, chosenAll, hchosen]

theorem accessible_put_file (paths : List Path) :
    Accessible (tree.put place (.file new)) paths ↔ Accessible tree paths := by
  simp only [Accessible, isTooLong_put_file new hplace, chosenAll_put_file new hplace]

theorem verdict?_put_of_ne (marker : String) {p : Path} (hp : tree.place p ≠ .ok place) :
    verdict? marker (tree.put place (.file new)) p = verdict? marker tree p := by
  rw [verdict?, verdict?, FileTree.read_put_of_ne new hplace hp]

theorem keepsOthers_put_file (marker : String) (paths : List Path) :
    KeepsOthers marker tree (tree.put place (.file new)) place paths where
  files := chosenAll_put_file new hplace paths
  others _ hp := verdict?_put_of_ne new hplace marker hp

end Contents

/-- A search isolates its files exactly if all are accessible. Other contents of one file change
what becomes of this file only. -/
theorem isolates_iff {paths : List Path}
    (h : ∀ p ∈ chosenAll tree paths, (verdict? marker tree p).isSome) :
    (Isolates marker tree paths ↔ Accessible tree paths) ∧
    ∀ place old new, tree.entry? place = some (.file old) →
      KeepsOthers marker tree (tree.put place (.file new)) place paths ∧
      ((∀ p ∈ chosenAll tree paths, tree.place p = .ok place →
          (verdict? marker (tree.put place (.file new)) p).isSome) →
        (Isolates marker (tree.put place (.file new)) paths ↔ Accessible tree paths)) := by
  have hisolates {t : FileTree} (ht : ∀ p ∈ chosenAll t paths, (verdict? marker t p).isSome) :
      Isolates marker t paths ↔ Accessible t paths :=
    ⟨fun hi => accessible_of_fault?_none hi.fault?, isolates_of_accessible ht⟩
  refine ⟨hisolates h, ?_⟩
  intro place old new hplace
  have hkeeps := keepsOthers_put_file new hplace marker paths
  refine ⟨hkeeps, fun hnew => ?_⟩
  rw [← accessible_put_file new hplace paths]
  refine hisolates fun p hp => ?_
  rw [hkeeps.files] at hp
  by_cases hthere : tree.place p = .ok place
  · exact hnew p hp hthere
  · rw [hkeeps.others p hthere]
    exact h p hp

/-- A path to nothing, and a folder with a good file, one that is no text and one that is no
source. The second one is then emptied. -/
theorem isolates_iff_of_bad_files :
    let text := "@GenerateEntity interface A \x7b int getAge(); \x7d"
    let folder : Path := ⟨.here, ["a"]⟩
    let missing : Path := ⟨.here, ["Missing.java"]⟩
    let tree : FileTree := ⟨[(folder, .folder),
      (folder.child "A.java", .file (utf8Bytes text.toList)),
      (folder.child "B.java", .file [0xFF]),
      (folder.child "C.java", .file (utf8Bytes "#".toList))]⟩
    let changed := tree.put (folder.child "B.java") (.file [])
    (∀ p ∈ chosenAll tree [missing, folder], (verdict? "GenerateEntity" tree p).isSome) ∧
    Isolates "GenerateEntity" tree [missing, folder] ∧
    Isolates "GenerateEntity" changed [missing, folder] := by
  intro text folder missing tree changed
  have hfolder : tree.place folder = .ok folder := by decide +kernel
  have hfiles : chosenAll tree [missing, folder] =
      [missing, folder.child "A.java", folder.child "B.java", folder.child "C.java"] := by
    have hbelow : (tree.below folder).map (·.1) =
        [folder.child "A.java", folder.child "B.java", folder.child "C.java"] := by
      rw [FileTree.map_fst_below, hfolder]
      exact List.mergeSort_of_pairwise (by decide +kernel)
    have hmissing : tree.isFolder missing = false := by decide +kernel
    have hisfolder : tree.isFolder folder = true := by decide +kernel
    simp only [chosenAll, List.flatMap_cons, List.flatMap_nil, chosen, hmissing, hisfolder, hbelow]
    decide +kernel
  have hverdicts : ∀ p ∈ chosenAll tree [missing, folder],
      (verdict? "GenerateEntity" tree p).isSome := by
    rw [hfiles]
    decide +kernel
  have haccess : Accessible tree [missing, folder] := by
    refine ⟨by decide +kernel, ?_⟩
    rw [hfiles]
    decide +kernel
  obtain ⟨hisolates, hchanges⟩ := isolates_iff hverdicts
  have hchanged := (hchanges (folder.child "B.java") [0xFF] [] (by decide +kernel)).2
  refine ⟨hverdicts, hisolates.2 haccess, (hchanged ?_).2 haccess⟩
  rw [hfiles]
  decide +kernel

theorem not_isolates_of_long_name :
    let long : Path := ⟨.here, [String.ofList (List.replicate 256 'x')]⟩
    let car : Path := ⟨.here, ["Car.java"]⟩
    let text := "@GenerateEntity interface Car \x7b int getAge(); \x7d"
    let tree : FileTree := ⟨[(car, .file (utf8Bytes text.toList))]⟩
    (∀ p ∈ chosenAll tree [long, car], (verdict? "GenerateEntity" tree p).isSome) ∧
    ¬Isolates "GenerateEntity" tree [long, car] := by
  intro long car text tree
  have hlong : isTooLong tree long = true :=
    isTooLong_of_name tree .here (by decide +kernel) (by decide +kernel)
  have hcar : chosen tree car = [car] := by decide +kernel
  constructor
  · intro p hp
    rw [chosenAll, List.flatMap_cons, chosen_of_isTooLong hlong, List.flatMap_singleton, hcar,
      List.singleton_append, List.mem_cons, List.mem_singleton] at hp
    rcases hp with rfl | rfl
    · exact isSome_verdict?_of_isTooLong hlong
    · decide +kernel
  · intro h
    have hshort := (accessible_of_fault?_none h.fault?).1 long List.mem_cons_self
    cases hshort.symm.trans hlong

end BeanForge.Discovery

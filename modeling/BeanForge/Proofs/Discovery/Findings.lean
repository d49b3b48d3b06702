import BeanForge.Discovery.Paths
import BeanForge.Proofs.Artifact.TypePaths
import BeanForge.Proofs.Source.Spelling

/-!
# Findings

A search that ends without a fault and without an error has read, decoded and parsed every file
that was selected, and has found the interfaces of all of them. Their names are identifiers, which hold
no halves of pairs, and so are the parts of the names of their packages.
-/

namespace BeanForge

open Text Source

/-! Names of interfaces -/

theorem splitAt_intercalate {parts : List String} (hne : parts ≠ [])
    (h : ∀ part ∈ parts, '.' ∉ part.toList) :
    splitAt '.' (".".intercalate parts).toList = parts.map String.toList := by
  induction parts with
  | nil => exact absurd rfl hne
  | cons part rest ih =>
    cases rest with
    | nil => simpa using splitAt_of_not_mem (h part List.mem_cons_self)
    | cons next more =>
      have hrest := ih (List.cons_ne_nil next more) fun p hp => h p (List.mem_cons_of_mem _ hp)
      have hchars : (".".intercalate (part :: next :: more)).toList =
          part.toList ++ '.' :: (".".intercalate (next :: more)).toList := by
        rw [String.intercalate_cons_cons]
        simp
      rw [hchars, splitAt_append_separator, hrest, splitAt_of_not_mem (h part List.mem_cons_self)]
      rfl

theorem Source.IsDotted.properType {name : String} (h : IsDotted name) : ProperType name := by
  obtain ⟨parts, hne, hparts, rfl⟩ := h
  intro part hp
  rw [splitAt_intercalate hne fun p hp => (not_mem_of_isIdentifier (hparts p hp)).1] at hp
  obtain ⟨p, hmem, rfl⟩ := List.mem_map.1 hp
  obtain ⟨_, hslash, hnul⟩ := not_mem_of_isIdentifier (hparts p hmem)
  refine ⟨fun hempty => ne_empty_of_isIdentifier (hparts p hmem) ?_, hslash, hnul⟩
  exact String.toList_inj.1 hempty

namespace Discovery

/-- A unit is what its readers give, one after the other. -/
theorem runs_of_compilationUnit {text : String} {u : CompilationUnit}
    (h : compilationUnit text = .ok u) :
    ∃ ts rest ending, (Grammar.header (Grammar.levelFor ts)).run ts = .ok (u.package, rest) ∧
      (Grammar.declarations (Grammar.levelFor ts)).run rest = .ok (u.declarations, ending) := by
  cases ht : tokens text with
  | error fault => simp [compilationUnit, ht, Except.mapError, bind, Except.bind] at h
  | ok ts =>
    cases hheader : (Grammar.header (Grammar.levelFor ts)).run ts with
    | error halt => simp [compilationUnit, ht, hheader, Except.mapError, bind, Except.bind] at h
    | ok header =>
      obtain ⟨package, rest⟩ := header
      cases hall : (Grammar.declarations (Grammar.levelFor ts)).run rest with
      | error halt =>
        simp [compilationUnit, ht, hheader, hall, Except.mapError, bind, Except.bind] at h
      | ok all =>
        obtain ⟨declarations, ending⟩ := all
        obtain rfl : ⟨package, declarations⟩ = u := by
          simpa [compilationUnit, ht, hheader, hall, Except.mapError, bind, Except.bind, pure,
            Except.pure] using h
        exact ⟨ts, rest, ending, hheader, hall⟩

theorem names_of_compilationUnit {text : String} {u : CompilationUnit}
    (h : compilationUnit text = .ok u) :
    (∀ name, u.package = some name → IsDotted name) ∧ ∀ d ∈ u.declarations, Grammar.Named d := by
  obtain ⟨_, _, _, hheader, hall⟩ := runs_of_compilationUnit h
  exact ⟨(Grammar.gives_header _).run hheader, (Grammar.gives_declarations _).run hall⟩

theorem spelled_of_compilationUnit {text : String} {u : CompilationUnit}
    (h : compilationUnit text = .ok u) : ∀ d ∈ u.declarations, d.Spelled := by
  obtain ⟨_, _, _, _, hall⟩ := runs_of_compilationUnit h
  exact (Grammar.gives_declarationsMethods (Grammar.spells_level _)).run hall

theorem proper_of_mem_interfaces {text : String} {u : CompilationUnit}
    (h : compilationUnit text = .ok u) {marker : String} {source : Option String} {i : Interface}
    (hi : i ∈ interfaces marker source u) : i.Proper ∧ i.IsWhole := by
  obtain ⟨hpackage, hnames⟩ := names_of_compilationUnit h
  obtain ⟨d, hd, hinterface⟩ := List.mem_filterMap.1 hi
  rw [interface?] at hinterface
  split at hinterface
  · cases hinterface
    have hname := hnames d hd
    have hproper := And.intro (ne_empty_of_isIdentifier hname) (not_mem_of_isIdentifier hname)
    have hwhole := whole_of_isIdentifier hname
    cases hp : u.package with
    | none => exact ⟨⟨hproper, .inl rfl⟩, show Whole "" by decide, hwhole⟩
    | some name =>
      exact ⟨⟨hproper, .inr (hpackage name hp).properType⟩, (hpackage name hp).whole, hwhole⟩
  · cases hinterface

/-- The file under a path is read, decoded and parsed into a unit. -/
def Reads (tree : FileTree) (p : Path) (u : CompilationUnit) : Prop :=
  p.fault? = none ∧ ∃ bytes cs, tree.read p = .ok bytes ∧ Utf8.decode bytes = .ok cs ∧
    compilationUnit (String.ofList (unifyNewlines cs)) = .ok u

def Finding.Clean (f : Finding) : Prop :=
  f.fault? = none ∧ ∀ d, Event.told d ∈ f.events → d.isError = false

theorem not_clean_complaint (p : Path) (message : String) :
    ¬(Finding.complaint p message).Clean := by
  rintro ⟨_, herrors⟩
  have herror := herrors ⟨.error, message, some p.text⟩ (List.mem_singleton.2 rfl)
  cases herror

theorem reads_of_clean {marker : String} {tree : FileTree} {p : Path}
    (h : (inFile marker tree p).Clean) :
    ∃ u, Reads tree p u ∧
      (inFile marker tree p).interfaces = interfaces marker (some p.text) u := by
  cases hpath : p.fault? with
  | some f => simp [inFile, hpath, Finding.Clean] at h
  | none =>
    cases hread : tree.read p with
    | error e =>
      simp only [inFile, hpath, hread] at h
      exact absurd h (not_clean_complaint _ _)
    | ok bytes =>
      cases hdecode : Utf8.decode bytes with
      | error u =>
        simp only [inFile, hpath, hread, hdecode] at h
        exact absurd h (not_clean_complaint _ _)
      | ok cs =>
        cases hu : compilationUnit (String.ofList (unifyNewlines cs)) with
        | error rejection =>
          simp only [inFile, hpath, hread, hdecode, inText, read, hu, Except.mapError] at h
          cases rejection with
          | unreadable reason => exact absurd h (not_clean_complaint _ _)
          | fault f => cases h.1
        | ok u =>
          refine ⟨u, ⟨hpath, bytes, cs, hread, hdecode, hu⟩, ?_⟩
          simp [inFile, hpath, hread, hdecode, inText, read, hu, Except.mapError]

theorem Finding.clean_append {f g : Finding} (h : (f.append g).Clean) : f.Clean ∧ g.Clean := by
  obtain ⟨hfault, herrors⟩ := h
  have hboth : f.fault? = none ∧ g.fault? = none := by simpa [append] using hfault
  exact ⟨⟨hboth.1, fun d hd => herrors d (List.mem_append_left _ hd)⟩,
    hboth.2, fun d hd => herrors d (List.mem_append_right _ hd)⟩

theorem reads_of_clean_untilFault {marker : String} {tree : FileTree} {files : List Path}
    (h : (untilFault (inFile marker tree) files).Clean) :
    ∃ units : List (Path × CompilationUnit), units.map (·.1) = files ∧
      (∀ e ∈ units, Reads tree e.1 e.2) ∧
      (untilFault (inFile marker tree) files).interfaces =
        units.flatMap fun e => interfaces marker (some e.1.text) e.2 := by
  induction files with
  | nil => exact ⟨[], rfl, by simp, rfl⟩
  | cons p rest ih =>
    have hfault : (inFile marker tree p).fault?.isSome = false := by
      cases hf : (inFile marker tree p).fault? with
      | none => rfl
      | some f => simp [untilFault, hf, Finding.Clean] at h
    have hboth : untilFault (inFile marker tree) (p :: rest) =
        (inFile marker tree p).append (untilFault (inFile marker tree) rest) := by
      simp [untilFault, hfault]
    rw [hboth] at h
    obtain ⟨hfirst, hothers⟩ := Finding.clean_append h
    obtain ⟨u, hu, hfound⟩ := reads_of_clean hfirst
    obtain ⟨units, hfiles, hunits, hrest⟩ := ih hothers
    refine ⟨(p, u) :: units, by simp [hfiles], List.forall_mem_cons.2 ⟨hu, hunits⟩, ?_⟩
    rw [hboth, List.flatMap_cons, ← hrest, ← hfound]
    rfl

/-- What is found by a search that meets neither a fault nor an error. -/
theorem reads_of_clean_inPaths {marker : String} {tree : FileTree} {paths : List Path}
    (h : (inPaths marker tree paths).Clean) :
    ∃ files, paths.mapM (selected tree) = .ok files ∧
      ∃ units : List (Path × CompilationUnit), units.map (·.1) = files.flatten ∧
        (∀ e ∈ units, Reads tree e.1 e.2) ∧
        (inPaths marker tree paths).interfaces =
          units.flatMap fun e => interfaces marker (some e.1.text) e.2 := by
  cases hf : paths.mapM (selected tree) with
  | error f => simp [inPaths, hf, Finding.Clean] at h
  | ok files =>
    simp only [inPaths, hf] at h ⊢
    exact ⟨files, rfl, reads_of_clean_untilFault h⟩

end Discovery

end BeanForge

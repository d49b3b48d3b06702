import BeanForge.Proofs.Artifact.Session

/-!
# What failed emissions leave

An emission in a block fails if its sink cannot be made, if a text is not taken, if the block ends
with a fault of its own, or if the stream cannot be closed. A sink takes its file away again. Only
a file that was opened before its charset turned out to be unknown never gets a sink, and stays.
-/

namespace BeanForge

open Text

/-! Writing to open files -/

namespace Sink

variable [Codecs] {place : Path} {encoding : String}

/-- An open file stays open, whatever it takes. -/
theorem writeAll_of_open {s : Sink} {given : List String} {bytes : Bytes}
    (h : s.stream = .file place encoding given bytes true)
    (texts : List (String × Option Stream.Refusal)) :
    ∃ given bytes,
      (s.writeAll texts).1 = { s with stream := .file place encoding given bytes true } := by
  induction texts generalizing s given bytes with
  | nil => exact ⟨given, bytes, by rw [← h]; rfl⟩
  | cons entry rest ih =>
    obtain ⟨text, refusal⟩ := entry
    have hnext := s.write_fst text refusal
    rw [h] at hnext
    cases hw : s.write text refusal with
    | mk next outcome =>
      rw [hw] at hnext
      obtain rfl : next = _ := hnext
      cases outcome with
      | error e => exact ⟨_, _, by rw [writeAll, hw]; rfl⟩
      | ok _ =>
        obtain ⟨more, all, hall⟩ := ih (s := { s with stream := _ }) rfl
        exact ⟨more, all, by rw [writeAll, hw]; exact hall⟩

end Sink

namespace Site

/-! Leaving nothing -/

/-- There is no file at a path, any other file is as it was, and the same paths are enlisted. -/
structure LeavesNothing (path : Path) (before after : Site) : Prop where
  gone : ∀ bytes, after.tree.entry? path.settled ≠ some (.file bytes)
  others : ∀ p, p ≠ path.settled → ∀ bytes,
    after.tree.entry? p = some (.file bytes) ↔ before.tree.entry? p = some (.file bytes)
  enlisted : after.store = before.store

/-- The file of a type is not there any more, and there is no other change to files or artifacts. -/
def Loses (before : Site) (qualifiedName : String) (after : Site) : Prop :=
  match before.store with
  | .memory _ _ => False
  | .folder root extension _ _ => LeavesNothing (filePath root qualifiedName extension) before after

variable {tree u : FileTree} {root : Path} {extension encoding workingFolder qualifiedName : String}
  {created : List Path}

theorem leavesNothing_of_grows {path : Path} {store : Store} (hgrows : tree.Grows u)
    (hnew : ∀ bytes, tree.entry? path.settled ≠ some (.file bytes)) :
    LeavesNothing path ⟨tree, store, workingFolder⟩ ⟨u, store, workingFolder⟩ where
  gone bytes hfile := hnew bytes ((hgrows.file_iff _ bytes).1 hfile)
  others p _ := hgrows.file_iff p
  enlisted := rfl

/-- A charset turns out to be unknown once the file is open. -/
theorem openFile_unknownCharset [Codecs] {path : Path} {message : String}
    (h : openFile tree encoding qualifiedName path =
      (u, .error (.fault (.unknownCharset message)))) :
    u.entry? path.settled = some (.file []) := by
  cases openFile_eq_iff.1 h with
  | parent bad => exact absurd bad (Path.fault?_ne_unknownCharset _ _)
  | unasked _ _ bad => exact absurd bad (asked_ne_unknownCharset _ _ _)
  | unknownCharset ready there _ => exact Opened.empty ⟨_, ready.folders, there⟩

/-! Failing -/

namespace Opened

variable {path : Path}

/-- An artifact is dropped with its file. -/
theorem leavesNothing (h : Opened tree u path) (hcreated : path ∉ created) (bytes : Bytes) :
    LeavesNothing path ⟨tree, .folder root extension encoding created, workingFolder⟩
      ⟨emptied u path.settled bytes,
        (Store.folder root extension encoding (created ++ [path])).strike path, workingFolder⟩ where
  gone more := by simp [entry?_emptied bytes h.empty]
  others := (h.touches.trans (touches_emptied bytes h.empty)).2
  enlisted := by simp [Store.strike, List.erase_append_right _ hcreated]

variable {sink : Sink} {given : List String} {bytes : Bytes}

theorem leavesNothing_discard (h : Opened tree u path) (hcreated : path ∉ created)
    (hopen : sink.isClosed = false) (hkeeping : sink.keeping = .onDisk path)
    (hstream : sink.stream = .file path.settled encoding given bytes true)
    (refusal : Option String) :
    LeavesNothing path ⟨tree, .folder root extension encoding created, workingFolder⟩
      ((⟨u, .folder root extension encoding (created ++ [path]), workingFolder⟩ : Site).discard
        sink refusal).site := by
  obtain ⟨notes, hdropped⟩ := discard_of_open
    (s := ⟨u, .folder root extension encoding (created ++ [path]), workingFolder⟩)
    hopen hkeeping hstream h.place h.empty refusal
  rw [hdropped]
  exact h.leavesNothing hcreated bytes

theorem leavesNothing_close (h : Opened tree u path) (hcreated : path ∉ created)
    (hopen : sink.isClosed = false) (hkeeping : sink.keeping = .onDisk path)
    (hstream : sink.stream = .file path.settled encoding given bytes true)
    {refusal : Option String} {stop : Stop}
    (hfail : ((⟨u, .folder root extension encoding (created ++ [path]), workingFolder⟩ :
      Site).close sink refusal).outcome = .error stop) :
    LeavesNothing path ⟨tree, .folder root extension encoding created, workingFolder⟩
      ((⟨u, .folder root extension encoding (created ++ [path]), workingFolder⟩ : Site).close
        sink refusal).site := by
  cases refusal with
  | none =>
    rw [close_of_open (s := ⟨u, .folder root extension encoding (created ++ [path]), workingFolder⟩)
      hopen hkeeping hstream h.empty] at hfail
    cases hfail
  | some reason =>
    rw [close_of_refused
      (s := ⟨u, .folder root extension encoding (created ++ [path]), workingFolder⟩)
      hopen hkeeping hstream h.place h.empty]
    exact h.leavesNothing hcreated bytes

end Opened

section Emitting

variable [Codecs]

/-- Whichever way a block with an open file fails, nothing is left. -/
theorem leavesNothing_of_opened {place : Path}
    (hcreated : filePath root qualifiedName extension ∉ created)
    (ho : openFile tree encoding qualifiedName (filePath root qualifiedName extension) =
      (u, .ok place))
    (texts : List (String × Option Stream.Refusal)) (ownFault : Option Fault)
    (refusal : Option String) {stop : Stop}
    (hfail : ((⟨tree, .folder root extension encoding created, workingFolder⟩ : Site).emitAgainst
      qualifiedName texts ownFault refusal).outcome = .error stop) :
    LeavesNothing (filePath root qualifiedName extension)
      ⟨tree, .folder root extension encoding created, workingFolder⟩
      ((⟨tree, .folder root extension encoding created, workingFolder⟩ : Site).emitAgainst
        qualifiedName texts ownFault refusal).site := by
  obtain ⟨hplace, h, _⟩ := openFile_ok ho
  rw [hplace] at ho
  have hcreate := create_of_openFile_ok workingFolder hcreated ho
  simp only [fileSink] at hcreate
  generalize filePath root qualifiedName extension = path at *
  obtain ⟨given, bytes, hsink⟩ := Sink.writeAll_of_open (s := ⟨qualifiedName,
    path.address workingFolder, .file path.settled encoding [] [] true, .onDisk path, false⟩)
    rfl texts
  cases hwritten : Sink.writeAll _ texts with
  | mk sink written =>
    rw [hwritten] at hsink
    obtain rfl : sink = _ := hsink
    simp only [emitAgainst, hcreate, hwritten] at hfail ⊢
    cases written with
    | error e => exact h.leavesNothing_discard hcreated rfl rfl rfl refusal
    | ok _ =>
      cases ownFault with
      | some f => exact h.leavesNothing_discard hcreated rfl rfl rfl refusal
      | none =>
        cases hout : (Site.close _ _ refusal).outcome with
        | error e => exact h.leavesNothing_close hcreated rfl rfl rfl hout
        | ok _ => simp [hout, Except.map] at hfail

/-- A failed emission where no file was leaves nothing, unless its file was opened before the
encoding turned out to be unknown. -/
theorem leavesNothing_emitAgainst_iff (s : Site) {root : Path} {extension encoding : String}
    {created : List Path} (hstore : s.store = .folder root extension encoding created)
    (qualifiedName : String)
    (hnew : ∀ bytes,
      s.tree.entry? (filePath root qualifiedName extension).settled ≠ some (.file bytes))
    (texts : List (String × Option Stream.Refusal)) (ownFault : Option Fault)
    (refusal : Option String) {stop : Stop}
    (hfail : (s.emitAgainst qualifiedName texts ownFault refusal).outcome = .error stop) :
    LeavesNothing (filePath root qualifiedName extension) s
        (s.emitAgainst qualifiedName texts ownFault refusal).site ↔
      ∀ message, (s.create qualifiedName).2 ≠ .error (.fault (.unknownCharset message)) := by
  obtain ⟨tree, store, workingFolder⟩ := s
  obtain rfl : store = .folder root extension encoding created := hstore
  by_cases hcreated : filePath root qualifiedName extension ∈ created
  · simp only [emitAgainst, create_of_enlisted hcreated]
    exact iff_of_true (leavesNothing_of_grows (.refl tree) hnew) (by simp [recreated])
  · cases ho : openFile tree encoding qualifiedName (filePath root qualifiedName extension) with
    | mk u opened =>
      cases opened with
      | ok place =>
        have hcreate := create_of_openFile_ok workingFolder hcreated ho
        have hnothing := leavesNothing_of_opened hcreated ho texts ownFault refusal hfail
        exact iff_of_true hnothing (by simp [hcreate])
      | error stop =>
        simp only [emitAgainst, create_of_openFile_error hcreated ho]
        rcases openFile_error ho with ⟨hgrows, _, hknown⟩ | ⟨message, _, rfl⟩
        · exact iff_of_true (leavesNothing_of_grows hgrows hnew) (by simpa using hknown)
        · exact iff_of_false (fun h => h.gone [] (openFile_unknownCharset ho)) (by simp)

/-! What an emission comes to -/

/-- A file is not opened, and no failure tells so. -/
inductive Misopens (tree : FileTree) (encoding : String) (path : Path) : Fault → Prop where
  | parent {f : Fault} (bad : path.parent.fault? = some f) : Misopens tree encoding path f
  | encoding {made : FileTree} {f : Fault} (fit : path.parent.fault? = none)
      (folders : tree.makeFolders path.parent = (made, none))
      (bad : encodingFault? encoding = some f) : Misopens tree encoding path f
  | name {made : FileTree} {f : Fault} (fit : path.parent.fault? = none)
      (folders : tree.makeFolders path.parent = (made, none))
      (named : encodingFault? encoding = none) (bad : path.fault? = some f) :
      Misopens tree encoding path f
  | charset {made : FileTree} {opened : Path × FileTree} {message : String}
      (fit : path.parent.fault? = none) (folders : tree.makeFolders path.parent = (made, none))
      (named : encodingFault? encoding = none) (proper : path.fault? = none)
      (there : made.openNew path = .ok opened) (bad : Codecs.find encoding = .error message) :
      Misopens tree encoding path (.unknownCharset message)

theorem openFile_fault_iff {path : Path} (qualifiedName : String) {f : Fault} :
    (openFile tree encoding qualifiedName path).2 = .error (.fault f) ↔
      Misopens tree encoding path f := by
  constructor
  · intro h
    obtain ⟨u, ho⟩ : ∃ u, openFile tree encoding qualifiedName path = (u, .error (.fault f)) :=
      ⟨_, Prod.ext rfl h⟩
    cases openFile_eq_iff.1 ho with
    | parent bad => exact .parent bad
    | unasked parent folders bad =>
      cases hnamed : encodingFault? encoding with
      | some g => exact .encoding parent folders (by simpa [hnamed] using bad)
      | none => exact .name parent folders hnamed (by simpa [hnamed] using bad)
    | unknownCharset ready there bad =>
      obtain ⟨hnamed, hproper⟩ : encodingFault? encoding = none ∧ path.fault? = none := by
        simpa using ready.asked
      exact .charset ready.parent ready.folders hnamed hproper there bad
  · intro h
    obtain ⟨u, hopens⟩ : ∃ u, Opens tree encoding qualifiedName path u (.error (.fault f)) := by
      cases h with
      | parent bad => exact ⟨_, .parent bad⟩
      | encoding fit folders bad => exact ⟨_, .unasked fit folders (by simp [bad])⟩
      | name fit folders named bad => exact ⟨_, .unasked fit folders (by simp [named, bad])⟩
      | charset fit folders named proper there bad =>
        exact ⟨_, .unknownCharset ⟨fit, folders, by simp [named, proper]⟩
          (openNew_settled there).2 bad⟩
    rw [openFile_eq_iff.2 hopens]

/-- An artifact is not kept, and no failure tells so. In memory that is never the case. -/
inductive Misemits (s : Site) (qualifiedName text : String) : Fault → Prop where
  | opening {root : Path} {extension encoding : String} {created : List Path} {f : Fault}
      (store : s.store = .folder root extension encoding created)
      (fresh : filePath root qualifiedName extension ∉ created)
      (bad : Misopens s.tree encoding (filePath root qualifiedName extension) f) :
      Misemits s qualifiedName text f
  | writing {root : Path} {extension encoding : String} {created : List Path} {u : FileTree}
      {place : Path} {f : Fault} (store : s.store = .folder root extension encoding created)
      (fresh : filePath root qualifiedName extension ∉ created)
      (there : openFile s.tree encoding qualifiedName (filePath root qualifiedName extension) =
        (u, .ok place))
      (bad : Codecs.feed encoding [] text.toList = .error f) :
      Misemits s qualifiedName text f

/-- An emission adds an artifact, or fails and changes none, or ends with a fault. Only where the
system refuses something of an open file may a failure take a file away, which is that of the
artifact. -/
inductive Emits (s : Site) (qualifiedName text : String) (mishap : Mishap) : Emission → Prop where
  | made {emission : Emission} {location : String} (outcome : emission.outcome = .ok location)
      (unrefused : mishap = {}) (gains : s.Gains qualifiedName text location emission.site) :
      Emits s qualifiedName text mishap emission
  | unwritten {emission : Emission} {reason : String}
      (outcome : emission.outcome = .error (.failure (.emission qualifiedName reason)))
      (keeps : s.KeepsFiles emission.site ∨ mishap ≠ {} ∧ s.Loses qualifiedName emission.site) :
      Emits s qualifiedName text mishap emission
  | fault {emission : Emission} {f : Fault} (outcome : emission.outcome = .error (.fault f))
      (bad : s.Misemits qualifiedName text f) : Emits s qualifiedName text mishap emission

theorem emits_memory (tree : FileTree) (extension workingFolder qualifiedName text : String)
    (files : List Recorded) (mishap : Mishap) :
    Emits ⟨tree, .memory extension files, workingFolder⟩ qualifiedName text mishap
      ((⟨tree, .memory extension files, workingFolder⟩ : Site).emitText qualifiedName text
        mishap) := by
  cases hknown : files.any (·.qualifiedName == qualifiedName) with
  | true =>
    have hcreate := create_memory tree extension workingFolder qualifiedName files
    rw [if_pos hknown] at hcreate
    rw [emitText_of_create_error hcreate]
    exact .unwritten rfl (.inl (.refl _))
  | false =>
    by_cases hmishap : mishap = {}
    · have hnew : ∀ file ∈ files, file.qualifiedName ≠ qualifiedName := by simpa using hknown
      rw [hmishap, emit_memory, if_neg (by simp [hknown])]
      exact .made rfl rfl ⟨hnew, rfl, rfl, rfl⟩
    · obtain ⟨hsite, reason, hout⟩ := emit_memory_of_mishap tree extension workingFolder
        qualifiedName text files hknown hmishap
      exact .unwritten hout (.inl (by rw [hsite]; exact .refl _))

theorem emits_folder (tree : FileTree) (root : Path)
    (extension encoding workingFolder qualifiedName text : String) (created : List Path)
    (mishap : Mishap) :
    Emits ⟨tree, .folder root extension encoding created, workingFolder⟩ qualifiedName text mishap
      ((⟨tree, .folder root extension encoding created, workingFolder⟩ : Site).emitText
        qualifiedName text mishap) := by
  rcases create_folder_cases tree root extension encoding workingFolder qualifiedName created with
    ⟨hknown, _⟩ | ⟨hnew, u, stop, ho, _⟩ | ⟨hnew, u, ho, _⟩
  · rw [emit_of_enlisted hknown]
    exact .unwritten rfl (.inl (.refl _))
  · rw [emit_of_openFile_error hnew ho]
    cases stop with
    | fault f =>
      exact .fault rfl (.opening rfl hnew ((openFile_fault_iff qualifiedName).1 (by rw [ho])))
    | failure f =>
      rcases openFile_error ho with ⟨hgrows, hf, _⟩ | ⟨_, _, hfault⟩
      · obtain ⟨e, rfl⟩ := hf f rfl
        exact .unwritten rfl (.inl ⟨rfl, rfl, hgrows.file_iff⟩)
      · cases hfault
  · cases hb : Codecs.feed encoding [] text.toList with
    | error f => exact .fault (emit_of_unencodable hnew ho hb mishap) (.writing rfl hnew ho hb)
    | ok bytes =>
      by_cases hmishap : mishap = {}
      · rw [hmishap, emit_of_openFile_ok hnew ho hb]
        exact .made rfl rfl (gains_of_openFile hnew ho hb)
      · obtain ⟨reason, hfail⟩ := emit_of_mishap workingFolder hnew ho hb hmishap
        exact .unwritten hfail (.inr ⟨hmishap, leavesNothing_of_opened hnew ho _ _ _ hfail⟩)

theorem emits_emitText (s : Site) (qualifiedName text : String) (mishap : Mishap) :
    s.Emits qualifiedName text mishap (s.emitText qualifiedName text mishap) := by
  obtain ⟨tree, store, workingFolder⟩ := s
  cases store with
  | memory extension files => exact emits_memory ..
  | folder root extension encoding created => exact emits_folder ..

end Emitting

theorem leavesNothing_emitAgainst_iff_of_unencodable :
    let root : Path := ⟨.here, ["out"]⟩
    let s : Site := ⟨{}, .folder root ".java" "ascii" [], ""⟩
    let texts : List (String × Option Stream.Refusal) := [("class Ä", none)]
    let stop : Stop := .fault (.unencodable ⟨"ascii", "ordinal not in range(128)", 6, 1, 'Ä'⟩)
    (s.store = .folder root ".java" "ascii" [] ∧
      (∀ bytes, s.tree.entry? (filePath root "a.B" ".java").settled ≠ some (.file bytes)) ∧
      (s.emitAgainst "a.B" texts none none).outcome = .error stop) ∧
    (LeavesNothing (filePath root "a.B" ".java") s (s.emitAgainst "a.B" texts none none).site ↔
      ∀ message, (s.create "a.B").2 ≠ .error (.fault (.unknownCharset message))) := by
  intro root s texts stop
  have hnone : s.tree.entry? (filePath root "a.B" ".java").settled = none := by decide +kernel
  have hnew : ∀ bytes,
      s.tree.entry? (filePath root "a.B" ".java").settled ≠ some (.file bytes) := by
    simp [hnone]
  have hfail : (s.emitAgainst "a.B" texts none none).outcome = .error stop := by decide +kernel
  exact ⟨⟨rfl, hnew, hfail⟩, s.leavesNothing_emitAgainst_iff rfl "a.B" hnew texts none none hfail⟩

/-- With an encoding that does not exist, an empty file is left. -/
theorem not_leavesNothing_of_unknownCharset :
    let root : Path := ⟨.here, ["out"]⟩
    let s : Site := ⟨{}, .folder root ".java" "bogus" [], ""⟩
    let after := s.emit "a.B" ["class B"] none
    s.tree.entry? (filePath root "a.B" ".java").settled = none ∧
      after.outcome = .error (.fault (.unknownCharset "unknown encoding: bogus")) ∧
      after.site.tree.entry? (filePath root "a.B" ".java").settled = some (.file []) ∧
      ¬LeavesNothing (filePath root "a.B" ".java") s after.site := by
  intro root s after
  have hleft : after.site.tree.entry? (filePath root "a.B" ".java").settled = some (.file []) := by
    decide +kernel
  exact ⟨by decide +kernel, by decide +kernel, hleft, fun h => h.gone [] hleft⟩

end Site

end BeanForge

import BeanForge.Artifact.Store
import BeanForge.Proofs.FileTree.Faults
import BeanForge.Proofs.FileTree.Growth
import BeanForge.Proofs.Text.Encoding

/-!
# Emissions

What emitting one text leads to. In memory it is refused for a type that has an artifact and
recorded otherwise. In a folder it is refused for a path that is enlisted; else a file is opened,
which may add folders even if it fails, and its bytes come at the place that was opened.
-/

namespace BeanForge.Site

open Text

/-! Open files -/

theorem openNew_settled {made u : FileTree} {path place : Path}
    (h : made.openNew path = .ok (place, u)) :
    place = path.settled ∧ made.openNew path = .ok (path.settled, u) := by
  obtain rfl := FileTree.place_eq_settled (FileTree.openNew_eq_ok_iff.1 h).1
  exact ⟨rfl, h⟩

def Opened (tree u : FileTree) (path : Path) : Prop :=
  ∃ made, tree.makeFolders path.parent = (made, none) ∧
    made.openNew path = .ok (path.settled, u)

namespace Opened

variable {tree u : FileTree} {path : Path}

theorem empty (h : Opened tree u path) : u.entry? path.settled = some (.file []) := by
  obtain ⟨made, _, hopen⟩ := h
  obtain ⟨_, hfolder, rfl⟩ := FileTree.openNew_eq_ok_iff.1 hopen
  exact made.entry?_put_self (.file []) (FileTree.onlyUp_of_entry?_ne hfolder)

theorem ne_folder (h : Opened tree u path) : u.entry? path.settled ≠ some .folder := by
  simp [h.empty]

theorem place (h : Opened tree u path) : u.place path = .ok path.settled := by
  obtain ⟨made, _, hopen⟩ := h
  obtain ⟨hplace, hfolder, rfl⟩ := FileTree.openNew_eq_ok_iff.1 hopen
  exact FileTree.place_of_keepsFolders (FileTree.keepsFolders_put_file [] hfolder) hplace

theorem touches (h : Opened tree u path) : FileTree.Touches path.settled tree u := by
  obtain ⟨made, hmade, hopen⟩ := h
  obtain ⟨_, hfolder, rfl⟩ := FileTree.openNew_eq_ok_iff.1 hopen
  exact ((FileTree.grows_of_makeFolders hmade).touches _).trans
    (FileTree.touches_put_file [] hfolder)

end Opened

/-! Closing files -/

def emptied (t : FileTree) (place : Path) (bytes : Bytes) : FileTree :=
  (t.put place (.file bytes)).remove place

theorem touches_emptied {t : FileTree} {place : Path} (bytes : Bytes)
    (hfile : t.entry? place = some (.file [])) :
    FileTree.Touches place t (emptied t place bytes) := by
  have hfolder : t.entry? place ≠ some .folder := by simp [hfile]
  refine (FileTree.touches_put_file bytes hfolder).trans (FileTree.touches_remove ?_)
  simp [t.entry?_put_self (.file bytes) (FileTree.onlyUp_of_entry?_ne hfolder)]

theorem entry?_emptied {t : FileTree} {place : Path} (bytes : Bytes)
    (hfile : t.entry? place = some (.file [])) :
    FileTree.entry? (emptied t place bytes) place = none :=
  FileTree.entry?_remove_self _ (FileTree.onlyUp_of_entry?_ne (t := t) (by simp [hfile]))

section Open

variable {s : Site} {sink : Sink} {path place : Path} {encoding : String} {given : List String}
  {bytes : Bytes}

theorem remove_of_file (hp : s.tree.place path = .ok place)
    (he : s.tree.entry? place = some (.file bytes)) :
    s.remove path =
      ({ s with tree := s.tree.remove place, store := s.store.strike path }, []) := by
  simp [remove, FileTree.unlink_of_file hp he]

theorem remove_written (hp : s.tree.place path = .ok place)
    (hfile : s.tree.entry? place = some (.file [])) (bytes : Bytes) :
    remove { s with tree := s.tree.put place (.file bytes) } path =
      ({ s with tree := emptied s.tree place bytes, store := s.store.strike path }, []) := by
  have hfolder : s.tree.entry? place ≠ some .folder := by simp [hfile]
  exact remove_of_file
    (FileTree.place_of_keepsFolders (FileTree.keepsFolders_put_file bytes hfolder) hp)
    (s.tree.entry?_put_self _ (FileTree.onlyUp_of_entry?_ne hfolder))

theorem close_of_open (hopen : sink.isClosed = false) (hkeeping : sink.keeping = .onDisk path)
    (hstream : sink.stream = .file place encoding given bytes true)
    (hfile : s.tree.entry? place = some (.file [])) :
    s.close sink none =
      ⟨{ s with tree := s.tree.put place (.file bytes) },
        { sink with stream := .file place encoding given bytes false, isClosed := true },
        .ok (), []⟩ := by
  simp [close, hopen, hkeeping, closePlain, closeStream, hstream, Stream.flush, Stream.closed,
    Stream.closeFault?, FileTree.overwrite_of_empty bytes hfile]

/-- A file that cannot be closed well is taken away. -/
theorem close_of_refused (hopen : sink.isClosed = false) (hkeeping : sink.keeping = .onDisk path)
    (hstream : sink.stream = .file place encoding given bytes true)
    (hp : s.tree.place path = .ok place) (hfile : s.tree.entry? place = some (.file []))
    (reason : String) :
    s.close sink (some reason) =
      ⟨{ s with tree := emptied s.tree place bytes, store := s.store.strike path },
        { sink with stream := .file place encoding given bytes false, isClosed := true },
        .error (sink.failure reason), []⟩ := by
  simp [close, hopen, hkeeping, closePlain, closeStream, hstream, Stream.flush, Stream.closed,
    Stream.closeFault?, FileTree.overwrite_of_empty bytes hfile, remove_written hp hfile bytes,
    Sink.failure]

theorem discard_of_open (hopen : sink.isClosed = false) (hkeeping : sink.keeping = .onDisk path)
    (hstream : sink.stream = .file place encoding given bytes true)
    (hp : s.tree.place path = .ok place) (hfile : s.tree.entry? place = some (.file []))
    (refusal : Option String) :
    ∃ notes, s.discard sink refusal =
      ⟨{ s with tree := emptied s.tree place bytes, store := s.store.strike path },
        { sink with stream := .file place encoding given bytes false, isClosed := true },
        .ok (), notes⟩ := by
  refine ⟨dropNote sink refusal, ?_⟩
  simp [discard, hopen, hkeeping, closeStream, hstream, Stream.flush, Stream.closed,
    FileTree.overwrite_of_empty bytes hfile, remove_written hp hfile bytes]

end Open

/-! Asking for files -/

theorem asked_ne_unknownCharset (encoding : String) (path : Path) (message : String) :
    (encodingFault? encoding <|> path.fault?) ≠ some (.unknownCharset message) := by
  rw [encodingFault?]
  split
  · simp
  · split
    · simp
    · simpa using path.fault?_ne_unknownCharset message

/-! Sites with the same files -/

/-- The record of artifacts is the same, and so are the files with their contents. -/
def KeepsFiles (before after : Site) : Prop :=
  after.store = before.store ∧ after.workingFolder = before.workingFolder ∧
    ∀ p bytes, after.tree.entry? p = some (.file bytes) ↔ before.tree.entry? p = some (.file bytes)

theorem KeepsFiles.refl (s : Site) : s.KeepsFiles s :=
  ⟨rfl, rfl, fun _ _ => Iff.rfl⟩

variable [Codecs]

/-! Opening -/

structure Prepares (tree made : FileTree) (encoding : String) (path : Path) : Prop where
  parent : path.parent.fault? = none
  folders : tree.makeFolders path.parent = (made, none)
  asked : (encodingFault? encoding <|> path.fault?) = none

/-- What opening a file comes to, with one case for each step that can be the last. -/
inductive Opens (tree : FileTree) (encoding qualifiedName : String) (path : Path) :
    FileTree → Except Stop Path → Prop where
  | parent {f : Fault} (bad : path.parent.fault? = some f) :
      Opens tree encoding qualifiedName path tree (.error (.fault f))
  | unmade {made : FileTree} {e : OsError} (parent : path.parent.fault? = none)
      (bad : tree.makeFolders path.parent = (made, some e)) :
      Opens tree encoding qualifiedName path made (.error (obstructed qualifiedName e))
  | unasked {made : FileTree} {f : Fault} (parent : path.parent.fault? = none)
      (folders : tree.makeFolders path.parent = (made, none))
      (bad : (encodingFault? encoding <|> path.fault?) = some f) :
      Opens tree encoding qualifiedName path made (.error (.fault f))
  | unopened {made : FileTree} {e : OsError} (ready : Prepares tree made encoding path)
      (bad : made.openNew path = .error e) :
      Opens tree encoding qualifiedName path made (.error (obstructed qualifiedName e))
  | unknownCharset {made u : FileTree} {message : String}
      (ready : Prepares tree made encoding path)
      (there : made.openNew path = .ok (path.settled, u))
      (bad : Codecs.find encoding = .error message) :
      Opens tree encoding qualifiedName path u (.error (.fault (.unknownCharset message)))
  | opened {made u : FileTree} {codec : Codec} (ready : Prepares tree made encoding path)
      (there : made.openNew path = .ok (path.settled, u))
      (known : Codecs.find encoding = .ok codec) :
      Opens tree encoding qualifiedName path u (.ok path.settled)

section Opening

variable {tree u : FileTree} {encoding qualifiedName : String} {path place : Path}

theorem opens_openFile (tree : FileTree) (encoding qualifiedName : String) (path : Path) :
    Opens tree encoding qualifiedName path (openFile tree encoding qualifiedName path).1
      (openFile tree encoding qualifiedName path).2 := by
  fun_cases openFile tree encoding qualifiedName path with
  | case1 f bad => exact .parent bad
  | case2 parent made e bad => exact .unmade parent bad
  | case3 parent made folders f bad => exact .unasked parent folders bad
  | case4 parent made folders asked e bad => exact .unopened ⟨parent, folders, asked⟩ bad
  | case5 parent made folders asked place u there codec known =>
    obtain ⟨rfl, there⟩ := openNew_settled there
    exact .opened ⟨parent, folders, asked⟩ there known
  | case6 parent made folders asked place u there message bad =>
    exact .unknownCharset ⟨parent, folders, asked⟩ (openNew_settled there).2 bad

theorem openFile_eq_iff {opened : Except Stop Path} :
    openFile tree encoding qualifiedName path = (u, opened) ↔
      Opens tree encoding qualifiedName path u opened := by
  constructor
  · intro h
    have hopens := opens_openFile tree encoding qualifiedName path
    rwa [h] at hopens
  · intro h
    cases h with
    | parent bad => simp only [openFile, bad]
    | unmade parent bad => simp only [openFile, parent, bad]
    | unasked parent folders bad => simp only [openFile, parent, folders, bad]
    | unopened ready bad => simp only [openFile, ready.parent, ready.folders, ready.asked, bad]
    | unknownCharset ready there bad =>
      simp only [openFile, ready.parent, ready.folders, ready.asked, there, bad]
    | opened ready there known =>
      simp only [openFile, ready.parent, ready.folders, ready.asked, there, known]

theorem openFile_of_openNew {made : FileTree} {codec : Codec} (qualifiedName : String)
    (ready : Prepares tree made encoding path) (hopen : made.openNew path = .ok (place, u))
    (hc : Codecs.find encoding = .ok codec) :
    openFile tree encoding qualifiedName path = (u, .ok place) := by
  obtain ⟨rfl, there⟩ := openNew_settled hopen
  exact openFile_eq_iff.2 (.opened ready there hc)

/-- A file that cannot be opened is not touched, unless its encoding is unknown. -/
theorem openFile_error {stop : Stop}
    (h : openFile tree encoding qualifiedName path = (u, .error stop)) :
    (tree.Grows u ∧
        (∀ f, stop = .failure f → ∃ e : OsError, f = .emission qualifiedName e.message) ∧
        ∀ message, stop ≠ .fault (.unknownCharset message)) ∨
      ∃ message, Codecs.find encoding = .error message ∧
        stop = .fault (.unknownCharset message) := by
  cases openFile_eq_iff.1 h with
  | parent bad =>
    refine .inl ⟨.refl _, nofun, fun message hstop => ?_⟩
    cases hstop
    exact Path.fault?_ne_unknownCharset _ _ bad
  | unmade _ bad =>
    exact .inl ⟨FileTree.grows_of_makeFolders bad, by rintro _ ⟨⟩; exact ⟨_, rfl⟩, nofun⟩
  | unasked _ folders bad =>
    refine .inl ⟨FileTree.grows_of_makeFolders folders, nofun, fun message hstop => ?_⟩
    cases hstop
    exact asked_ne_unknownCharset _ _ _ bad
  | unopened ready _ =>
    exact .inl ⟨FileTree.grows_of_makeFolders ready.folders, by rintro _ ⟨⟩; exact ⟨_, rfl⟩, nofun⟩
  | unknownCharset _ _ bad => exact .inr ⟨_, bad, rfl⟩

end Opening

theorem openFile_ok {tree u : FileTree} {encoding qualifiedName : String} {path place : Path}
    (h : openFile tree encoding qualifiedName path = (u, .ok place)) :
    place = path.settled ∧ Opened tree u path ∧ ∃ codec, Codecs.find encoding = .ok codec := by
  cases openFile_eq_iff.1 h with
  | opened ready there known => exact ⟨rfl, ⟨_, ready.folders, there⟩, _, known⟩

/-! Making sinks -/

def bufferSink (extension qualifiedName : String) : Sink where
  qualifiedName := qualifiedName
  location := "memory:///" ++ relativePath qualifiedName extension
  stream := .buffer "" true
  keeping := .recorded (relativePath qualifiedName extension)

def fileSink (root : Path) (extension encoding workingFolder qualifiedName : String)
    (place : Path) : Sink where
  qualifiedName := qualifiedName
  location := (filePath root qualifiedName extension).address workingFolder
  stream := .file place encoding [] [] true
  keeping := .onDisk (filePath root qualifiedName extension)

variable {tree u : FileTree} {extension encoding workingFolder qualifiedName text : String}
  {mishap : Mishap}

theorem create_memory (tree : FileTree) (extension workingFolder qualifiedName : String)
    (files : List Recorded) :
    (⟨tree, .memory extension files, workingFolder⟩ : Site).create qualifiedName =
      (⟨tree, .memory extension files, workingFolder⟩,
        if files.any (·.qualifiedName == qualifiedName) then .error (recreated qualifiedName)
        else .ok (bufferSink extension qualifiedName)) := by
  by_cases h : files.any (·.qualifiedName == qualifiedName)
  · simp [create, Store.contains, Store.files, h]
  · simp [create, Store.contains, Store.files, h, bufferSink]

section Folder

variable {root : Path} {created : List Path}

theorem create_of_enlisted (h : filePath root qualifiedName extension ∈ created) :
    (⟨tree, .folder root extension encoding created, workingFolder⟩ : Site).create qualifiedName =
      (⟨tree, .folder root extension encoding created, workingFolder⟩,
        .error (recreated qualifiedName)) := by
  simp [create, h]

theorem create_of_openFile_error {stop : Stop}
    (h : filePath root qualifiedName extension ∉ created)
    (ho : openFile tree encoding qualifiedName (filePath root qualifiedName extension) =
      (u, .error stop)) :
    (⟨tree, .folder root extension encoding created, workingFolder⟩ : Site).create qualifiedName =
      (⟨u, .folder root extension encoding created, workingFolder⟩, .error stop) := by
  simp [create, h, ho]

theorem create_of_openFile_ok (workingFolder : String) {place : Path}
    (h : filePath root qualifiedName extension ∉ created)
    (ho : openFile tree encoding qualifiedName (filePath root qualifiedName extension) =
      (u, .ok place)) :
    (⟨tree, .folder root extension encoding created, workingFolder⟩ : Site).create qualifiedName =
      (⟨u, .folder root extension encoding (created ++ [filePath root qualifiedName extension]),
          workingFolder⟩,
        .ok (fileSink root extension encoding workingFolder qualifiedName place)) := by
  simp [create, h, ho, Store.enlist, fileSink]

/-- Making a sink in a folder is refused, stops as the file is opened, or opens the file. -/
theorem create_folder_cases (tree : FileTree) (root : Path)
    (extension encoding workingFolder qualifiedName : String) (created : List Path) :
    let s : Site := ⟨tree, .folder root extension encoding created, workingFolder⟩
    let path := filePath root qualifiedName extension
    (path ∈ created ∧ s.create qualifiedName = (s, .error (recreated qualifiedName))) ∨
    (path ∉ created ∧ ∃ u stop, openFile tree encoding qualifiedName path = (u, .error stop) ∧
      s.create qualifiedName =
        (⟨u, .folder root extension encoding created, workingFolder⟩, .error stop)) ∨
    (path ∉ created ∧ ∃ u, openFile tree encoding qualifiedName path = (u, .ok path.settled) ∧
      s.create qualifiedName =
        (⟨u, .folder root extension encoding (created ++ [path]), workingFolder⟩,
          .ok (fileSink root extension encoding workingFolder qualifiedName path.settled))) := by
  intro s path
  by_cases h : path ∈ created
  · exact .inl ⟨h, create_of_enlisted h⟩
  · cases ho : openFile tree encoding qualifiedName path with
    | mk u opened =>
      cases opened with
      | error stop => exact .inr (.inl ⟨h, u, stop, rfl, create_of_openFile_error h ho⟩)
      | ok place =>
        have hplace : place = path.settled := (openFile_ok ho).1
        rw [hplace] at ho
        exact .inr (.inr ⟨h, u, by rw [hplace], create_of_openFile_ok workingFolder h ho⟩)

end Folder

/-! Emitting -/

theorem emitText_of_create_error {s t : Site} {stop : Stop}
    (h : s.create qualifiedName = (t, .error stop)) (text : String) (mishap : Mishap) :
    s.emitText qualifiedName text mishap = ⟨t, .error stop, []⟩ := by
  simp only [emitText, emitAgainst, h]

theorem emit_memory (tree : FileTree) (extension workingFolder qualifiedName text : String)
    (files : List Recorded) :
    (⟨tree, .memory extension files, workingFolder⟩ : Site).emitText qualifiedName text =
      if files.any (·.qualifiedName == qualifiedName) then
        ⟨⟨tree, .memory extension files, workingFolder⟩, .error (recreated qualifiedName), []⟩
      else
        ⟨⟨tree, .memory extension
            (files ++ [⟨relativePath qualifiedName extension, text, qualifiedName⟩]),
            workingFolder⟩,
          .ok ("memory:///" ++ relativePath qualifiedName extension), []⟩ := by
  by_cases h : files.any (·.qualifiedName == qualifiedName)
  · simp [emitText, emitAgainst, create_memory, h]
  · simp [emitText, emitAgainst, create_memory, h, bufferSink, Sink.writeAll, Sink.write,
      Stream.write, close, closeRecorded, closeStream, Store.record, Except.map]

/-- Nothing is recorded of an artifact in memory whose stream refuses its text, or to be closed. -/
theorem emit_memory_of_mishap (tree : FileTree)
    (extension workingFolder qualifiedName text : String) (files : List Recorded)
    (h : files.any (·.qualifiedName == qualifiedName) = false) (hmishap : mishap ≠ {}) :
    let s : Site := ⟨tree, .memory extension files, workingFolder⟩
    (s.emitText qualifiedName text mishap).site = s ∧ ∃ reason,
      (s.emitText qualifiedName text mishap).outcome =
        .error (.failure (.emission qualifiedName reason)) := by
  obtain ⟨write, close⟩ := mishap
  cases write with
  | some r =>
    refine ⟨?_, r.reason, ?_⟩ <;>
    simp [emitText, emitAgainst, create_memory, h, bufferSink, Sink.writeAll, Sink.write,
      Stream.write, discard, closeStream, Sink.failure]
  | none =>
    cases close with
    | none => exact absurd rfl hmishap
    | some reason =>
      refine ⟨?_, reason, ?_⟩ <;>
      simp [emitText, emitAgainst, create_memory, h, bufferSink, Sink.writeAll, Sink.write,
        Stream.write, Site.close, closeRecorded, closeStream, Sink.failure, Except.map]

section Folder

variable {root : Path} {created : List Path}

theorem emit_of_enlisted (h : filePath root qualifiedName extension ∈ created) (text : String)
    (mishap : Mishap) :
    (⟨tree, .folder root extension encoding created, workingFolder⟩ : Site).emitText qualifiedName
        text mishap =
      ⟨⟨tree, .folder root extension encoding created, workingFolder⟩,
        .error (recreated qualifiedName), []⟩ :=
  emitText_of_create_error (create_of_enlisted h) _ _

theorem emit_of_openFile_error {stop : Stop}
    (h : filePath root qualifiedName extension ∉ created)
    (ho : openFile tree encoding qualifiedName (filePath root qualifiedName extension) =
      (u, .error stop)) (text : String) (mishap : Mishap) :
    (⟨tree, .folder root extension encoding created, workingFolder⟩ : Site).emitText qualifiedName
        text mishap =
      ⟨⟨u, .folder root extension encoding created, workingFolder⟩, .error stop, []⟩ :=
  emitText_of_create_error (create_of_openFile_error h ho) _ _

theorem emit_of_openFile_ok {place : Path} {bytes : Bytes}
    (h : filePath root qualifiedName extension ∉ created)
    (ho : openFile tree encoding qualifiedName (filePath root qualifiedName extension) =
      (u, .ok place))
    (hb : Codecs.feed encoding [] text.toList = .ok bytes) :
    (⟨tree, .folder root extension encoding created, workingFolder⟩ : Site).emitText qualifiedName
        text =
      ⟨⟨u.overwrite place bytes,
          .folder root extension encoding (created ++ [filePath root qualifiedName extension]),
          workingFolder⟩,
        .ok ((filePath root qualifiedName extension).address workingFolder), []⟩ := by
  simp [emitText, emitAgainst, create_of_openFile_ok workingFolder h ho, fileSink, Sink.writeAll,
    Sink.write, Stream.write, Stream.taken, hb, close, closePlain, closeStream, Stream.flush,
    Stream.closeFault?, Except.map]

theorem emit_of_unencodable {place : Path} {f : Fault}
    (h : filePath root qualifiedName extension ∉ created)
    (ho : openFile tree encoding qualifiedName (filePath root qualifiedName extension) =
      (u, .ok place))
    (hb : Codecs.feed encoding [] text.toList = .error f) (mishap : Mishap) :
    ((⟨tree, .folder root extension encoding created, workingFolder⟩ : Site).emitText qualifiedName
        text mishap).outcome = .error (.fault f) := by
  simp [emitText, emitAgainst, create_of_openFile_ok workingFolder h ho, fileSink, Sink.writeAll,
    Sink.write, Stream.write, Stream.taken, hb]

theorem emit_of_mishap (workingFolder : String) {place : Path} {bytes : Bytes}
    (h : filePath root qualifiedName extension ∉ created)
    (ho : openFile tree encoding qualifiedName (filePath root qualifiedName extension) =
      (u, .ok place))
    (hb : Codecs.feed encoding [] text.toList = .ok bytes) (hmishap : mishap ≠ {}) :
    ∃ reason, ((⟨tree, .folder root extension encoding created, workingFolder⟩ : Site).emitText
      qualifiedName text mishap).outcome = .error (.failure (.emission qualifiedName reason)) := by
  obtain ⟨write, close⟩ := mishap
  cases write with
  | some r =>
    refine ⟨r.reason, ?_⟩
    simp [emitText, emitAgainst, create_of_openFile_ok workingFolder h ho, fileSink, Sink.writeAll,
      Sink.write, Stream.write, Stream.taken, hb, Sink.failure]
  | none =>
    cases close with
    | none => exact absurd rfl hmishap
    | some reason =>
      refine ⟨reason, ?_⟩
      simp [emitText, emitAgainst, create_of_openFile_ok workingFolder h ho, fileSink,
        Sink.writeAll, Sink.write, Stream.write, Stream.taken, hb, Site.close, closePlain, closeStream,
        Stream.closeFault?, Sink.failure, Except.map]

/-- An emission into a folder is refused, stops as its file is opened, adds a file, or has a
text that the encoder refuses. -/
theorem emit_folder_cases (tree : FileTree) (root : Path)
    (extension encoding workingFolder qualifiedName text : String) (created : List Path) :
    let s : Site := ⟨tree, .folder root extension encoding created, workingFolder⟩
    let path := filePath root qualifiedName extension
    (path ∈ created ∧ s.emitText qualifiedName text =
      ⟨s, .error (recreated qualifiedName), []⟩) ∨
    (path ∉ created ∧ ∃ u stop, openFile tree encoding qualifiedName path = (u, .error stop) ∧
      s.emitText qualifiedName text =
        ⟨⟨u, .folder root extension encoding created, workingFolder⟩, .error stop, []⟩) ∨
    (path ∉ created ∧ ∃ u bytes,
      openFile tree encoding qualifiedName path = (u, .ok path.settled) ∧
      Codecs.feed encoding [] text.toList = .ok bytes ∧ s.emitText qualifiedName text =
        ⟨⟨u.overwrite path.settled bytes, .folder root extension encoding (created ++ [path]),
          workingFolder⟩, .ok (path.address workingFolder), []⟩) ∨
    (path ∉ created ∧ ∃ u f,
      openFile tree encoding qualifiedName path = (u, .ok path.settled) ∧
      Codecs.feed encoding [] text.toList = .error f ∧
      (s.emitText qualifiedName text).outcome = .error (.fault f)) := by
  intro s path
  rcases create_folder_cases tree root extension encoding workingFolder qualifiedName created with
    ⟨h, _⟩ | ⟨h, u, stop, ho, _⟩ | ⟨h, u, ho, _⟩
  · exact .inl ⟨h, emit_of_enlisted h _ _⟩
  · exact .inr (.inl ⟨h, u, stop, ho, emit_of_openFile_error h ho _ _⟩)
  · cases hb : Codecs.feed encoding [] text.toList with
    | ok bytes => exact .inr (.inr (.inl ⟨h, u, bytes, ho, rfl, emit_of_openFile_ok h ho hb⟩))
    | error f => exact .inr (.inr (.inr ⟨h, u, f, ho, rfl, emit_of_unencodable h ho hb _⟩))

end Folder

/-! The site after an emission -/

/-- There is one more artifact, with a text and a location of its own. -/
def Gains (before : Site) (qualifiedName text location : String) (after : Site) : Prop :=
  match before.store with
  | .memory extension files =>
    (∀ file ∈ files, file.qualifiedName ≠ qualifiedName) ∧
      location = "memory:///" ++ relativePath qualifiedName extension ∧
      after.store = .memory extension
        (files ++ [⟨relativePath qualifiedName extension, text, qualifiedName⟩]) ∧
      after.tree = before.tree
  | .folder root extension encoding created =>
    let path := filePath root qualifiedName extension
    path ∉ created ∧ location = path.address before.workingFolder ∧
      after.store = .folder root extension encoding (created ++ [path]) ∧
      ∃ bytes place, Codecs.feed encoding [] text.toList = .ok bytes ∧
        after.tree.place path = .ok place ∧ after.tree.read path = .ok bytes ∧
        ∀ p, p ≠ place → ∀ bytes, after.tree.entry? p = some (.file bytes) ↔
          before.tree.entry? p = some (.file bytes)

theorem gains_of_openFile {root : Path} {created : List Path} {bytes : Bytes}
    (h : filePath root qualifiedName extension ∉ created)
    (ho : openFile tree encoding qualifiedName (filePath root qualifiedName extension) =
      (u, .ok (filePath root qualifiedName extension).settled))
    (hb : Codecs.feed encoding [] text.toList = .ok bytes) :
    (⟨tree, .folder root extension encoding created, workingFolder⟩ : Site).Gains qualifiedName
      text ((filePath root qualifiedName extension).address workingFolder)
      ⟨u.overwrite (filePath root qualifiedName extension).settled bytes,
        .folder root extension encoding (created ++ [filePath root qualifiedName extension]),
        workingFolder⟩ := by
  obtain ⟨_, hopened, _⟩ := openFile_ok ho
  have htouches := hopened.touches.trans (FileTree.touches_put_file bytes hopened.ne_folder)
  have hfound := FileTree.place_of_keepsFolders
    (FileTree.keepsFolders_put_file bytes hopened.ne_folder) hopened.place
  have hfile := u.entry?_put_self (.file bytes) (FileTree.onlyUp_of_entry?_ne hopened.ne_folder)
  rw [FileTree.overwrite_of_empty bytes hopened.empty]
  exact ⟨h, rfl, rfl, bytes, _, hb, hfound,
    FileTree.read_eq_ok_iff.2 ⟨_, hfound, hfile⟩, htouches.2⟩

end BeanForge.Site

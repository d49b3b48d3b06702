import BeanForge.Artifact.Sink
import BeanForge.Log.Record

/-!
# Stores of artifacts

A store makes one sink for each generated type and keeps the artifacts whose
sinks are closed well. In memory they are recorded in the order of closing; on
disk each has a file below a root, and the file of an artifact that fails is
taken away again.
-/

namespace BeanForge

structure Recorded where
  path : String
  content : String
  qualifiedName : String
  deriving Repr, DecidableEq

inductive Store where
  | memory (extension : String) (files : List Recorded)
  | folder (root : Path) (extension encoding : String) (created : List Path)
  deriving Repr, DecidableEq

/-- The path of a type's artifact below a root. -/
def relativePath (qualifiedName extension : String) : String :=
  String.ofList (qualifiedName.toList.map fun c => if c = '.' then '/' else c) ++ extension

namespace Store

def files : Store → List Recorded
  | memory _ files => files
  | folder _ _ _ _ => []

def created : Store → List Path
  | memory _ _ => []
  | folder _ _ _ created => created

/-- The first artifact recorded for a type. -/
def get? (s : Store) (qualifiedName : String) : Option Recorded :=
  s.files.find? (·.qualifiedName == qualifiedName)

def contains (s : Store) (qualifiedName : String) : Bool :=
  s.files.any (·.qualifiedName == qualifiedName)

def record (artifact : Recorded) : Store → Store
  | memory extension files => memory extension (files ++ [artifact])
  | store => store

def enlist (path : Path) : Store → Store
  | folder root extension encoding created => folder root extension encoding (created ++ [path])
  | store => store

def strike (path : Path) : Store → Store
  | folder root extension encoding created => folder root extension encoding (created.erase path)
  | store => store

end Store

/-- What the system refuses of a stream that takes one text: the text, or to be closed. -/
structure Mishap where
  write : Option Stream.Refusal := none
  close : Option String := none
  deriving Repr, DecidableEq

/-- A store and the files around it. -/
structure Site where
  tree : FileTree := {}
  store : Store
  /-- The address of the working folder; nothing means the root of all folders. -/
  workingFolder : String := ""

namespace Site

/-! Making sinks -/

def recreated (qualifiedName : String) : Stop :=
  .failure (.emission qualifiedName "attempt to recreate a file")

def obstructed (qualifiedName : String) (e : OsError) : Stop :=
  .failure (.emission qualifiedName e.message)

/-- The path of a type's file. -/
def filePath (root : Path) (qualifiedName extension : String) : Path :=
  root.join (Path.ofString (relativePath qualifiedName extension))

/-- Why an encoding cannot be asked for, whether it is known or not. -/
def encodingFault? (encoding : String) : Option Fault :=
  match Text.Charset.utf8.encode encoding.toList with
  | .error u => some (.unencodable u)
  | .ok _ => if encoding.toList.contains (Char.ofNat 0) then some .nulInName else none

/-- The files with a new one and its place. The encoding is looked up when the file is open. -/
def openFile [Codecs] (tree : FileTree) (encoding qualifiedName : String) (path : Path) :
    FileTree × Except Stop Path :=
  match path.parent.fault? with
  | some f => (tree, .error (.fault f))
  | none =>
    match tree.makeFolders path.parent with
    | (tree, some e) => (tree, .error (obstructed qualifiedName e))
    | (tree, none) =>
      match encodingFault? encoding <|> path.fault? with
      | some f => (tree, .error (.fault f))
      | none =>
        match tree.openNew path with
        | .error e => (tree, .error (obstructed qualifiedName e))
        | .ok (place, tree) =>
          match Codecs.find encoding with
          | .ok _ => (tree, .ok place)
          | .error message => (tree, .error (.fault (.unknownCharset message)))

def create [Codecs] (s : Site) (qualifiedName : String) : Site × Except Stop Sink :=
  match s.store with
  | .memory extension _ =>
    if s.store.contains qualifiedName then (s, .error (recreated qualifiedName))
    else
      let path := relativePath qualifiedName extension
      (s, .ok ⟨qualifiedName, "memory:///" ++ path, .buffer "" true, .recorded path, false⟩)
  | .folder root extension encoding created =>
    let path := filePath root qualifiedName extension
    if created.contains path then (s, .error (recreated qualifiedName))
    else match openFile s.tree encoding qualifiedName path with
      | (tree, .error e) => ({ s with tree }, .error e)
      | (tree, .ok place) =>
        ({ s with tree, store := s.store.enlist path },
          .ok ⟨qualifiedName, path.address s.workingFolder, .file place encoding [] [] true,
            .onDisk path, false⟩)

/-! Closing sinks

Where a stream is closed, the system may refuse that.
-/

/-- What closing a sink leads to. -/
structure Closing where
  site : Site
  sink : Sink
  outcome : Except Stop Unit := .ok ()
  notes : List Log.Record := []

def note (level : Log.Level) (message : String) : Log.Record :=
  { level, logger := "entitygen.codegen.filer", message }

/-- Take the file of a failed artifact away; a file that cannot be removed is told. -/
def remove (s : Site) (path : Path) : Site × List Log.Record :=
  let store := s.store.strike path
  match s.tree.unlink path with
  | .ok tree => ({ s with tree, store }, [])
  | .error e =>
    ({ s with store },
      [note .warning ("Cannot remove partial source " ++ path.text ++ ": " ++ e.message)])

/-- Close the stream of a sink. -/
def closeStream (s : Site) (sink : Sink) : Site × Sink :=
  ({ s with tree := sink.stream.flush s.tree },
    { sink with stream := sink.stream.closed, isClosed := true })

/-- Close a sink that is open and keeps no record in memory. -/
def closePlain (s : Site) (sink : Sink) (refusal : Option String) : Closing :=
  let (site, closed) := s.closeStream sink
  match sink.stream.closeFault? refusal with
  | none => ⟨site, closed, .ok (), []⟩
  | some reason =>
    match sink.keeping with
    | .onDisk path =>
      let (site, notes) := site.remove path
      ⟨site, closed, .error (sink.failure reason), notes⟩
    | _ => ⟨site, closed, .error (sink.failure reason), []⟩

/-- Close a sink and record its artifact; a buffer closed before its sink holds nothing. -/
def closeRecorded (s : Site) (sink : Sink) (path : String) (refusal : Option String) : Closing :=
  match sink.stream with
  | .buffer text true =>
    let (site, closed) := s.closeStream sink
    match refusal with
    | none =>
      ⟨{ site with store := site.store.record ⟨path, text, sink.qualifiedName⟩ }, closed, .ok (), []⟩
    | some reason => ⟨site, closed, .error (sink.failure reason), []⟩
  | _ => ⟨s, sink, .error (.fault (.closedStream true)), []⟩

/-- Close a sink and keep its artifact; a closed sink stays as it is. -/
def close (s : Site) (sink : Sink) (refusal : Option String := none) : Closing :=
  if sink.isClosed then ⟨s, sink, .ok (), []⟩
  else match sink.keeping with
    | .recorded path => s.closeRecorded sink path refusal
    | _ => s.closePlain sink refusal

/-- The note about a stream that could not be closed well while its artifact is dropped. -/
def dropNote (sink : Sink) (refusal : Option String) : List Log.Record :=
  match sink.stream.closeFault? refusal with
  | none => []
  | some reason =>
    [note .debug ("Closing discarded " ++ sink.qualifiedName ++ " failed: " ++ reason)]

/-- Close a sink without keeping its artifact; a closed sink stays as it is. -/
def discard (s : Site) (sink : Sink) (refusal : Option String := none) : Closing :=
  if sink.isClosed then ⟨s, sink, .ok (), []⟩
  else
    let (site, closed) := s.closeStream sink
    match sink.keeping with
    | .onDisk path =>
      let (site, notes) := site.remove path
      ⟨site, closed, .ok (), dropNote sink refusal ++ notes⟩
    | _ => ⟨site, closed, .ok (), dropNote sink refusal⟩

/-- Close the stream beneath a sink and put another one in its place. -/
def replaceStream (s : Site) (sink : Sink) (stream : Stream) : Site × Sink :=
  ({ s with tree := sink.stream.flush s.tree }, { sink with stream })

/-! Emitting artifacts -/

/-- What emitting an artifact leads to: its location, or why it is not kept. -/
structure Emission where
  site : Site
  outcome : Except Stop String
  notes : List Log.Record := []

/-- Write the texts of an artifact in a block. The artifact is dropped if a text cannot be written,
or if the block ends with a fault of its own. The stream may refuse texts, and to be closed. -/
def emitAgainst [Codecs] (s : Site) (qualifiedName : String)
    (texts : List (String × Option Stream.Refusal)) (ownFault : Option Fault)
    (refusal : Option String) : Emission :=
  match s.create qualifiedName with
  | (s, .error e) => ⟨s, .error e, []⟩
  | (s, .ok sink) =>
    let (sink, written) := sink.writeAll texts
    match written, ownFault with
    | .error e, _ =>
      let dropped := s.discard sink refusal
      ⟨dropped.site, .error e, dropped.notes⟩
    | .ok _, some f =>
      let dropped := s.discard sink refusal
      ⟨dropped.site, .error (.fault f), dropped.notes⟩
    | .ok _, none =>
      let kept := s.close sink refusal
      ⟨kept.site, kept.outcome.map fun _ => sink.location, kept.notes⟩

/-- Write the texts of an artifact in a block, with a stream that takes them. -/
def emit [Codecs] (s : Site) (qualifiedName : String) (texts : List String)
    (ownFault : Option Fault) : Emission :=
  s.emitAgainst qualifiedName (texts.map fun text => (text, none)) ownFault none

/-- Write an artifact that is one text. -/
def emitText [Codecs] (s : Site) (qualifiedName text : String) (mishap : Mishap := {}) :
    Emission :=
  s.emitAgainst qualifiedName [(text, mishap.write)] none mishap.close

@[simp] theorem close_of_isClosed (s : Site) (sink : Sink) (h : sink.isClosed = true)
    (refusal : Option String) : s.close sink refusal = ⟨s, sink, .ok (), []⟩ := by
  simp [close, h]

@[simp] theorem discard_of_isClosed (s : Site) (sink : Sink) (h : sink.isClosed = true)
    (refusal : Option String) : s.discard sink refusal = ⟨s, sink, .ok (), []⟩ := by
  simp [discard, h]

end Site

end BeanForge

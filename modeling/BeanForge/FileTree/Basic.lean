import BeanForge.Fault
import BeanForge.Keyed

/-!
# File trees

Files with their bytes and folders, by place. A path leads to a place step by
step, and reading and writing fail as a file system does: with the first obstacle
on the way. A path may hold no more than 4095 bytes and a name no more than 255.
A path with a character that is in no name of a file cannot even be asked for.
-/

namespace BeanForge

open Text

inductive Entry where
  | file (bytes : Bytes)
  | folder
  deriving Repr, DecidableEq

structure FileTree where
  entries : List (Path × Entry) := []
  deriving Repr

/-- Why a path cannot be asked for. -/
def Path.fault? (p : Path) : Option Fault :=
  Fault.ofPath? p.text

namespace FileTree

/-- What is at a place; the starting points and what is around them are folders. -/
def entry? (t : FileTree) (p : Path) : Option Entry :=
  if p.onlyUp then some .folder else Keyed.get? p t.entries

def put (t : FileTree) (p : Path) (e : Entry) : FileTree :=
  ⟨Keyed.put p e t.entries⟩

def remove (t : FileTree) (p : Path) : FileTree :=
  ⟨t.entries.filter (·.1 != p)⟩

def byteCount (s : String) : Nat :=
  (fileBytes s.toList).length

/-- The place that names lead to from a folder. All on the way must be folders, but nothing has
to be at the place itself. -/
def follow (t : FileTree) (folder : Path) : List String → Except OsError.Kind Path
  | [] => .ok folder
  | name :: rest =>
    if name = Path.upName then t.follow folder.outer rest
    else if 255 < byteCount name then .error .nameTooLong
    else
      let next := folder.enter name
      if rest.isEmpty then .ok next
      else match t.entry? next with
        | none => .error .notFound
        | some (.file _) => .error .notFolder
        | some .folder => t.follow next rest

/-- The place that a path leads to. -/
def place (t : FileTree) (p : Path) : Except OsError Path :=
  if 4096 ≤ byteCount p.text then .error ⟨.nameTooLong, p⟩
  else (t.follow ⟨p.anchor, []⟩ p.names).mapError (⟨·, p⟩)

/-- What a path leads to, or why the way is barred. -/
def walk (t : FileTree) (p : Path) : Except OsError (Option Entry) :=
  (t.place p).map t.entry?

def isFolder (t : FileTree) (p : Path) : Bool :=
  match t.walk p with
  | .ok (some .folder) => true
  | _ => false

/-- Whether a path leads to a folder. Only a path that is too long is an error. -/
def checkFolder (t : FileTree) (p : Path) : Except OsError Bool :=
  if p.fault?.isSome then .ok false
  else match t.walk p with
    | .error e => if e.kind = .nameTooLong then .error e else .ok false
    | .ok entry => .ok (entry == some .folder)

/-- Remove whatever a path leads to, with all below it. -/
def removeAll (t : FileTree) (p : Path) : FileTree :=
  match t.place p with
  | .error _ => t
  | .ok q => ⟨t.entries.filter fun e => e.1 != q && !e.1.isBelow q⟩

/-- Whether a text names a path as that of a folder. -/
def meansFolder (raw : String) : Bool :=
  match raw.toList.reverse with
  | '/' :: _ => true
  | '.' :: '/' :: _ => true
  | _ => false

/-- What a text names as a path, if there is something. -/
def named? (t : FileTree) (raw : String) : Option Entry :=
  if raw = "" then none
  else match t.walk (Path.ofString raw) with
    | .ok (some (.file bytes)) => if meansFolder raw then none else some (.file bytes)
    | .ok entry => entry
    | .error _ => none

def read (t : FileTree) (p : Path) : Except OsError Bytes :=
  match t.walk p with
  | .error e => .error e
  | .ok none => .error ⟨.notFound, p⟩
  | .ok (some .folder) => .error ⟨.isFolder, p⟩
  | .ok (some (.file bytes)) => .ok bytes

/-- An empty file, new or emptied: its place and the tree with it. -/
def openNew (t : FileTree) (p : Path) : Except OsError (Path × FileTree) := do
  let q ← t.place p
  if t.entry? q = some .folder then throw ⟨.isFolder, p⟩
  pure (q, t.put q (.file []))

def makeFolder (t : FileTree) (p : Path) : Except OsError FileTree := do
  let q ← t.place p
  if (t.entry? q).isSome then throw ⟨.occupied, p⟩
  pure (t.put q .folder)

/-- Make a folder and those around it. The names come innermost first; folders made before
an obstacle stay. -/
def makeFoldersAt (t : FileTree) (anchor : Anchor) :
    List String → FileTree × Option OsError
  | [] => (t, none)
  | name :: outer =>
    let p : Path := ⟨anchor, (name :: outer).reverse⟩
    match t.makeFolder p with
    | .ok made => (made, none)
    | .error e =>
      if e.kind = .notFound then
        match t.makeFoldersAt anchor outer with
        | (made, some e) => (made, some e)
        | (made, none) =>
          match made.makeFolder p with
          | .ok all => (all, none)
          | .error e => (made, if made.isFolder p then none else some e)
      else (t, if t.isFolder p then none else some e)

def makeFolders (t : FileTree) (p : Path) : FileTree × Option OsError :=
  t.makeFoldersAt p.anchor p.names.reverse

/-- Take a file away, if there is one. -/
def unlink (t : FileTree) (p : Path) : Except OsError FileTree :=
  match t.place p with
  | .error e => if e.kind = .notFound then .ok t else .error e
  | .ok q =>
    match t.entry? q with
    | none => .ok t
    | some .folder => .error ⟨.isFolder, p⟩
    | some (.file _) => .ok (t.remove q)

/-- The bytes come over the first ones of a file that is still there. -/
def overwrite (t : FileTree) (place : Path) (bytes : Bytes) : FileTree :=
  match t.entry? place with
  | some (.file old) => t.put place (.file (bytes ++ old.drop bytes.length))
  | _ => t

/-- A path below a root, for a place that is below the place of the root. -/
def rebased (root place p : Path) : Path :=
  { root with names := root.names ++ p.names.drop place.names.length }

/-- Everything below a folder under paths that begin as its own does. -/
def entriesBelow (t : FileTree) (root : Path) : List (Path × Entry) :=
  match t.place root with
  | .error _ => []
  | .ok q =>
    (t.entries.filter (·.1.isBelow q)).map fun (p, e) => (rebased root q p, e)

/-- Everything below a folder, in order of the paths. -/
def below (t : FileTree) (root : Path) : List (Path × Entry) :=
  (t.entriesBelow root).mergeSort fun a b => a.1.le b.1

/-- The files below a folder, in order of the texts of their paths. -/
def filesBelow (t : FileTree) (root : Path) : List (Path × Bytes) :=
  let files := (t.entriesBelow root).filterMap fun (p, e) =>
    match e with
    | .file bytes => some (p, bytes)
    | .folder => none
  files.mergeSort fun a b => a.1.text ≤ b.1.text

/-- A file with the folders around it. -/
def plant (t : FileTree) (p : Path) (bytes : Bytes) : FileTree :=
  let t := (t.makeFolders p.parent).1
  match t.place p with
  | .ok q => t.put q (.file bytes)
  | .error _ => t

end FileTree

end BeanForge

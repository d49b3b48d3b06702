import BeanForge.Diagnostic.Collector
import BeanForge.FileTree.Basic
import BeanForge.Skipped

/-!
# Discovery in files

Sources are given as files and as folders to be searched. A file that cannot be
read or holds no source is told as an error about its path, and the other files
are not affected.
-/

namespace BeanForge.Discovery

/-- What is found: interfaces, what is told meanwhile, and the fault that ended the search. -/
structure Finding where
  interfaces : List Interface := []
  events : List Event := []
  fault? : Option Fault := none

namespace Finding

def append (f g : Finding) : Finding where
  interfaces := f.interfaces ++ g.interfaces
  events := f.events ++ g.events
  fault? := f.fault? <|> g.fault?

def complaint (p : Path) (message : String) : Finding where
  events := [.told ⟨.error, message, some p.text⟩]

end Finding

def inText (marker text : String) (p : Path) : Finding :=
  match read text (some p.text) with
  | .error (.failure f) => .complaint p f.message
  | .error (.fault f) => { fault? := some f }
  | .ok u =>
    { interfaces := interfaces marker (some p.text) u
      events := (Skipped.ofUnit marker u).map .logged }

def unreadable (p : Path) (reason : String) : Finding :=
  .complaint p ("Cannot read source: " ++ reason)

def inFile (marker : String) (tree : FileTree) (p : Path) : Finding :=
  match p.fault? with
  | some f => { fault? := some f }
  | none =>
    match tree.read p with
    | .error e => unreadable p e.message
    | .ok bytes =>
      match Text.Utf8.decode bytes with
      | .error u => unreadable p u.message
      | .ok cs => inText marker (String.ofList (Text.unifyNewlines cs)) p

def isSourceFile (p : Path) : Bool :=
  match p.names.getLast? with
  | some name => ".java".toList.isSuffixOf name.toList
  | none => false

/-- The files that a path stands for; a folder stands for all sources below it, in order. -/
def selected (tree : FileTree) (p : Path) : Except Fault (List Path) := do
  if ← (tree.checkFolder p).mapError .system then
    pure (((tree.below p).map (·.1)).filter isSourceFile)
  else pure [p]

/-- Search one path after the other up to the first fault. -/
def untilFault (search : Path → Finding) : List Path → Finding
  | [] => {}
  | p :: rest =>
    let found := search p
    if found.fault?.isSome then found else found.append (untilFault search rest)

/-- The files of all paths are known before the first of them is read. -/
def inPaths (marker : String) (tree : FileTree) (paths : List Path) : Finding :=
  match paths.mapM (selected tree) with
  | .error f => { fault? := some f }
  | .ok files => untilFault (inFile marker tree) files.flatten

end BeanForge.Discovery

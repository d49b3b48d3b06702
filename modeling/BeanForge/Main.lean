import BeanForge.CommandLine.Run

/-!
# The program

The files that a command line speaks of are read, the command line is carried
out, and the files that changed are written.
-/

namespace BeanForge.Program

/-- How deep folders are searched. -/
def depthBound : Nat := 64

/-- Add what is found at a path, with all that is below it. -/
def gather : Nat → FileTree → Path → IO FileTree
  | 0, tree, _ => pure tree
  | depth + 1, tree, p => do
    let place := (← IO.currentDir) / p.text
    if ← place.isDir then
      let mut tree := (tree.makeFolders p).1
      for entry in ← place.readDir do
        tree ← gather depth tree (p.child entry.fileName)
      return tree
    else if ← place.pathExists then
      return tree.plant p (← IO.FS.readBinFile place).toList
    else
      return tree

def gatherAll (tree : FileTree) (paths : List Path) : IO FileTree :=
  paths.foldlM (gather depthBound) tree

/-- The paths that a word may speak of, alone or as the value of an option. -/
def pathsIn (word : String) : List Path :=
  let value := (CommandLine.Switch.splitValue word.toList).2.toList
  let attached := String.ofList (word.toList.drop 2)
  ((word :: attached :: value).filter (· != "")).map Path.ofString

def environment : IO (List (String × String)) :=
  (Settings.Key.all.filterMap (·.environmentName?)).filterMapM fun name => do
    return (← IO.getEnv name).map fun value => (name, value)

/-- The present moment, which is told by a fresh file. -/
def now : IO Log.Moment := do
  let (_, place) ← IO.FS.createTempFile
  let time := (← place.metadata).modified
  IO.FS.removeFile place
  return .ofSeconds time.sec.toNat (time.nsec.toNat / 1000)

/-- The template folders that the settings of a command line name. -/
def templateFolders (s : CommandLine.Surroundings) (words : List String) : List Path :=
  match CommandLine.Invocation.read s.tree words with
  | .error _ => []
  | .ok i =>
    match i.settings s with
    | .error _ => []
    | .ok settings => settings.templatePath.map Path.ofString

def surroundings (words : List String) : IO CommandLine.Surroundings := do
  let tree ← gatherAll {} (words.flatMap pathsIn)
  let s : CommandLine.Surroundings :=
    { tree
      workingFolder := Path.escaped (← IO.currentDir).toString
      environment := ← environment
      moment := ← now }
  return { s with tree := ← gatherAll tree (templateFolders s words) }

/-- Bring the files from one state to another. -/
def store (old new : FileTree) : IO Unit := do
  let here ← IO.currentDir
  for (p, entry) in new.entries do
    if old.entry? p != some entry then
      match entry with
      | .folder => IO.FS.createDirAll (here / p.text)
      | .file bytes => IO.FS.writeBinFile (here / p.text) bytes.toByteArray
  for (p, _) in old.entries do
    if (new.entry? p).isNone then IO.FS.removeFile (here / p.text)

end BeanForge.Program

def main (words : List String) : IO UInt32 := do
  let s ← BeanForge.Program.surroundings words
  let report := BeanForge.CommandLine.run s words
  BeanForge.Program.store s.tree report.tree
  (← IO.getStdout).putStr report.output
  (← IO.getStderr).putStr report.messages
  match report.fault? with
  | some f => (← IO.getStderr).putStrLn f.message
  | none => pure ()
  return UInt32.ofNat report.status

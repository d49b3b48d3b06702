import BeanForge.FileTree.Basic
import BeanForge.Settings.Basic

/-!
# Settings files

A settings file is a properties text in UTF-8. Its entries are laid over the
settings that are known already.
-/

namespace BeanForge.Settings

def unreadableFile (e : OsError) (p : Path) : Failure :=
  .configuration ("Cannot read settings file " ++ p.text ++ ": " ++ e.message) none

def overlayFile (s : Settings) (tree : FileTree) (p : Path) : Except Stop Settings :=
  match p.fault? with
  | some f => .error (.fault f)
  | none =>
    match tree.read p with
    | .error e => .error (.failure (unreadableFile e p))
    | .ok bytes =>
      match Text.Utf8.decode bytes with
      | .error u => .error (.fault (.undecodable u))
      | .ok cs => s.overlayProperties (String.ofList cs)

end BeanForge.Settings

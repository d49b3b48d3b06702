import BeanForge.FileTree.Path
import BeanForge.Text.Quoted

/-!
# File system errors

The ways in which a file or folder cannot be reached, with the path concerned.
-/

namespace BeanForge

inductive OsError.Kind where
  | notFound
  | occupied
  | notFolder
  | isFolder
  | nameTooLong
  deriving Repr, DecidableEq

namespace OsError.Kind

def number : Kind → Nat
  | notFound => 2
  | occupied => 17
  | notFolder => 20
  | isFolder => 21
  | nameTooLong => 36

/-- The name of the kind among faults. -/
def category : Kind → String
  | notFound => "FileNotFoundError"
  | occupied => "FileExistsError"
  | notFolder => "NotADirectoryError"
  | isFolder => "IsADirectoryError"
  | nameTooLong => "OSError"

def text : Kind → String
  | notFound => "No such file or directory"
  | occupied => "File exists"
  | notFolder => "Not a directory"
  | isFolder => "Is a directory"
  | nameTooLong => "File name too long"

end OsError.Kind

structure OsError where
  kind : OsError.Kind
  path : Path
  deriving Repr, DecidableEq

def OsError.message (e : OsError) : String :=
  "[Errno " ++ toString e.kind.number ++ "] " ++ e.kind.text ++ ": " ++ Text.quoted e.path.text

end BeanForge

import BeanForge.FileTree.Path
import BeanForge.Json.Display
import BeanForge.Keyed

/-!
# Values of log records

A field of a record holds a JSON value or a path; a path is no JSON value and
counts as its text where one is wanted.
-/

namespace BeanForge.Log

inductive Value where
  | json (value : Json)
  | path (p : Path)
  deriving Repr

namespace Value

def shown : Value → String
  | json value => value.shown
  | path p => p.text

/-- The form in which texts stand between quotes. -/
def shownInside : Value → String
  | json value => String.ofList value.shownInside
  | path p => "PosixPath(" ++ Text.quoted p.text ++ ")"

def toJson : Value → Json
  | json value => value
  | path p => .string p.text

def isNull : Value → Bool
  | json .null => true
  | _ => false

/-- Whether a condition on the value holds. -/
def holds : Value → Bool
  | json value => value.holds
  | path _ => true

/-- The name of a value's kind in messages about the wrong kind. -/
def kindName : Value → String
  | json value => value.kindName
  | path _ => "PosixPath"

def isComposite : Value → Bool
  | json value => value.isComposite
  | path _ => false

def ofString (s : String) : Value :=
  .json (.string s)

end Value

abbrev Fields := List (String × Value)

end BeanForge.Log

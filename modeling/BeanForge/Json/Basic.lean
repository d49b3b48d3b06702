import BeanForge.Number

/-!
# JSON values

Values as settings, log fields and requests hold them. A number is whole or one
of sixty-four bits; members of an object keep their order.
-/

namespace BeanForge

inductive Json where
  | null
  | bool (value : Bool)
  | integer (value : Int)
  | real (x : Binary64)
  | string (value : String)
  | array (items : List Json)
  | object (members : List (String × Json))
  deriving Repr, Inhabited

namespace Json

def ofOption : Option String → Json
  | none => null
  | some s => string s

def strings (items : List String) : Json :=
  array (items.map string)

/-- Of two members with one name the later one counts. -/
def member? : Json → String → Option Json
  | object members, name => (members.reverse.find? (·.1 == name)).map (·.2)
  | _, _ => none

def string? : Json → Option String
  | string s => some s
  | _ => none

/-- The items of a value that has some: characters of a text, or names of members. -/
def items? : Json → Option (List Json)
  | string s => some (s.toList.map fun c => string (String.singleton c))
  | array items => some items
  | object members => some (members.map fun m => string m.1)
  | _ => none

def isComposite : Json → Bool
  | array _ | object _ => true
  | _ => false

/-- Whether a condition on the value holds: empty and zero values do not count. -/
def holds : Json → Bool
  | null => false
  | bool b => b
  | integer n => n != 0
  | real x => !x.isZero
  | string s => s != ""
  | array items => !items.isEmpty
  | object members => !members.isEmpty

end Json

end BeanForge

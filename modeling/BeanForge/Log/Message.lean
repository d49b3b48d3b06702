import BeanForge.Log.Value
import BeanForge.Placeholder.Fill

/-!
# Log messages

A message may hold places for values. Several values are taken in order, and the
members of one object by name; without values the message is taken as it stands.
-/

namespace BeanForge.Log

/-- Why a record has no text. Kinds are the names of kinds of values. -/
inductive Flaw where
  | placement (m : Placeholder.Mismatch)
  | noKey (name : String)
  | noNumberedKey (index : Nat)
  | noIndex (kind : String)
  | wrongIndex (kind : String)
  | notPadded (kind : String)
  | unhashable (kind : String)
  | notCallable (kind : String)
  | notSubscriptable (kind : String)
  | noMember (kind name : String)
  deriving Repr, DecidableEq

namespace Flaw

def category : Flaw → String
  | placement m => m.category
  | noKey _ | noNumberedKey _ => "KeyError"
  | noIndex _ => "IndexError"
  | noMember _ _ => "AttributeError"
  | _ => "TypeError"

def message : Flaw → String
  | placement m => m.message
  | noKey name => Text.quoted name
  | noNumberedKey index => toString index
  | noIndex kind => kind ++ " index out of range"
  | wrongIndex kind => kind ++ " indices must be integers or slices, not str"
  | notPadded kind => "unsupported format string passed to " ++ kind ++ ".__format__"
  | unhashable kind => "unhashable type: '" ++ kind ++ "'"
  | notCallable kind => "'" ++ kind ++ "' object is not callable"
  | notSubscriptable kind => "'" ++ kind ++ "' object is not subscriptable"
  | noMember kind name => "'" ++ kind ++ "' object has no attribute '" ++ name ++ "'"

end Flaw

namespace Value

def nature : Value → Placeholder.Nature Flaw
  | json (.string s) => .text s
  | json (.integer n) => .number (.whole n)
  | json (.bool b) => .number (.whole (if b then 1 else 0))
  | json (.real x) => .number (.real x)
  | _ => .other

/-- A value as something to put in a place. -/
def placed (value : Value) : Placeholder.Argument Flaw where
  kind := value.kindName
  nature := value.nature
  plain := .ok value.shown
  inside := .ok value.shownInside

/-- How values inside this one are found by name, if it is a kind that has some. -/
def named? : Value → Option (String → Except Flaw (Placeholder.Argument Flaw))
  | json (.object members) => some fun name =>
    match (Json.object members).member? name with
    | some value => .ok (json value).placed
    | none => .error (.noKey name)
  | json (.array _) => some fun _ => .error (.wrongIndex "list")
  | _ => none

end Value

/-- The values of a message: several in a row, or one on its own. -/
inductive Arguments where
  | row (values : List Value)
  | single (value : Value)
  deriving Repr

namespace Arguments

/-- An object with members that is the only value stands on its own. -/
def ofList : List Value → Arguments
  | [.json (.object (member :: members))] => single (.json (.object (member :: members)))
  | values => row values

def isEmpty : Arguments → Bool
  | row values => values.isEmpty
  | single value => !value.holds

def supply : Arguments → Placeholder.Supply Flaw
  | row values => { left := values.map Value.placed }
  | single value => { left := [value.placed], named? := value.named? }

end Arguments

/-- The message with its values in their places. -/
def fill (message : String) (values : Arguments) : Except Flaw String :=
  if values.isEmpty then .ok message
  else (Placeholder.fill message values.supply).mapError fun
    | .mismatch m => .placement m
    | .argument flaw => flaw

end BeanForge.Log

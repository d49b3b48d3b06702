import BeanForge.Fault
import BeanForge.FieldTable
import BeanForge.Json.Display

/-!
# Positions in field tables

A field is looked up by a value. Whole numbers and flags are positions, where a
negative one counts from the end, and names are told apart as texts.
-/

namespace BeanForge.FieldTable

/-- Whether a number is small enough for a position. -/
def isPosition (index : Int) : Bool :=
  -0x8000000000000000 ≤ index && index < 0x8000000000000000

def atNumber (t : FieldTable) (index : Int) : Except Fault Field :=
  if isPosition index then
    match t.at? index with
    | some f => .ok f
    | none => .error .beyondTable
  else .error .hugePosition

/-- The field at the position that a value stands for. -/
def atValue (t : FieldTable) : Json → Except Fault Field
  | .integer index => t.atNumber index
  | .bool b => t.atNumber (if b then 1 else 0)
  | value => .error (.notPosition value.kindName)

/-- The field with the name that a value is; only texts are names. -/
def named? (t : FieldTable) (value : Json) : Option Field :=
  value.string?.bind t.get?

end BeanForge.FieldTable

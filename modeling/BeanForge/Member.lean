import BeanForge.Accessor

/-!
# Members of a generated class

The names and expressions that the generated class uses for a field: accessor
names, the initial value, and the expressions that compare, hash and show it.
The type is known by its name, and only primitives and arrays are special.
-/

namespace BeanForge

inductive Primitive where
  | boolean
  | byte
  | char
  | short
  | int
  | long
  | float
  | double
  deriving Repr, DecidableEq

namespace Primitive

def all : List Primitive := [boolean, byte, char, short, int, long, float, double]

def typeName : Primitive → String
  | boolean => "boolean"
  | byte => "byte"
  | char => "char"
  | short => "short"
  | int => "int"
  | long => "long"
  | float => "float"
  | double => "double"

def wrapper : Primitive → String
  | boolean => "Boolean"
  | byte => "Byte"
  | char => "Character"
  | short => "Short"
  | int => "Integer"
  | long => "Long"
  | float => "Float"
  | double => "Double"

/-- The value of a field that was never assigned. -/
def initial : Primitive → String
  | boolean => "false"
  | byte => "(byte) 0"
  | char => "'\\u0000'"
  | short => "(short) 0"
  | int => "0"
  | long => "0L"
  | float => "0.0f"
  | double => "0.0d"

/-- Floating point numbers are compared by their wrapper, as `==` is no equivalence on them. -/
def isFloating : Primitive → Bool
  | float | double => true
  | _ => false

def named? (typeName : String) : Option Primitive :=
  all.find? (·.typeName == typeName)

end Primitive

def isArrayType (typeName : String) : Bool :=
  typeName.toList.getLast? == some ']'

def initialValue (typeName : String) : String :=
  match Primitive.named? typeName with
  | some p => p.initial
  | none => "null"

namespace Field

def getterName (f : Field) : String :=
  let word := f.getterWord.getD (if f.typeName = "boolean" then "is" else "get")
  word ++ Text.capitalized f.name

def setterName (f : Field) : String :=
  "set" ++ Text.capitalized f.name

def access (object : String) (f : Field) : String :=
  object ++ "." ++ f.name

/-- Whether two objects agree on the field. -/
def equality (f : Field) (other : String) : String :=
  let mine := f.access "this"
  let theirs := f.access other
  match Primitive.named? f.typeName with
  | some p =>
    if p.isFloating then p.wrapper ++ ".compare(" ++ mine ++ ", " ++ theirs ++ ") == 0"
    else mine ++ " == " ++ theirs
  | none =>
    if isArrayType f.typeName then "java.util.Arrays.equals(" ++ mine ++ ", " ++ theirs ++ ")"
    else "java.util.Objects.equals(" ++ mine ++ ", " ++ theirs ++ ")"

def hash (f : Field) : String :=
  let mine := f.access "this"
  match Primitive.named? f.typeName with
  | some p => p.wrapper ++ ".hashCode(" ++ mine ++ ")"
  | none =>
    if isArrayType f.typeName then "java.util.Arrays.hashCode(" ++ mine ++ ")"
    else "java.util.Objects.hashCode(" ++ mine ++ ")"

/-- The expression that shows the field inside a text. -/
def display (f : Field) : String :=
  let mine := f.access "this"
  if isArrayType f.typeName then "java.util.Arrays.toString(" ++ mine ++ ")" else mine

end Field

end BeanForge

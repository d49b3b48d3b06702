import BeanForge.Failure
import BeanForge.Text.Case

/-!
# Accessors

A method named with `get`, `set` or `is` describes a field. The rest of its name
in small letters names the field; what the method returns, or else its first
parameter, gives the type.
-/

namespace BeanForge

/-- The type of a method that yields no value. -/
def voidType : String := "void"

structure Method where
  name : String
  returnType : String := voidType
  parameterTypes : List String := []
  /-- The flag given with the marker, absent without a marker. -/
  identifier : Option Bool := none
  isIdentifier : Bool := false
  deriving Repr, DecidableEq

namespace Method

def returnsValue (m : Method) : Bool :=
  m.returnType != "" && m.returnType != voidType

end Method

structure Field where
  name : String
  typeName : String
  isIdentifier : Bool := false
  /-- The word that the declared getter begins with, absent when there is none. -/
  getterWord : Option String := none
  deriving Repr, DecidableEq

inductive AccessorWord where
  | get
  | set
  | is
  deriving Repr, DecidableEq

namespace AccessorWord

def text : AccessorWord → String
  | get => "get"
  | set => "set"
  | is => "is"

/-- The accessor word at the front of a name, and the rest. -/
def split? : List Char → Option (AccessorWord × List Char)
  | 'g' :: 'e' :: 't' :: rest => some (get, rest)
  | 's' :: 'e' :: 't' :: rest => some (set, rest)
  | 'i' :: 's' :: rest => some (is, rest)
  | _ => none

def of? (methodName : String) : Option AccessorWord :=
  (split? methodName.toList).map (·.1)

/-- The word as the prefix of a getter; a setter's word is none. -/
def getterText? : AccessorWord → Option String
  | set => none
  | word => some word.text

end AccessorWord

/-- The field that a method name speaks of. -/
def fieldName? (methodName : String) : Option String :=
  (AccessorWord.split? methodName.toList).map fun (_, rest) => Text.lower (String.ofList rest)

/-- Why a method describes no field. -/
inductive Misfit where
  | noAccessorWord
  | noParameter
  deriving Repr, DecidableEq

def Misfit.reason : Misfit → String
  | noAccessorWord => "no get/set/is prefix"
  | noParameter => "setter without parameters"

namespace Method

def field? (m : Method) : Except Misfit Field :=
  match AccessorWord.split? m.name.toList with
  | none => .error .noAccessorWord
  | some (word, rest) =>
    let name := Text.lower (String.ofList rest)
    if m.returnsValue then
      .ok ⟨name, m.returnType, m.isIdentifier, word.getterText?⟩
    else match m.parameterTypes with
      | [] => .error .noParameter
      | type :: _ => .ok ⟨name, type, m.isIdentifier, none⟩

def misfit (m : Method) (why : Misfit) : Failure :=
  .notAccessor m.name why.reason

/-- The note about a method that describes no field. -/
def skipNote? (m : Method) : Option String :=
  match m.field? with
  | .ok _ => none
  | .error why => some ("Skipping method: " ++ (m.misfit why).message)

end Method

end BeanForge

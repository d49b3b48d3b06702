import BeanForge.Member

/-!
# Declarations

What a source declares: types as trees, annotations with their values, the
methods of interfaces, and the declarations of a source in order. Of a value
only a literal is told apart.
-/

namespace BeanForge.Source

mutual

inductive TypeTree where
  | basic (type : Primitive) (dimensions : Nat)
  | reference (links : List TypeLink)

/-- One name along a type, with its arguments. -/
inductive TypeLink where
  | mk (name : String) (arguments : List TypeArgument) (dimensions : Nat)

inductive TypeArgument where
  | any
  | exactly (type : TypeTree)
  | extending (type : TypeTree)
  | above (type : TypeTree)

end

namespace TypeTree

def brackets : Nat → String
  | 0 => ""
  | n + 1 => "[]" ++ brackets n

def linkDimensions : List TypeLink → Nat
  | [] => 0
  | .mk _ _ dimensions :: rest => dimensions + linkDimensions rest

mutual

/-- The type as texts name it: all dimensions come last. -/
def name : TypeTree → String
  | basic type dimensions => type.typeName ++ brackets dimensions
  | reference links => linksName links ++ brackets (linkDimensions links)

def linksName : List TypeLink → String
  | [] => ""
  | [link] => linkName link
  | link :: rest => linkName link ++ "." ++ linksName rest

def linkName : TypeLink → String
  | .mk name [] _ => name
  | .mk name arguments _ => name ++ "<" ++ argumentsName arguments ++ ">"

def argumentsName : List TypeArgument → String
  | [] => ""
  | [argument] => argumentName argument
  | argument :: rest => argumentName argument ++ ", " ++ argumentsName rest

def argumentName : TypeArgument → String
  | .any => "?"
  | .exactly type => name type
  | .extending type => "? extends " ++ name type
  | .above type => "? super " ++ name type

end

/-- All dimensions of a type, wherever they stand. -/
def dimensions : TypeTree → Nat
  | basic _ dimensions => dimensions
  | reference links => linkDimensions links

/-- The type with further dimensions. -/
def addDimensions (more : Nat) : TypeTree → TypeTree
  | basic type dimensions => basic type (dimensions + more)
  | reference [] => reference []
  | reference (.mk name arguments dimensions :: rest) =>
    reference (.mk name arguments (dimensions + more) :: rest)

end TypeTree

/-- The value of an expression as far as it is told apart: a literal, or another. -/
inductive Worth where
  | literal (text : String)
  | other
  deriving Repr, DecidableEq

def Worth.isTrue (w : Worth) : Bool :=
  w == .literal "true"

/-- What an annotation is given. -/
inductive Arguments where
  | absent
  | pairs (values : List (String × Worth))
  | single (value : Worth)
  deriving Repr, DecidableEq

structure AnnotationUse where
  name : String
  arguments : Arguments := .absent
  deriving Repr, DecidableEq

structure Parameter where
  type : TypeTree
  isVariadic : Bool := false

structure MethodDeclaration where
  name : String
  /-- Absent for a method that yields no value. -/
  returnType : Option TypeTree
  parameters : List Parameter
  annotations : List AnnotationUse := []

inductive DeclarationKind where
  | classType
  | enumeration
  | interfaceType
  | annotationType
  deriving Repr, DecidableEq

structure Declaration where
  kind : DeclarationKind
  name : String
  annotations : List AnnotationUse := []
  /-- The methods of an interface in order, no other members. -/
  methods : List MethodDeclaration := []

structure CompilationUnit where
  package : Option String := none
  declarations : List Declaration := []

end BeanForge.Source

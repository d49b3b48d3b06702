import BeanForge.Entity
import BeanForge.Proofs.Source.Layout
import BeanForge.Source.Declaration

/-!
# Written sources

A package, interfaces and their methods as somebody means them: types as trees, markers with their
flags. Each is written with lexemes, and each has the text or the record that others know it by.
-/

namespace BeanForge.Source

structure Name where
  text : String
  sound : isIdentifier text = true
  deriving Repr, DecidableEq

theorem Name.text_inj {name other : Name} (h : name.text = other.text) : name = other := by
  cases name
  cases other
  cases h
  rfl

theorem isWord_of_isIdentifier {text : String} (h : isIdentifier text = true) :
    isWord text = true := by
  cases htext : text.toList with
  | nil => simp [isIdentifier, htext] at h
  | cons c rest =>
    simp only [isIdentifier, htext, Bool.and_eq_true] at h
    simpa only [isWord, htext, Bool.and_eq_true] using h.1

theorem isWord_typeName (p : Primitive) : isWord p.typeName = true := by
  cases p <;> decide

namespace Written

def nameLexeme (name : Name) : Lexeme :=
  .word name.text (isWord_of_isIdentifier name.sound)

def primitiveLexeme (p : Primitive) : Lexeme :=
  .word p.typeName (isWord_typeName p)

def parted (separator : Mark) : List (List Lexeme) → List Lexeme
  | [] => []
  | item :: rest => item ++ rest.flatMap (.mark separator :: ·)

/-! Names with dots -/

def dottedText (names : List Name) : String :=
  ".".intercalate (names.map Name.text)

def dottedLexemes (names : List Name) : List Lexeme :=
  parted .dot (names.map fun name => [nameLexeme name])

/-! Types -/

inductive Bound where
  | exactly
  | extending
  | above
  deriving Repr, DecidableEq

def Bound.text : Bound → String
  | exactly => ""
  | extending => "? extends "
  | above => "? super "

def Bound.lexemes : Bound → List Lexeme
  | exactly => []
  | extending => [.mark .question, .word "extends" (by decide)]
  | above => [.mark .question, .word "super" (by decide)]

mutual

inductive ObjectType where
  /-- An array of a primitive; `more` counts the dimensions after the first. -/
  | array (element : Primitive) (more : Nat)
  | named (first : Segment) (rest : List Segment) (dimensions : Nat)

inductive Segment where
  | mk (name : Name) (arguments : List Argument)

inductive Argument where
  | any
  | bounded (bound : Bound) (type : ObjectType)

end

inductive AnyType where
  | basic (type : Primitive) (dimensions : Nat)
  | object (type : ObjectType)

def angledText : List String → String
  | [] => ""
  | texts => "<" ++ ", ".intercalate texts ++ ">"

mutual

def ObjectType.text : ObjectType → String
  | .array element more => element.typeName ++ TypeTree.brackets (more + 1)
  | .named first rest dimensions =>
    ".".intercalate (first.text :: segmentTexts rest) ++ TypeTree.brackets dimensions

def Segment.text : Segment → String
  | .mk name arguments => name.text ++ angledText (argumentTexts arguments)

def segmentTexts : List Segment → List String
  | [] => []
  | segment :: rest => segment.text :: segmentTexts rest

def Argument.text : Argument → String
  | .any => "?"
  | .bounded bound type => bound.text ++ type.text

def argumentTexts : List Argument → List String
  | [] => []
  | argument :: rest => argument.text :: argumentTexts rest

end

def AnyType.text : AnyType → String
  | basic type dimensions => type.typeName ++ TypeTree.brackets dimensions
  | object type => type.text

def bracketLexemes : Nat → List Lexeme
  | 0 => []
  | n + 1 => .mark .openBracket :: .mark .closeBracket :: bracketLexemes n

def angledLexemes : List (List Lexeme) → List Lexeme
  | [] => []
  | items => .mark .less :: (parted .comma items ++ [.mark .greater])

mutual

def ObjectType.lexemes : ObjectType → List Lexeme
  | .array element more => primitiveLexeme element :: bracketLexemes (more + 1)
  | .named first rest dimensions =>
    parted .dot (first.lexemes :: segmentLexemes rest) ++ bracketLexemes dimensions

def Segment.lexemes : Segment → List Lexeme
  | .mk name arguments => nameLexeme name :: angledLexemes (argumentLexemes arguments)

def segmentLexemes : List Segment → List (List Lexeme)
  | [] => []
  | segment :: rest => segment.lexemes :: segmentLexemes rest

def Argument.lexemes : Argument → List Lexeme
  | .any => [.mark .question]
  | .bounded bound type => bound.lexemes ++ type.lexemes

def argumentLexemes : List Argument → List (List Lexeme)
  | [] => []
  | argument :: rest => argument.lexemes :: argumentLexemes rest

end

def AnyType.lexemes : AnyType → List Lexeme
  | basic type dimensions => primitiveLexeme type :: bracketLexemes dimensions
  | object type => type.lexemes

/-! Annotations -/

inductive Form where
  | bare
  /-- The flag is given by its name. -/
  | named (flag : Bool)
  | alone (flag : Bool)
  deriving Repr, DecidableEq

structure Annotation where
  qualifiers : List Name := []
  name : Name
  form : Form := .bare
  deriving Repr, DecidableEq

def flagLexeme : Bool → Lexeme
  | true => .word "true" (by decide)
  | false => .word "false" (by decide)

def Form.lexemes : Form → List Lexeme
  | bare => []
  | named flag =>
    [.mark .openParenthesis, .word "id" (by decide), .mark .equals, flagLexeme flag,
      .mark .closeParenthesis]
  | alone flag => [.mark .openParenthesis, flagLexeme flag, .mark .closeParenthesis]

def Form.flag : Form → Bool
  | bare => false
  | named flag => flag
  | alone flag => flag

def Annotation.lexemes (a : Annotation) : List Lexeme :=
  .mark .atSign :: (dottedLexemes (a.qualifiers ++ [a.name]) ++ a.form.lexemes)

def annotationsLexemes (annotations : List Annotation) : List Lexeme :=
  (annotations.map Annotation.lexemes).flatten

/-- The flag that the first use of the marker gives; none without a use. -/
def flag? (marker : Name) (annotations : List Annotation) : Option Bool :=
  (annotations.find? (·.name = marker)).map (·.form.flag)

/-! Methods -/

structure Parameter where
  type : AnyType
  name : Name

structure Method where
  annotations : List Annotation := []
  /-- Absent for a method that yields no value. -/
  returnType : Option AnyType
  name : Name
  parameters : List Parameter := []
  /-- A last parameter that takes any number of values. -/
  variadic : Option Parameter := none

def dotsLexemes : Bool → List Lexeme
  | true => [.mark .dots]
  | false => []

def Parameter.lexemes (isVariadic : Bool) (p : Parameter) : List Lexeme :=
  p.type.lexemes ++ (dotsLexemes isVariadic ++ [nameLexeme p.name])

/-- What a parameter takes; any number of values are an array of them. -/
def Parameter.typeText (isVariadic : Bool) (p : Parameter) : String :=
  p.type.text ++ (if isVariadic then "[]" else "")

/-- Parameters of which only the last may be variadic, each told whether it is. -/
def withVariadic (parameters : List Parameter) (variadic : Option Parameter) :
    List (Bool × Parameter) :=
  parameters.map (false, ·) ++ variadic.toList.map (true, ·)

def returnLexemes : Option AnyType → List Lexeme
  | none => [.word "void" (by decide)]
  | some type => type.lexemes

def Method.allParameters (m : Method) : List (Bool × Parameter) :=
  withVariadic m.parameters m.variadic

def parameterLexemes (parameters : List (Bool × Parameter)) : List (List Lexeme) :=
  parameters.map fun p => p.2.lexemes p.1

def Method.signatureLexemes (m : Method) : List Lexeme :=
  returnLexemes m.returnType ++ (nameLexeme m.name :: .mark .openParenthesis ::
    (parted .comma (parameterLexemes m.allParameters) ++
      [.mark .closeParenthesis, .mark .semicolon]))

def Method.lexemes (m : Method) : List Lexeme :=
  annotationsLexemes m.annotations ++ m.signatureLexemes

def Method.returnText (m : Method) : String :=
  match m.returnType with
  | none => "void"
  | some type => type.text

def Method.record (marker : Name) (m : Method) : BeanForge.Method where
  name := m.name.text
  returnType := m.returnText
  parameterTypes := m.allParameters.map fun p => p.2.typeText p.1
  identifier := flag? marker m.annotations
  isIdentifier := flag? marker m.annotations = some true

/-! Interfaces -/

structure Interface where
  annotations : List Annotation := []
  name : Name
  methods : List Method := []

/-- A source text; without names its package is the default one. -/
structure File where
  package : List Name := []
  interfaces : List Interface := []

def Interface.bodyLexemes (i : Interface) : List Lexeme :=
  .word "interface" (by decide) :: nameLexeme i.name :: .mark .openBrace ::
    ((i.methods.map Method.lexemes).flatten ++ [.mark .closeBrace])

def Interface.lexemes (i : Interface) : List Lexeme :=
  annotationsLexemes i.annotations ++ i.bodyLexemes

def packageLexemes : List Name → List Lexeme
  | [] => []
  | names => .word "package" (by decide) :: (dottedLexemes names ++ [.mark .semicolon])

def File.lexemes (s : File) : List Lexeme :=
  packageLexemes s.package ++ (s.interfaces.map Interface.lexemes).flatten

def Interface.isMarked (marker : Name) (i : Interface) : Bool :=
  i.annotations.any (·.name = marker)

def Interface.record (marker : Name) (package : String) (source : Option String)
    (i : Interface) : BeanForge.Interface where
  name := i.name.text
  package
  methods := i.methods.map (·.record marker)
  source

/-- What is found in a source: its marked interfaces in order. -/
def File.records (marker : Name) (source : Option String) (s : File) :
    List BeanForge.Interface :=
  (s.interfaces.filter (·.isMarked marker)).map
    (·.record marker (dottedText s.package) source)

end Written

end BeanForge.Source

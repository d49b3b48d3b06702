import BeanForge.Entity
import BeanForge.Fault
import BeanForge.Source.Grammar.Declarations
import BeanForge.Source.Lexer

/-!
# Discovery

Interfaces that carry the marker annotation are found in source texts, with
their methods in order. The marker of a method tells whether its field is an
identifier.
-/

namespace BeanForge.Discovery

open Source

/-- Why a text declares nothing that can be used. -/
inductive Rejection where
  /-- The text is no source; the reason is told. -/
  | unreadable (reason : String)
  | fault (f : Fault)
  deriving Repr, DecidableEq

def withLine (description : String) : Option Nat → String
  | none => description
  | some line => description ++ " at line " ++ toString line

def rejectLexing : LexFault → Rejection
  | .unreadable account => .unreadable account
  | .numberCutOff => .fault .textEnds
  | .powerMissing => .fault .beyondText
  | .noCharacter => .fault .noCharacter

def rejectHeader : Halt → Rejection
  | .unexpected description line => .unreadable (withLine description line)
  | .exhausted _ => .fault .tokensExhausted
  | .endAfterOperand => .fault .textEnds

def rejectDeclarations : Halt → Rejection
  | .unexpected description line => .unreadable (withLine description line)
  | .exhausted trialLine => .unreadable (withLine "Unexpected end of input" trialLine)
  | .endAfterOperand => .fault .textEnds

/-- Read a source text. -/
def compilationUnit (text : String) : Except Rejection CompilationUnit := do
  let ts ← (tokens text).mapError rejectLexing
  let b := Grammar.levelFor ts
  let (package, rest) ← ((Grammar.header b).run ts).mapError rejectHeader
  let (declarations, _) ← ((Grammar.declarations b).run rest).mapError rejectDeclarations
  pure ⟨package, declarations⟩

/-- A marker may be written with the names of its package. -/
def isMarker (marker name : String) : Bool :=
  name == marker || ('.' :: marker.toList).isSuffixOf name.toList

/-- The first annotation that is the marker. -/
def marker? (marker : String) (annotations : List AnnotationUse) : Option AnnotationUse :=
  annotations.find? fun a => isMarker marker a.name

/-- The flag that a marker gives. -/
def identifierFlag : Arguments → Bool
  | .absent => false
  | .single value => value.isTrue
  | .pairs values =>
    match values.find? fun pair => pair.1 == "id" with
    | some (_, value) => value.isTrue
    | none => false

def parameterType (p : Parameter) : String :=
  p.type.name ++ (if p.isVariadic then "[]" else "")

def method (marker : String) (m : MethodDeclaration) : Method :=
  let identifier := (marker? marker m.annotations).map fun a => identifierFlag a.arguments
  { name := m.name
    returnType := (m.returnType.map TypeTree.name).getD voidType
    parameterTypes := m.parameters.map parameterType
    identifier
    isIdentifier := identifier.getD false }

def isMarked (marker : String) (d : Declaration) : Bool :=
  (marker? marker d.annotations).isSome

def interface? (marker : String) (package : String) (source : Option String) (d : Declaration) :
    Option Interface :=
  if isMarked marker d && d.kind = .interfaceType then
    some ⟨d.name, package, d.methods.map (method marker), source⟩
  else none

/-- The marked interfaces of a unit in order. -/
def interfaces (marker : String) (source : Option String) (u : CompilationUnit) :
    List Interface :=
  u.declarations.filterMap (interface? marker (u.package.getD "") source)

/-- The notes about marked declarations that are no interfaces. -/
def skipNotes (marker : String) (u : CompilationUnit) : List String :=
  (u.declarations.filter fun d => isMarked marker d && d.kind ≠ .interfaceType).map fun d =>
    "Skipping annotated non-interface " ++ d.name

/-- What messages call a source; an empty name is no name. -/
def sourceLabel : Option String → String
  | none => "<string>"
  | some "" => "<string>"
  | some source => source

def stopOf (source : Option String) : Rejection → Stop
  | .unreadable reason => .failure (.discovery (sourceLabel source) reason)
  | .fault f => .fault f

/-- The unit of a text, or why there is none. -/
def read (text : String) (source : Option String) : Except Stop CompilationUnit :=
  (compilationUnit text).mapError (stopOf source)

def discover (marker : String) (text : String) (source : Option String) :
    Except Stop (List Interface) :=
  (read text source).map (interfaces marker source)

end BeanForge.Discovery

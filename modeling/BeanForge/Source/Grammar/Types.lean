import BeanForge.Source.Declaration
import BeanForge.Source.Parse

/-!
# Grammar of types

Names of types with their arguments and dimensions, and type parameters. What a
grammar needs below itself is read by the readers of the next level down; types
need only arguments.
-/

namespace BeanForge.Source.Grammar

open Parse

/-- The readers of the next level down. -/
structure Below where
  typeArguments : Parse (List TypeArgument)
  annotationUse : Parse AnnotationUse
  elementValue : Parse Worth
  expression : Parse Worth
  /-- An expression without assignments. -/
  choice : Parse Worth
  operand : Parse Worth
  initializer : Parse Unit
  statement : Parse Unit
  blockStatement : Parse Unit
  classBody : Parse Unit
  declaration : Parse Declaration

/-- The end of all levels. -/
def Below.floor : Below :=
  let stop {α : Type} : Parse α := illegal "Too many levels"
  ⟨stop, stop, stop, stop, stop, stop, stop, stop, stop, stop, stop⟩

variable (b : Below)

def primitive : Parse Primitive := do
  match Primitive.named? (← take (.kind .basicType)) with
  | some p => pure p
  | none => illegal "Expected BasicType"

/-- The arguments after a name, if there are any. -/
def optionalTypeArguments : Parse (List TypeArgument) := do
  if ← seesWord "<" then b.typeArguments else pure []

def typeLink : Parse TypeLink := do
  let name ← identifier
  let arguments ← optionalTypeArguments b
  pure (.mk name arguments 0)

def referenceType : Parse TypeTree := do
  pure (.reference (← separated "." (typeLink b)))

def type : Parse TypeTree := do
  let stem ←
    if ← seesKind .basicType then (fun p => .basic p 0) <$> primitive
    else if ← seesKind .identifier then referenceType b
    else illegal "Expected type"
  pure (stem.addDimensions (← bracketPairs))

/-- A type that is no primitive by itself. -/
def objectType : Parse TypeTree := do
  if ← seesKind .basicType then
    let p ← primitive
    expect "["
    expect "]"
    pure (.basic p (1 + (← bracketPairs)))
  else
    let stem ← referenceType b
    pure (stem.addDimensions (← bracketPairs))

def typeArgument : Parse TypeArgument := do
  if ← acceptsWord "?" then
    if ← acceptsWord "extends" then TypeArgument.extending <$> objectType b
    else if ← acceptsWord "super" then TypeArgument.above <$> objectType b
    else pure .any
  else TypeArgument.exactly <$> objectType b

/-- Items between angle brackets, parted by commas. -/
def angled {α : Type} (p : Parse α) : Parse (List α) := do
  expect "<"
  let first ← p
  let rest ← repeatWhile ((!·) <$> acceptsWord ">") (do expect ","; p)
  pure (first :: rest)

def typeArguments : Parse (List TypeArgument) :=
  angled (typeArgument b)

def objectTypes : Parse (List TypeTree) :=
  separated "," (objectType b)

def plainTypeArguments : Parse Unit := do
  expect "<"
  discard (objectTypes b)
  expect ">"

/-- Arguments that may be left to be inferred. -/
def typeArgumentsOrDiamond : Parse Unit := do
  if ← accepts [.word "<", .word ">"] then pure () else discard b.typeArguments

def plainTypeArgumentsOrDiamond : Parse Unit := do
  if ← accepts [.word "<", .word ">"] then pure () else plainTypeArguments b

def typeParameter : Parse Unit := do
  discard identifier
  if ← acceptsWord "extends" then discard (separated "&" (referenceType b))

def typeParameters : Parse Unit :=
  discard (angled (typeParameter b))

def optionalTypeParameters : Parse Unit := do
  if ← seesWord "<" then typeParameters b

end BeanForge.Source.Grammar

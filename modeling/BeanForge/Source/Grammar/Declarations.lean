import BeanForge.Source.Grammar.Statements

/-!
# Grammar of declarations

Classes, enumerations, annotation types and interfaces with their members. Of a
member only the methods of interfaces are kept.
-/

namespace BeanForge.Source.Grammar

open Parse

variable (b : Below)

/-- Modifiers and annotations in any order; the annotations are kept. -/
def declarationModifiers : Parse (List AnnotationUse) := do
  let found ← repeatWhile
    (do
      let isModifier ← seesKind .modifier
      let isAnnotationUse ← seesAnnotationUse
      pure (isModifier || isAnnotationUse))
    (do
      if ← seesKind .modifier then
        skip 1
        pure none
      else some <$> annotationUse b)
  pure (found.filterMap id)

def bodyOrSemicolon : Parse Unit := do
  if ← seesWord "\x7b" then statementsInBraces b else expect ";"

def optionalThrows : Parse Unit := do
  if ← acceptsWord "throws" then discard qualifiedNames

/-- Parameters and body of a method, with the dimensions between them. -/
def methodRest : Parse (List Parameter × Nat) := do
  let parameters ← formalParameters b
  let dimensions ← bracketPairs
  optionalThrows
  bodyOrSemicolon b
  pure (parameters, dimensions)

/-- Parameters and body of a method that yields no value. -/
def voidMethodRest : Parse (List Parameter) := do
  let parameters ← formalParameters b
  optionalThrows
  bodyOrSemicolon b
  pure parameters

def constructorRest : Parse Unit := do
  discard (formalParameters b)
  optionalThrows
  statementsInBraces b

/-! Members of classes -/

def fieldRest : Parse Unit := do
  variableDeclaratorRest b
  discard (repeatWhile (acceptsWord ",") (variableDeclarator b))
  expect ";"

def methodOrField : Parse Unit := do
  discard (type b)
  discard identifier
  if ← seesWord "(" then discard (methodRest b) else fieldRest b

def genericMember : Parse Unit := do
  typeParameters b
  if ← sees [.kind .identifier, .word "("] then
    skip 1
    constructorRest b
  else if ← acceptsWord "void" then
    discard identifier
    discard (voidMethodRest b)
  else
    discard (type b)
    discard identifier
    discard (methodRest b)

/-- Whether a nested declaration begins after the modifiers. -/
def seesNested : Parse Bool := do
  let named ← seesOneOf ["class", "enum", "interface"]
  let annotationType ← seesAnnotationType
  pure (named || annotationType)

/-! Types -/

def optionalSupertype : Parse Unit := do
  if ← acceptsWord "extends" then discard (type b)

def optionalSupertypes (word : String) : Parse Unit := do
  if ← acceptsWord word then discard (objectTypes b)

def classType : Parse String := do
  expect "class"
  let name ← identifier
  optionalTypeParameters b
  optionalSupertype b
  optionalSupertypes b "implements"
  b.classBody
  pure name

def constantDeclaratorRest : Parse Unit := do
  discard bracketPairs
  expect "="
  initializer b

def constantsRest : Parse Unit := do
  constantDeclaratorRest b
  discard (repeatWhile (acceptsWord ",") (do
    discard identifier
    constantDeclaratorRest b))

def enumConstant : Parse Unit := do
  if ← seesKind .atSign then discard (annotations b)
  discard identifier
  if ← seesWord "(" then arguments b
  if ← seesWord "\x7b" then b.classBody

/-- One more constant, told whether another may follow. -/
def enumConstants (bound : Nat) : Parse Unit :=
  match bound with
  | 0 => pure ()
  | bound + 1 => do
    if ← seesOneOf [";", "\x7d"] then pure ()
    else
      enumConstant b
      if ← acceptsWord "," then enumConstants bound

/-- A member of a class; `member` reads one that is no block. -/
def classBodyDeclaration (member : Parse Unit) : Parse Unit := do
  if ← acceptsWord ";" then pure ()
  else if ← sees [.word "static", .word "\x7b"] then
    skip 1
    statementsInBraces b
  else if ← seesWord "\x7b" then statementsInBraces b
  else member

def enumType (member : Parse Unit) : Parse String := do
  expect "enum"
  let name ← identifier
  optionalSupertypes b "implements"
  expect "\x7b"
  if ← acceptsWord "," then pure () else enumConstants b ((← ahead).length + 1)
  if ← acceptsWord ";" then
    discard (repeatWhile ((!·) <$> seesWord "\x7d") (classBodyDeclaration b member))
  expect "\x7d"
  pure name

def annotationMethodRest : Parse Unit := do
  expect "("
  expect ")"
  discard bracketPairs
  if ← acceptsWord "default" then discard (elementValue b)

def annotationMember : Parse Unit := do
  discard (declarationModifiers b)
  if ← seesNested then discard b.declaration
  else
    discard (type b)
    discard identifier
    if ← seesWord "(" then annotationMethodRest b else constantsRest b
    expect ";"

def annotationType : Parse String := do
  expect "@"
  expect "interface"
  let name ← identifier
  expect "\x7b"
  discard (untilWord "\x7d" (annotationMember b))
  pure name

/-! Interfaces -/

/-- A generic method; the dimensions after its parameters are not told. -/
def genericMethod : Parse MethodDeclaration := do
  typeParameters b
  let returnType ← if ← acceptsWord "void" then pure none else some <$> type b
  let name ← identifier
  let (parameters, _) ← methodRest b
  pure { name, returnType, parameters }

def interfaceMethodOrConstant : Parse (Option MethodDeclaration) := do
  let type ← type b
  let name ← identifier
  if ← seesWord "(" then
    let (parameters, dimensions) ← methodRest b
    pure (some { name, returnType := some (type.addDimensions dimensions), parameters })
  else
    constantsRest b
    expect ";"
    pure none

def interfaceMember : Parse (Option MethodDeclaration) := do
  if ← seesNested then
    discard b.declaration
    pure none
  else if ← seesWord "<" then some <$> genericMethod b
  else if ← acceptsWord "void" then
    let name ← identifier
    let parameters ← voidMethodRest b
    pure (some { name, returnType := none, parameters })
  else interfaceMethodOrConstant b

def interfaceBodyDeclaration : Parse (Option MethodDeclaration) := do
  if ← acceptsWord ";" then pure none
  else
    let annotations ← declarationModifiers b
    let method ← interfaceMember b
    pure (method.map fun m => { m with annotations })

def interfaceType : Parse (String × List MethodDeclaration) := do
  expect "interface"
  let name ← identifier
  optionalTypeParameters b
  optionalSupertypes b "extends"
  expect "\x7b"
  let members ← untilWord "\x7d" (interfaceBodyDeclaration b)
  pure (name, members.filterMap id)

/-! Declarations -/

/-- A declaration after its modifiers; `member` reads a member of a class. -/
def unmodified (member : Parse Unit) : Parse Declaration := do
  if ← seesWord "class" then
    let name ← classType b
    pure { kind := .classType, name }
  else if ← seesWord "enum" then
    let name ← enumType b member
    pure { kind := .enumeration, name }
  else if ← seesWord "interface" then
    let (name, methods) ← interfaceType b
    pure { kind := .interfaceType, name, methods }
  else if ← seesAnnotationType then
    let name ← annotationType b
    pure { kind := .annotationType, name }
  else illegal "Expected type declaration"

/-- A member of a class that is no block. -/
def classMember : Parse Unit := do
  discard (declarationModifiers b)
  if ← acceptsWord "void" then
    discard identifier
    discard (voidMethodRest b)
  else if ← seesWord "<" then genericMember b
  else if ← seesNested then discard b.declaration
  else if ← sees [.kind .identifier, .word "("] then
    skip 1
    constructorRest b
  else methodOrField b

def classBody : Parse Unit := do
  expect "\x7b"
  discard (untilWord "\x7d" (classBodyDeclaration b (classMember b)))

def declaration : Parse Declaration := do
  let annotations ← declarationModifiers b
  let found ← unmodified b (classMember b)
  pure { found with annotations }

/-- The readers that have `n` levels below them. -/
def level : Nat → Below
  | 0 => .floor
  | n + 1 =>
    let b := level n
    { typeArguments := typeArguments b
      annotationUse := annotationUse b
      elementValue := elementValue b
      expression := expression b
      choice := choice b
      operand := operand b
      initializer := initializer b
      statement := statement b
      blockStatement := blockStatement b
      classBody := classBody b
      declaration := declaration b }

/-! Compilation units -/

/-- The names of an import up to its end; a star may stand for the last one. -/
def importNames (bound : Nat) : Parse Unit :=
  match bound with
  | 0 => pure ()
  | bound + 1 => do
    discard identifier
    if ← acceptsWord "." then
      if ← acceptsWord "*" then expect ";" else importNames bound
    else expect ";"

def importDeclaration : Parse Unit := do
  expect "import"
  discard (acceptsWord "static")
  importNames ((← ahead).length + 1)

/-- The package, if one is named; annotations before another declaration belong to that. -/
def packageName : Parse (Option String) :=
  marked do
    if ← seesAnnotationUse then discard (annotations b)
    if ← acceptsWord "package" then
      let name ← qualifiedName
      expect ";"
      pure (some name)
    else
      goBack
      pure none

/-- Package and imports. -/
def header : Parse (Option String) := do
  let package ← packageName b
  discard (repeatWhile (seesWord "import") importDeclaration)
  pure package

def topDeclaration : Parse (Option Declaration) := do
  if ← acceptsWord ";" then pure none else some <$> declaration b

/-- All declarations up to the end. -/
def declarations : Parse (List Declaration) := do
  let found ← repeatWhile ((·.isSome) <$> look) (topDeclaration b)
  pure (found.filterMap id)

/-- Every level takes a token at least every fourth time. -/
def levelFor (ts : List Token) : Below :=
  level (4 * ts.length + 8)

end BeanForge.Source.Grammar

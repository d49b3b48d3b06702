import BeanForge.Source.Grammar.Types

/-!
# Grammar of expressions

Expressions are read to be passed over; of their values only literals are told
apart. Parentheses, and operators and selectors at a literal, leave it a literal.
-/

namespace BeanForge.Source.Grammar

open Parse

variable (b : Below)

def annotationElement : Parse Arguments := do
  if ← sees [.kind .identifier, .word "="] then
    Arguments.pairs <$> separated "," (do
      let name ← identifier
      expect "="
      let value ← b.elementValue
      pure (name, value))
  else if ← sees [.word "\x7b", .word "\x7d"] then
    skip 2
    pure (.pairs [])
  else Arguments.single <$> b.elementValue

def annotationUse : Parse AnnotationUse := do
  expect "@"
  let name ← qualifiedName
  if ← acceptsWord "(" then
    if ← seesWord ")" then
      expect ")"
      pure ⟨name, .absent⟩
    else
      let arguments ← annotationElement b
      expect ")"
      pure ⟨name, arguments⟩
  else pure ⟨name, .absent⟩

def annotations : Parse (List AnnotationUse) := do
  let first ← annotationUse b
  let rest ← repeatWhile seesAnnotationUse (annotationUse b)
  pure (first :: rest)

/-- The values after the first one in braces. -/
def moreElementValues : Parse Unit := do
  discard (repeatWhile
    (do
      let closes ← seesWord "\x7d"
      let closesSoon ← sees [.word ",", .word "\x7d"]
      pure (!closes && !closesSoon))
    (do expect ","; b.elementValue))

def elementValue : Parse Worth := do
  if ← seesAnnotationUse then
    discard b.annotationUse
    pure .other
  else if ← acceptsWord "\x7b" then
    if ← acceptsWord "\x7d" then pure .other
    else
      discard b.elementValue
      moreElementValues b
      discard (acceptsWord ",")
      expect "\x7d"
      pure .other
  else b.choice

/-- Modifiers of a parameter or a local variable. -/
def variableModifiers : Parse Unit := do
  discard (repeatWhile
    (do
      let isFinal ← seesWord "final"
      let isAnnotationUse ← seesAnnotationUse
      pure (isFinal || isAnnotationUse))
    (do if ← acceptsWord "final" then pure () else discard b.annotationUse))

def formalParameter : Parse Parameter := do
  variableModifiers b
  let type ← type b
  let isVariadic ← acceptsWord "..."
  discard identifier
  pure ⟨type.addDimensions (← bracketPairs), isVariadic⟩

/-- The parameters after the first one; none follows a variadic one. -/
def moreParameters (bound : Nat) (last : Parameter) : Parse (List Parameter) :=
  match bound with
  | 0 => pure []
  | bound + 1 => do
    if last.isVariadic then pure []
    else if ← acceptsWord "," then
      let parameter ← formalParameter b
      let rest ← moreParameters bound parameter
      pure (parameter :: rest)
    else pure []

def formalParameters : Parse (List Parameter) := do
  expect "("
  if ← acceptsWord ")" then pure []
  else
    let first ← formalParameter b
    let rest ← moreParameters b ((← ahead).length + 1) first
    expect ")"
    pure (first :: rest)

def arguments : Parse Unit := do
  expect "("
  if ← acceptsWord ")" then pure ()
  else
    discard (separated "," b.expression)
    expect ")"

def parenthesized : Parse Worth := do
  expect "("
  let worth ← b.expression
  expect ")"
  pure worth

def statementsInBraces : Parse Unit := do
  expect "\x7b"
  discard (untilWord "\x7d" b.blockStatement)

/-- What an arrow leads to. -/
def lambdaBody : Parse Unit := do
  expect "->"
  if ← seesWord "\x7b" then statementsInBraces b else discard b.expression

def lambda : Parse Unit := do
  if ← sees [.word "(", .kind .identifier, .word ","] then
    expect "("
    discard (repeatWhile ((!·) <$> seesWord ")") (do
      discard identifier
      acceptsWord ","))
    expect ")"
  else discard (formalParameters b)
  lambdaBody b

def cast : Parse Unit := do
  expect "("
  discard (type b)
  expect ")"
  discard b.operand

/-- What may follow the word for the superclass. -/
def superSuffix : Parse Unit := do
  if ← acceptsWord "." then
    if ← seesWord "<" then plainTypeArguments b
    discard identifier
    if ← seesWord "(" then arguments b
  else arguments b

def genericInvocationSuffix : Parse Unit := do
  if ← acceptsWord "super" then superSuffix b
  else
    discard identifier
    arguments b

def genericInvocation : Parse Unit := do
  plainTypeArguments b
  genericInvocationSuffix b

def classCreatorRest : Parse Unit := do
  arguments b
  if ← seesWord "\x7b" then b.classBody

def arrayInitializer : Parse Unit := do
  expect "\x7b"
  if ← acceptsWord "," then expect "\x7d"
  else if ← acceptsWord "\x7d" then pure ()
  else
    b.initializer
    afterInitializer
    discard (repeatWhile ((!·) <$> seesWord "\x7d") (do
      b.initializer
      afterInitializer))
    expect "\x7d"
where
  afterInitializer : Parse Unit := do
    if ← seesWord "\x7d" then pure () else expect ","

def initializer : Parse Unit := do
  if ← seesWord "\x7b" then arrayInitializer b else discard b.expression

def arrayCreatorRest : Parse Unit := do
  if ← sees [.word "[", .word "]"] then
    discard bracketPairs
    arrayInitializer b
  else
    discard (repeatWhile
      (do
        let opens ← seesWord "["
        let isEmpty ← sees [.word "[", .word "]"]
        pure (opens && !isEmpty))
      (do
        expect "["
        discard b.expression
        expect "]"))
    discard bracketPairs

def createdName : Parse Unit := do
  discard (separated "." (do
    discard identifier
    if ← seesWord "<" then typeArgumentsOrDiamond b))

def creator : Parse Unit := do
  if ← seesKind .basicType then
    discard primitive
    arrayCreatorRest b
  else
    let generic ← seesWord "<"
    if generic then plainTypeArguments b
    createdName b
    if ← seesWord "[" then
      if generic then
        illegal "Array creator not allowed with generic constructor type arguments"
      arrayCreatorRest b
    else classCreatorRest b

def innerCreator : Parse Unit := do
  discard identifier
  if ← seesWord "<" then plainTypeArgumentsOrDiamond b
  classCreatorRest b

/-- The creation of an inner object, after its word. -/
def innerCreation : Parse Unit := do
  if ← seesWord "<" then plainTypeArguments b
  innerCreator b

def identifierSuffix : Parse Unit := do
  if ← accepts [.word "[", .word "]"] then
    discard bracketPairs
    expect "."
    expect "class"
  else if ← seesWord "(" then arguments b
  else if ← accepts [.word ".", .word "class"] then pure ()
  else if ← accepts [.word ".", .word "this"] then pure ()
  else if ← sees [.word ".", .word "<"] then
    skip 1
    genericInvocation b
  else if ← accepts [.word ".", .word "new"] then innerCreation b
  else if ← sees [.word ".", .word "super", .word "("] then
    skip 2
    arguments b

def selector : Parse Unit := do
  if ← acceptsWord "[" then
    discard b.expression
    expect "]"
  else if ← acceptsWord "." then
    if ← seesKind .identifier then
      discard identifier
      if ← seesWord "(" then arguments b
    else if ← sees [.word "super", .word "::"] then expect "super"
    else if ← seesWord "<" then genericInvocation b
    else if ← acceptsWord "this" then pure ()
    else if ← acceptsWord "super" then superSuffix b
    else if ← acceptsWord "new" then innerCreation b
    else illegal "Expected selector"

def primary : Parse Worth := do
  if ← seesKind .literal then Worth.literal <$> take (.kind .literal)
  else if ← seesWord "(" then parenthesized b
  else
    if ← acceptsWord "this" then
      if ← seesWord "(" then arguments b
    else if ← sees [.word "super", .word "::"] then expect "super"
    else if ← acceptsWord "super" then superSuffix b
    else if ← acceptsWord "new" then creator b
    else if ← seesWord "<" then
      plainTypeArguments b
      if ← acceptsWord "this" then arguments b else genericInvocationSuffix b
    else if ← seesKind .identifier then
      discard identifier
      discard (repeatWhile (sees [.word ".", .kind .identifier]) (skip 2))
      identifierSuffix b
    else if ← seesKind .basicType then
      discard primitive
      discard bracketPairs
      expect "."
      expect "class"
    else if ← acceptsWord "void" then
      expect "."
      expect "class"
    else illegal "Expected expression"
    pure .other

/-- Whether one of some words comes next. -/
def seesOneOf (words : List String) : Parse Bool := do
  pure (words.contains (← word))

/-- Whether a selector comes next; the text must not end here. -/
def seesSelector : Parse Bool := do
  match ← look with
  | none => halt .endAfterOperand
  | some t => pure (t.text == "[" || t.text == ".")

def plainOperand : Parse Worth := do
  let worth ← primary b
  discard (repeatWhile seesSelector (selector b))
  discard (repeatWhile (seesOneOf trailingOperators) (skip 1))
  pure worth

def operand : Parse Worth := do
  discard (repeatWhile (seesOneOf leadingOperators) (skip 1))
  if ← seesWord "(" then
    onTrial (do lambda b; pure .other) (onTrial (do cast b; pure .other) (plainOperand b))
  else plainOperand b

/-- An operator and what stands after it. -/
def operation : Parse Unit := do
  if ← acceptsWord "instanceof" then discard (type b)
  else
    let operator ← take (.kind .operator)
    if operator == ">" then
      if ← acceptsWord ">" then discard (acceptsWord ">")
    discard (operand b)

def seesOperation : Parse Bool :=
  seesOneOf ("instanceof" :: infixOperators)

/-- Operands with operators between them. -/
def operations : Parse Worth := do
  let first ← operand b
  let rest ← repeatWhile seesOperation (operation b)
  pure (if rest.isEmpty then first else .other)

def methodReference : Parse Unit := do
  if ← seesWord "<" then plainTypeArguments b
  if ← seesWord "new" then expect "new" else discard b.expression

def choice : Parse Worth := do
  let worth ← operations b
  if ← acceptsWord "?" then
    discard b.expression
    expect ":"
    discard b.choice
    pure .other
  else if ← seesWord "->" then
    lambdaBody b
    pure .other
  else if ← acceptsWord "::" then
    methodReference b
    pure .other
  else pure worth

def expression : Parse Worth := do
  let worth ← choice b
  if ← seesOneOf assignmentOperators then
    skip 1
    discard b.expression
    pure .other
  else pure worth

end BeanForge.Source.Grammar

import BeanForge.Source.Grammar.Expressions

/-!
# Grammar of statements

Statements in the bodies of methods are read to be passed over. A statement that
begins with a name is tried as a declaration of variables first.
-/

namespace BeanForge.Source.Grammar

open Parse

variable (b : Below)

def variableDeclaratorRest : Parse Unit := do
  discard bracketPairs
  if ← acceptsWord "=" then initializer b

def variableDeclarator : Parse Unit := do
  discard identifier
  variableDeclaratorRest b

def localVariables : Parse Unit := do
  variableModifiers b
  discard (type b)
  discard (separated "," (variableDeclarator b))
  expect ";"

def expressions : Parse Unit :=
  discard (separated "," b.expression)

def unlessWord (text : String) (p : Parse Unit) : Parse Unit := do
  if ← seesWord text then pure () else p

/-- Condition and update of a counting loop. -/
def loopRest : Parse Unit := do
  expect ";"
  unlessWord ";" (discard b.expression)
  expect ";"
  unlessWord ")" (expressions b)

def loopVariable : Parse Unit := do
  variableModifiers b
  discard (type b)
  discard identifier
  discard bracketPairs
  if ← acceptsWord ":" then discard b.expression
  else
    unlessWord ";" (do
      if ← acceptsWord "=" then initializer b
      discard (repeatWhile (acceptsWord ",") (variableDeclarator b)))
    loopRest b

def loopControl : Parse Unit :=
  onTrial (loopVariable b) (do
    unlessWord ";" (expressions b)
    loopRest b)

def catchClause : Parse Unit := do
  expect "catch"
  expect "("
  variableModifiers b
  discard (separated "|" qualifiedName)
  discard identifier
  expect ")"
  statementsInBraces b

def catchClauses : Parse Bool := do
  pure !(← repeatWhile (seesWord "catch") (catchClause b)).isEmpty

def finallyBlock : Parse Bool := do
  if ← acceptsWord "finally" then
    statementsInBraces b
    pure true
  else pure false

def resource : Parse Unit := do
  variableModifiers b
  discard (referenceType b)
  discard bracketPairs
  discard identifier
  discard bracketPairs
  expect "="
  discard b.expression

def resources : Parse Unit := do
  expect "("
  resource b
  afterResource
  discard (repeatWhile ((!·) <$> acceptsWord ")") (do
    resource b
    afterResource))
where
  afterResource : Parse Unit := do
    if ← seesWord ")" then pure () else expect ";"

def tryStatement : Parse Unit := do
  if ← seesWord "\x7b" then
    statementsInBraces b
    let caught ← catchClauses b
    let finished ← finallyBlock b
    if !caught && !finished then illegal "Expected catch/finally block"
  else
    resources b
    statementsInBraces b
    discard (catchClauses b)
    discard (finallyBlock b)

def switchLabel : Parse Unit := do
  let label ← next
  if label.text == "case" then
    if ← sees [.kind .identifier, .word ":"] then discard identifier else discard b.expression
  else if label.text != "default" then illegal "Expected switch case"
  expect ":"

def switchGroup : Parse Unit := do
  switchLabel b
  discard (repeatWhile (seesOneOf ["case", "default"]) (switchLabel b))
  discard (repeatWhile ((!·) <$> seesOneOf ["case", "default", "\x7d"]) b.blockStatement)

def jump : Parse Unit := do
  if ← seesKind .identifier then discard identifier
  expect ";"

def statement : Parse Unit := do
  if ← seesWord "\x7b" then statementsInBraces b
  else if ← acceptsWord ";" then pure ()
  else if ← sees [.kind .identifier, .word ":"] then
    skip 2
    b.statement
  else if ← acceptsWord "if" then
    discard (parenthesized b)
    b.statement
    if ← acceptsWord "else" then b.statement
  else if ← acceptsWord "assert" then
    discard b.expression
    if ← acceptsWord ":" then discard b.expression
    expect ";"
  else if ← acceptsWord "switch" then
    discard (parenthesized b)
    expect "\x7b"
    discard (repeatWhile (seesOneOf ["case", "default"]) (switchGroup b))
    expect "\x7d"
  else if ← acceptsWord "while" then
    discard (parenthesized b)
    b.statement
  else if ← acceptsWord "do" then
    b.statement
    expect "while"
    discard (parenthesized b)
    expect ";"
  else if ← acceptsWord "for" then
    expect "("
    loopControl b
    expect ")"
    b.statement
  else if ← acceptsWord "break" then jump
  else if ← acceptsWord "continue" then jump
  else if ← acceptsWord "return" then
    unlessWord ";" (discard b.expression)
    expect ";"
  else if ← acceptsWord "throw" then
    discard b.expression
    expect ";"
  else if ← acceptsWord "synchronized" then
    discard (parenthesized b)
    statementsInBraces b
  else if ← acceptsWord "try" then tryStatement b
  else
    discard b.expression
    expect ";"

/-- The tokens after a closing parenthesis, `depth` of which are still to come. -/
def afterParentheses (depth : Nat) : List Token → List Token
  | [] => []
  | t :: rest =>
    if t.text == "(" then afterParentheses (depth + 1) rest
    else if t.text == ")" then
      match depth with
      | 0 | 1 => rest
      | depth + 2 => afterParentheses (depth + 1) rest
    else afterParentheses depth rest

/-- The tokens after the parts of a qualified name. -/
def afterNameParts : List Token → List Token
  | dot :: part :: rest =>
    if dot.text == "." then afterNameParts rest else dot :: part :: rest
  | ts => ts

/-- What the tokens after modifiers and annotations make of a statement. -/
inductive Lead where
  | declaration
  | annotated (rest : List Token)
  | plain (rest : List Token)

/-- Look past annotations and `final`; another modifier leads to a declaration. Without
parentheses an annotation hides the token after it too. `bound` exceeds the number of tokens. -/
def lead (bound : Nat) (isAnnotated : Bool) (ts : List Token) : Lead :=
  let found := if isAnnotated then Lead.annotated ts else Lead.plain ts
  match bound, ts with
  | 0, _ => found
  | _, [] => found
  | bound + 1, t :: rest =>
    if t.kind == .modifier then
      if t.text == "final" then lead bound isAnnotated rest else .declaration
    else if isAnnotationAt ts then
      match afterNameParts (rest.drop 1) with
      | [] => .annotated []
      | next :: more =>
        if next.text == "(" then lead bound true (afterParentheses 1 more)
        else lead bound true more
    else found

def declarationWords : List String := ["class", "enum", "interface", "@"]

def leadingToken? : Lead → Option Token
  | .declaration => none
  | .annotated ts => ts.head?
  | .plain ts => ts.head?

def blockStatement : Parse Unit := do
  if ← sees [.kind .identifier, .word ":"] then statement b
  else if ← seesWord "synchronized" then statement b
  else
    let ts ← ahead
    let found := lead (ts.length + 1) false ts
    let token := leadingToken? found
    let startsDeclaration := (token.map fun t => declarationWords.contains t.text).getD false
    match found with
    | .declaration => discard b.declaration
    | .annotated _ => if startsDeclaration then discard b.declaration else localVariables b
    | .plain _ =>
      if startsDeclaration then discard b.declaration
      else if (token.map (·.kind)) == some .basicType then localVariables b
      else if (token.map (·.kind)) == some .identifier then
        onTrial (localVariables b) (statement b)
      else statement b

end BeanForge.Source.Grammar

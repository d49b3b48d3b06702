import BeanForge.Template.Number
import BeanForge.Template.Parse
import BeanForge.Template.Tree

/-!
# Grammar of template expressions

From the loosest to the tightest: choices, `or`, `and`, `not`, comparisons, sums,
concatenations, products, signs, and what follows an operand. Filters and tests
follow an operand with its sign. What a grammar needs below itself is read by the
readers of the next level down.
-/

namespace BeanForge.Template

/-- The tags that are open around a place, and the tags that may end the parts around it,
innermost first. -/
structure Enclosing where
  tags : List String := []
  expected : List (List String) := []

namespace Grammar

open Parse

/-- The readers of the next level down. -/
structure Below where
  expression : Parse Expr
  negation : Parse Expr
  signed : Parse Expr
  parts : Enclosing → List String → Parse (List Part)

/-- The end of all levels. -/
def Below.floor : Below :=
  let stop {α : Type} : Parse α := fail "Too many levels"
  ⟨stop, stop, stop, fun _ _ => stop⟩

variable (b : Below)

/-! Operands -/

def endsTuple (t : Token) : Bool :=
  t.kind == .variableEnd || t.kind == .blockEnd || t.isOperator ")"

/-- The items of a tuple after the first comma; a last comma may follow the last item. -/
def moreItems (item : Parse Expr) : Parse (List Expr) := do
  let items ← repeatWhile
    (do
      if ← acceptsOperator "," then
        pure !(← sees endsTuple)
      else pure false)
    item
  pure items

/-- A value, or a tuple of values parted by commas. -/
def tuple (item : Parse Expr) (mayBeEmpty : Bool) : Parse Expr := do
  if ← sees endsTuple then
    if mayBeEmpty then pure (.tuple [])
    else
      fail ("Expected an expression, got " ++ Text.quoted (← current).description)
  else
    let first ← item
    if ← seesOperator "," then
      let rest ← moreItems item
      pure (.tuple (first :: rest))
    else pure first

def listItems : Parse (List Expr) := do
  if ← seesOperator "]" then pure []
  else
    let first ← b.expression
    let rest ← repeatWhile
      (do
        if ← seesOperator "]" then pure false
        else
          expectOperator ","
          pure !(← seesOperator "]"))
      b.expression
    pure (first :: rest)

/-- The value that a name stands for by itself. -/
def constant? (name : String) : Option Value :=
  if name = "true" || name = "True" then some (.bool true)
  else if name = "false" || name = "False" then some (.bool false)
  else if name = "none" || name = "None" then some .null
  else none

/-- Strings in a row are one string. -/
def strings : Parse Expr := do
  let parts ← repeatWhile (sees (·.kind == .string)) next
  pure (.literal (.string (String.join (parts.map (·.text)))))

def primary : Parse Expr := do
  let t ← current
  match t.kind with
  | .name =>
    advance
    pure (match constant? t.text with
      | some value => .literal value
      | none => .name t.text)
  | .string => strings
  | .integer =>
    advance
    pure (.literal (.integer (integerValue t.text.toList)))
  | .float =>
    advance
    pure (.literal (.real (decimalValue t.text.toList)))
  | _ =>
    if ← acceptsOperator "(" then
      let inside ← tuple b.expression true
      expectOperator ")"
      pure inside
    else if ← acceptsOperator "[" then
      let items ← listItems b
      expectOperator "]"
      pure (.list items)
    else fail ("unexpected " ++ Text.quoted t.description)

/-! What follows an operand -/

/-- One argument, with its name if it has one. -/
def argument : Parse (Option String × Expr) := do
  let t ← current
  let named ← if t.kind = .name then (·.isOperator "=") <$> peek else pure false
  if named then
    advance
    advance
    (some t.text, ·) <$> b.expression
  else (none, ·) <$> b.expression

/-- The arguments so far and one more; no argument without a name follows one with a name. -/
def oneMoreArgument (line : Nat) (known : List (Option String × Expr)) :
    Parse (Option (List (Option String × Expr))) := do
  if ← seesOperator ")" then pure none
  else
    if !known.isEmpty then expectOperator ","
    if ← seesOperator ")" then pure none
    else
      let t ← current
      let named ← if t.kind = .name then (·.isOperator "=") <$> peek else pure false
      if !named && known.any (·.1.isSome) then
        failAt "invalid syntax for function call expression" line
      else
        let more ← argument b
        pure (some (known ++ [more]))

def arguments : Parse (List (Option String × Expr)) := do
  let opening ← current
  expectOperator "("
  let all ← grow (oneMoreArgument b opening.line) []
  expectOperator ")"
  pure all

def optionalArguments : Parse (List (Option String × Expr)) := do
  if ← seesOperator "(" then arguments b else pure []

/-- A member or item of an owner, by name or position after a dot. -/
def dotted (owner : Expr) : Parse Expr := do
  let t ← next
  match t.kind with
  | .name => pure (.member owner t.text)
  | .integer => pure (.item owner (.literal (.integer (integerValue t.text.toList))))
  | _ => failAt "expected name or number" t.line

/-- An item between brackets; several indexes make a tuple. -/
def bracketed (owner : Expr) : Parse Expr := do
  if ← acceptsOperator "]" then pure (.item owner (.tuple []))
  else
    let first ← b.expression
    let rest ← repeatWhile
      (do
        if ← seesOperator "]" then pure false
        else
          expectOperator ","
          pure true)
      b.expression
    expectOperator "]"
    pure (.item owner (if rest.isEmpty then first else .tuple (first :: rest)))

def selection? (owner : Expr) : Parse (Option Expr) := do
  if ← acceptsOperator "." then some <$> dotted owner
  else if ← acceptsOperator "[" then some <$> bracketed b owner
  else if ← seesOperator "(" then
    let given ← arguments b
    pure (some (.call owner given))
  else pure none

def selections (owner : Expr) : Parse Expr :=
  grow (selection? b) owner

def dottedName : Parse Token := do
  let first ← expectKind .name
  let rest ← repeatWhile (acceptsOperator ".") (expectKind .name)
  pure { first with text := ".".intercalate (first.text :: rest.map (·.text)) }

def filter (input : Expr) : Parse Expr := do
  let name ← dottedName
  let given ← optionalArguments b
  pure (.filter input name.text given name.line)

/-- Whether a test may take the token as the beginning of its argument. -/
def beginsArgument (t : Token) : Bool :=
  match t.kind with
  | .name => t.text != "else" && t.text != "or" && t.text != "and"
  | .string | .integer | .float => true
  | _ => t.isOperator "(" || t.isOperator "[" || t.isOperator "\x7b"

def testArguments : Parse (List (Option String × Expr)) := do
  if ← seesOperator "(" then arguments b
  else if ← sees beginsArgument then
    if ← seesName "is" then fail "You cannot chain multiple tests with is"
    else
      let operand ← primary b
      let operand ← selections b operand
      pure [(none, operand)]
  else pure []

def test (input : Expr) (line : Nat) : Parse Expr := do
  let negated ← acceptsName "not"
  let name ← dottedName
  let given ← testArguments b
  let result := Expr.test input name.text given line
  pure (if negated then .inverse result else result)

/-- What may follow an operand with its sign. -/
def refinement? (input : Expr) : Parse (Option Expr) := do
  if ← acceptsOperator "|" then some <$> filter b input
  else if ← seesName "is" then
    let t ← next
    some <$> test b input t.line
  else if ← seesOperator "(" then
    let given ← arguments b
    pure (some (.call input given))
  else pure none

/-! Operators -/

def signed : Parse Expr := do
  if ← acceptsOperator "-" then
    let operand ← b.signed
    selections b (.negative operand)
  else if ← acceptsOperator "+" then
    let operand ← b.signed
    selections b (.positive operand)
  else
    let operand ← primary b
    selections b operand

def operand : Parse Expr := do
  let e ← signed b
  grow (refinement? b) e

/-- Operands with operators between them, taken from the left. -/
def leftToRight (operators : List Operator) (operand : Parse Expr) : Parse Expr := do
  let first ← operand
  grow (fun left => do
    let t ← current
    match if t.kind = .operator then operators.find? (·.sign == t.text) else none with
    | some operator =>
      advance
      let right ← operand
      pure (some (.arithmetic operator left right))
    | none => pure none) first

def product : Parse Expr :=
  leftToRight [.multiply, .floorDivide, .remainder] (operand b)

def concatenation : Parse Expr := do
  let first ← product b
  let rest ← repeatWhile (acceptsOperator "~") (product b)
  pure (if rest.isEmpty then first else .concatenation (first :: rest))

def sum : Parse Expr :=
  leftToRight [.add, .subtract] (concatenation b)

def comparisonSigns : List (String × Comparison) :=
  [("==", .equal), ("!=", .unequal), ("<", .less), ("<=", .lessOrEqual), (">", .greater),
    (">=", .greaterOrEqual)]

/-- The comparison that begins here, its words taken. -/
def comparison? : Parse (Option Comparison) := do
  let t ← current
  match if t.kind = .operator then comparisonSigns.lookup t.text else none with
  | some sign =>
    advance
    pure (some sign)
  | none =>
    if ← acceptsName "in" then pure (some .within)
    else if t.isName "not" then
      if (← peek).isName "in" then
        advance
        advance
        pure (some .notWithin)
      else pure none
    else pure none

def comparison : Parse Expr := do
  let first ← sum b
  let others ← grow (fun known => do
    match ← comparison? with
    | some sign =>
      let right ← sum b
      pure (some (known ++ [(sign, right)]))
    | none => pure none) []
  pure (if others.isEmpty then first else .comparison first others)

def negation : Parse Expr := do
  if ← acceptsName "not" then .inverse <$> b.negation else comparison b

def conjunction : Parse Expr := do
  let first ← negation b
  grow (fun left => do
    if ← acceptsName "and" then
      let right ← negation b
      pure (some (.both left right))
    else pure none) first

def disjunction : Parse Expr := do
  let first ← conjunction b
  grow (fun left => do
    if ← acceptsName "or" then
      let right ← conjunction b
      pure (some (.either left right))
    else pure none) first

/-- A value that is taken on a condition, with the line on which it begins. -/
def choice? (value : Expr × Nat) : Parse (Option (Expr × Nat)) := do
  if ← acceptsName "if" then
    let condition ← disjunction b
    let otherwise ← if ← acceptsName "else" then some <$> b.expression else pure none
    let t ← current
    pure (some (.choice condition value.1 otherwise value.2, t.line))
  else pure none

def expression : Parse Expr := do
  let t ← current
  let first ← disjunction b
  let (e, _) ← grow (choice? b) (first, t.line)
  pure e

end Grammar

end BeanForge.Template

import BeanForge.Template.Membership

/-!
# Constants in templates

An expression without names has its value before any variable is known. A
template is folded: every part of an expression that has a value of its own is
replaced by that value, innermost parts first. Alternatives that a constant
condition rules out are never looked at.
-/

namespace BeanForge.Template

/-- Why an expression has no value of its own. -/
inductive Unfit where
  | variable
  /-- Something is asked of a value that is not there, outside of any operation. -/
  | absent (message : String)

namespace Value

mutual

/-- Whether a value can be written down as a literal. -/
def isPlain : Value → Bool
  | null | bool _ | integer _ | real _ | string _ => true
  | tuple items => arePlain items
  | list items => arePlain items
  | _ => false

def arePlain : List Value → Bool
  | [] => true
  | v :: rest => isPlain v && arePlain rest

end

end Value

namespace Expr

/-- What goes wrong inside an operation leaves it to be done later. -/
def attempt {α : Type} (outcome : Except Unfit (Rendered α)) : Except Unfit α :=
  match outcome with
  | .ok (.ok a) => .ok a
  | _ => .error .variable

/-- What goes wrong with a condition or a text by itself is told at once. -/
def demand {α : Type} (outcome : Rendered α) : Except Unfit α :=
  match outcome with
  | .ok a => .ok a
  | .error (.absent message) => .error (.absent message)
  | .error _ => .error .variable

def filtered (name : String) (input : Value) (given : List (Option String × Value)) :
    Except Unfit Value :=
  match Filter.named? name with
  | none | some .map => .error .variable
  | some f => attempt (.ok (f.apply input (unnamed given) (named given)).alone)

def tested (name : String) (input : Value) (given : List (Option String × Value)) :
    Except Unfit Value :=
  match Test.named? name with
  | none => .error .variable
  | some t => attempt (.ok (t.apply input (unnamed given) (named given)))

mutual

/-- The value of an expression without names. -/
def constant : Expr → Except Unfit Value
  | literal value => .ok value
  | name _ => .error .variable
  | tuple items => .tuple <$> constants items
  | list items => .list <$> constants items
  | member owner word => attempt ((·.member word) <$> constant owner)
  | item owner index =>
    match constant owner, constant index with
    | .ok owner, .ok index => attempt (.ok (owner.item index))
    | _, _ => .error .variable
  | call _ _ => .error .variable
  | filter input word arguments _ => do
    let given ← constantArguments arguments
    filtered word (← constant input) given
  | test input word arguments _ => do
    let given ← constantArguments arguments
    tested word (← constant input) given
  | negative operand => attempt (Value.negative <$> constant operand)
  | positive operand => attempt (Value.positive <$> constant operand)
  | inverse operand =>
    attempt ((fun v => (fun b => Value.bool !b) <$> v.truth) <$> constant operand)
  | arithmetic operator left right =>
    match constant left, constant right with
    | .ok a, .ok b => attempt (.ok (Value.arithmetic operator a b))
    | _, _ => .error .variable
  | concatenation parts => do
    let values ← constants parts
    demand (Value.concatenation values)
  | comparison first others => do
    let first ← constant first
    constantComparisons first others
  | both left right => do
    let a ← constant left
    if ← demand a.truth then constant right else pure a
  | either left right => do
    let a ← constant left
    if ← demand a.truth then pure a else constant right
  | choice condition value otherwise _ => do
    let c ← constant condition
    if ← demand c.truth then constant value
    else match otherwise with
      | some e => constant e
      | none => .error .variable

def constants : List Expr → Except Unfit (List Value)
  | [] => .ok []
  | e :: rest => do
    let v ← constant e
    pure (v :: (← constants rest))

def constantArguments : List (Option String × Expr) → Except Unfit (List (Option String × Value))
  | [] => .ok []
  | (label, e) :: rest => do
    let v ← constant e
    pure ((label, v) :: (← constantArguments rest))

def constantComparisons (left : Value) : List (Comparison × Expr) → Except Unfit Value
  | [] => .ok (.bool true)
  | (how, e) :: rest =>
    match constant e with
    | .error _ => .error .variable
    | .ok right =>
      match (Value.comparison how left right).alone with
      | .error _ => .error .variable
      | .ok false => .ok (.bool false)
      | .ok true => constantComparisons right rest

end

/-! Folding -/

/-- The literal that an expression amounts to, or the message of what is not there. -/
def settled (e : Expr) : Except String Expr :=
  match e.constant with
  | .ok value => .ok (if value.isPlain then .literal value else e)
  | .error .variable => .ok e
  | .error (.absent message) => .error message

mutual

/-- The expression with its constant parts replaced by their values. -/
def folded : Expr → Except String Expr
  | literal value => .ok (literal value)
  | name word => .ok (name word)
  | tuple items => do settled (tuple (← foldedAll items))
  | list items => do settled (list (← foldedAll items))
  | member owner word => do settled (member (← folded owner) word)
  | item owner index => do
    let owner ← folded owner
    settled (item owner (← folded index))
  | call function arguments => do
    let function ← folded function
    pure (call function (← foldedArguments arguments))
  | filter input word arguments line => do
    let input ← folded input
    settled (filter input word (← foldedArguments arguments) line)
  | test input word arguments line => do
    let input ← folded input
    settled (test input word (← foldedArguments arguments) line)
  | negative operand => do settled (negative (← folded operand))
  | positive operand => do settled (positive (← folded operand))
  | inverse operand => do settled (inverse (← folded operand))
  | arithmetic operator left right => do
    let left ← folded left
    settled (arithmetic operator left (← folded right))
  | concatenation parts => do settled (concatenation (← foldedAll parts))
  | comparison first others => do
    let first ← folded first
    settled (comparison first (← foldedOthers others))
  | both left right => do
    let left ← folded left
    settled (both left (← folded right))
  | either left right => do
    let left ← folded left
    settled (either left (← folded right))
  | choice condition value otherwise line => do
    let condition ← folded condition
    let value ← folded value
    match otherwise with
    | some e => do settled (choice condition value (some (← folded e)) line)
    | none => settled (choice condition value none line)

def foldedAll : List Expr → Except String (List Expr)
  | [] => .ok []
  | e :: rest => do
    let e ← folded e
    pure (e :: (← foldedAll rest))

def foldedArguments : List (Option String × Expr) → Except String (List (Option String × Expr))
  | [] => .ok []
  | (label, e) :: rest => do
    let e ← folded e
    pure ((label, e) :: (← foldedArguments rest))

def foldedOthers : List (Comparison × Expr) → Except String (List (Comparison × Expr))
  | [] => .ok []
  | (how, e) :: rest => do
    let e ← folded e
    pure ((how, e) :: (← foldedOthers rest))

end

/-- The text that a printed expression always yields. -/
def constantText? (e : Expr) : Option String :=
  match e.constant with
  | .ok value => value.text.toOption
  | .error _ => none

/-- The folded expression; one that cannot be folded stays as it is. -/
def fold (e : Expr) : Expr :=
  match e.folded with
  | .ok e => e
  | .error _ => e

end Expr

/-- The filter with its arguments folded. -/
def Refinement.fold (r : Refinement) : Refinement :=
  { r with arguments := r.arguments.map fun (label, e) => (label, e.fold) }

namespace Part

mutual

/-- The part with its expressions folded; a print of a constant is text. -/
def folded : Part → Part
  | text content => text content
  | print value =>
    match value.constantText? with
    | some content => text content
    | none => print value.fold
  | assign target value => assign target value.fold
  | capture target refinements body =>
    capture target (refinements.map Refinement.fold) (foldedAll body)
  | branch alternatives otherwise =>
    branch (foldedAlternatives alternatives) (foldedAll otherwise)
  | loop target source condition body otherwise =>
    loop target source.fold (condition.map Expr.fold) (foldedAll body) (foldedAll otherwise)
  | insert name optional => insert name.fold optional

def foldedAll : List Part → List Part
  | [] => []
  | p :: rest => folded p :: foldedAll rest

def foldedAlternatives : List (Expr × List Part) → List (Expr × List Part)
  | [] => []
  | (condition, body) :: rest =>
    (condition.fold, foldedAll body) :: foldedAlternatives rest

end

end Part

end BeanForge.Template

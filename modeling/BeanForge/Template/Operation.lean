import BeanForge.Placeholder.Fill
import BeanForge.Template.Feature
import BeanForge.Template.Tree

/-!
# Operations on values

Members and items, arithmetic and order. Where a value is not there, its message
is the outcome of nearly every operation.
-/

namespace BeanForge.Template

open Text

namespace Value

/-! Members and items -/

def undefinedName (name : String) : Value :=
  absent (quoted name ++ " is undefined") false

def noMember (owner : Value) (name : String) : Value :=
  absent (quoted owner.ownerName ++ " has no attribute " ++ quoted name) false

def noElement (owner index : Value) : Value :=
  absent (owner.ownerName ++ " has no element " ++ String.ofList index.shownInside) false

/-- The state of a loop by name; the last round is known only when the next one is looked for. -/
def loopMember? (index total : Nat) (fault : Option RenderFault) (previous next : Value)
    (name : String) : Rendered (Option Value) :=
  let told (needed : Bool) (value : Value) : Rendered (Option Value) :=
    match fault with
    | some f => if needed then .error f else .ok (some value)
    | none => .ok (some value)
  match name with
  | "index" => .ok (some (integer (index + 1)))
  | "index0" => .ok (some (integer index))
  | "first" => .ok (some (bool (index == 0)))
  | "last" => told (index + 1 == total) (bool (index + 1 == total))
  | "length" => told true (integer total)
  | "revindex" => told true (integer (total - index))
  | "revindex0" => told true (integer (total - index - 1))
  | "previtem" => .ok (some previous)
  | "nextitem" => told (index + 1 == total) next
  | "depth" => .ok (some (integer 1))
  | "depth0" => .ok (some (integer 0))
  | _ => .ok none

/-- A member that a value has by itself. -/
def ownMember? (owner : Value) (name : String) : Rendered (Option Value) := do
  match owner.feature? name, owner with
  | some value, _ => pure (some value)
  | none, loop index total fault previous next =>
    loopMember? index total fault previous next name
  | none, absent message _ => .error (.absent message)
  | none, _ => pure none

/-- The item at a position; negative positions count from the end. -/
def at? {α : Type} (items : List α) (index : Int) : Option α :=
  if 0 ≤ index then items[index.toNat]?
  else if index.natAbs ≤ items.length then items[items.length - index.natAbs]?
  else none

/-- The item of a dictionary under a key that can be looked up. -/
def keyed? (entries : List (String × Value)) (index : Value) : Rendered (Option Value) :=
  match index.checkKey, index with
  | .error (.absent message), _ => .error (.absent message)
  | .error _, _ => .ok none
  | .ok (), string name => .ok (Keyed.get? name entries)
  | .ok (), _ => .ok none

/-- An item that a container holds. -/
def ownItem? (owner index : Value) : Rendered (Option Value) :=
  match owner, index with
  | absent message _, _ => .error (.absent message)
  | dict entries, index => keyed? entries index
  | tuple items, index => .ok (index.int?.bind (at? items))
  | list items, index => .ok (index.int?.bind (at? items))
  | string s, index =>
    .ok ((index.int?.bind (at? s.toList)).map fun c => string (String.singleton c))
  | _, _ => .ok none

/-- A member is looked for among the members of a value and then among its items. -/
def member (owner : Value) (name : String) : Rendered Value := do
  match ← owner.ownMember? name with
  | some value => pure value
  | none => pure ((← owner.ownItem? (string name)).getD (owner.noMember name))

/-- An item is looked for among the items of a value and, under a name, among its members. -/
def item (owner index : Value) : Rendered Value := do
  match ← owner.ownItem? index with
  | some value => pure value
  | none =>
    match index with
    | string name => pure ((← owner.ownMember? name).getD (owner.noMember name))
    | index => pure (owner.noElement index)

/-! Arithmetic -/

/-- Both values must be there; the first one that is not is told. -/
def presence (a b : Value) : Rendered Unit :=
  match a.absence?, b.absence? with
  | some message, _ => .error (.absent message)
  | none, some message => .error (.absent message)
  | none, none => .ok ()

def join (a b : Value) : Rendered Value :=
  match a, b with
  | string s, string t => .ok (string (s ++ t))
  | list xs, list ys => .ok (list (xs ++ ys))
  | tuple xs, tuple ys => .ok (tuple (xs ++ ys))
  | string _, b => Rendered.misuse (.concatenation "str" b.kindName)
  | list _, b => Rendered.misuse (.concatenation "list" b.kindName)
  | tuple _, b => Rendered.misuse (.concatenation "tuple" b.kindName)
  | a, b => Rendered.misuse (.operands "+" a.kindName b.kindName)

/-- A sequence several times in a row. -/
def repeated? (a : Value) (times : Int) : Option Value :=
  match a with
  | string s => some (string (String.join (List.replicate times.toNat s)))
  | list items => some (list (List.replicate times.toNat items).flatten)
  | tuple items => some (tuple (List.replicate times.toNat items).flatten)
  | _ => none

def isSequence : Value → Bool
  | string _ | list _ | tuple _ => true
  | _ => false

/-- A product in which a sequence is repeated. -/
def repetition (a b : Value) : Rendered Value :=
  if a.isSequence then
    match b.int?.bind a.repeated? with
    | some value => .ok value
    | none => Rendered.misuse (.repetition b.kindName)
  else if b.isSequence then
    match a.int?.bind b.repeated? with
    | some value => .ok value
    | none => Rendered.misuse (.repetition a.kindName)
  else Rendered.misuse (.operands "*" a.kindName b.kindName)

def onIntegers (operator : Operator) (m n : Int) : Rendered Value :=
  match operator with
  | .add => .ok (integer (m + n))
  | .subtract => .ok (integer (m - n))
  | .multiply => .ok (integer (m * n))
  | .floorDivide => if n = 0 then Rendered.misuse .divisionByZero else .ok (integer (m.fdiv n))
  | .remainder => if n = 0 then Rendered.misuse .remainderByZero else .ok (integer (m.fmod n))

def onReals (operator : Operator) (x y : Binary64) : Rendered Value :=
  match operator with
  | .add => .ok (real (x.add y))
  | .subtract => .ok (real (x.sub y))
  | .multiply => .ok (real (x.mul y))
  | .floorDivide =>
    if y.isZero then Rendered.misuse .fractionDivisionByZero else .ok (real (x.floorQuotient y))
  | .remainder =>
    if y.isZero then Rendered.misuse .fractionRemainderByZero else .ok (real (x.remainder y))

/-- Whole numbers stay whole, and beside a fraction they count as fractions. -/
def onNumbers (operator : Operator) : Number → Number → Rendered Value
  | .whole m, .whole n => onIntegers operator m n
  | m, n =>
    match m.real?, n.real? with
    | some x, some y => onReals operator x y
    | _, _ => Rendered.misuse .tooLarge

/-! Texts with places -/

def nature : Value → Placeholder.Nature RenderFault
  | string s => .text s
  | absent message _ => .absent (.absent message)
  | value =>
    match value.number? with
    | some n => .number n
    | none => .other

/-- A value as something to put in a place. -/
def placed (value : Value) : Placeholder.Argument RenderFault where
  kind := value.kindName
  nature := value.nature
  plain := value.text
  inside := .ok (String.ofList value.shownInside)

/-- The arguments that a value stands for: a tuple has several, and what has keys gives one by
name. -/
def supply : Value → Placeholder.Supply RenderFault
  | tuple items => { left := items.map placed }
  | dict entries =>
    { left := [(dict entries).placed]
      named? := some fun name =>
        match Keyed.get? name entries with
        | some value => .ok value.placed
        | none => Rendered.misuse (.noKey (quoted name)) }
  | list items =>
    { left := [(list items).placed], named? := some fun _ => Rendered.misuse (.wrongIndex "list") }
  | absent message lenient =>
    { left := [(absent message lenient).placed]
      named? := some fun _ => .error (.absent message) }
  | value => { left := [value.placed] }

/-- A text with values in its places. -/
def fillIn (format : String) (value : Value) : Rendered Value :=
  match Placeholder.fill format value.supply with
  | .ok text => .ok (string text)
  | .error (.mismatch m) => Rendered.misuse (.placement m)
  | .error (.argument e) => .error e

def arithmetic (operator : Operator) (a b : Value) : Rendered Value :=
  match operator, a with
  | .remainder, string format => fillIn format b
  | operator, a => do
    presence a b
    match a.number?, b.number? with
    | some m, some n => onNumbers operator m n
    | _, _ =>
      match operator with
      | .add => join a b
      | .multiply => repetition a b
      | operator => Rendered.misuse (.operands operator.sign a.kindName b.kindName)

def signed (sign : String) (ofInt : Int → Int) (ofReal : Binary64 → Binary64) (a : Value) :
    Rendered Value :=
  match a with
  | absent message _ => .error (.absent message)
  | real x => .ok (real (ofReal x))
  | a =>
    match a.int? with
    | some n => .ok (integer (ofInt n))
    | none => Rendered.misuse (.operand sign a.kindName)

def negative (a : Value) : Rendered Value := a.signed "-" (- ·) Binary64.neg

def positive (a : Value) : Rendered Value := a.signed "+" id id

/-- The texts of values in a row. -/
def concatenation (parts : List Value) : Rendered Value := do
  pure (string (String.join (← parts.mapM text)))

/-! Comparisons -/

def ordered (sign : String) (holds : Ordering → Bool) (a b : Value) : Rendered Bool := do
  match ← order a b with
  | .known o => pure ((o.map holds).getD false)
  | .unordered left right => Rendered.misuse (.unordered sign left right)

end Value

end BeanForge.Template

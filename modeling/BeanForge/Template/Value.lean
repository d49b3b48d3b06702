import BeanForge.Accessor
import BeanForge.Binary64.Text
import BeanForge.Json.Display
import BeanForge.Keyed
import BeanForge.Template.RenderFault

/-!
# Values in templates

What expressions yield. A value that is not there is a value too, which fails as
soon as something is done with it. A series gives each of its items once, so that
it is known here by its number only.
-/

namespace BeanForge.Template

open Text

inductive Value where
  | null
  | bool (value : Bool)
  | integer (value : Int)
  | real (x : Binary64)
  | string (value : String)
  | tuple (items : List Value)
  | list (items : List Value)
  | dict (entries : List (String × Value))
  | field (f : Field)
  /-- The items that a filter makes of others, one by one. -/
  | series (number : Nat)
  /-- A function that goes with values of a kind. -/
  | function (name : String)
  /-- A function that goes with one record, or with its kind, which is told as a text. -/
  | method (name owner : String)
  /-- A kind of values, by its full name. -/
  | kind (name : String)
  /-- The template at work, by its name. -/
  | template (label : Option String)
  /-- The state of a loop: the round at work, from zero, the number of rounds, what goes wrong
  after them, and the items around the one at work. -/
  | loop (index total : Nat) (fault : Option RenderFault) (previous next : Value)
  /-- A value that is not there; a lenient one is empty when it is printed or tested. -/
  | absent (message : String) (lenient : Bool)
  deriving Repr, Inhabited

/-- Where items come from: they are all there, or a series gives them. -/
inductive Source where
  | items (left : List Value)
  | series (number : Nat)
  deriving Repr, Inhabited

namespace Value

mutual

def ofJson : Json → Value
  | .null => null
  | .bool b => bool b
  | .integer n => integer n
  | .real x => real x
  | .string s => string s
  | .array items => list (ofItems items)
  | .object members => dict (ofMembers members)

def ofItems : List Json → List Value
  | [] => []
  | j :: rest => ofJson j :: ofItems rest

def ofMembers : List (String × Json) → List (String × Value)
  | [] => []
  | (name, j) :: rest => (name, ofJson j) :: ofMembers rest

end

/-- The full name of the kind of fields. -/
def fieldKind : String := "entitygen.core.types.FieldEntry"

/-- The name of a value's kind in messages about the wrong kind. -/
def kindName : Value → String
  | null => "NoneType"
  | bool _ => "bool"
  | integer _ => "int"
  | real _ => "float"
  | string _ => "str"
  | tuple _ => "tuple"
  | list _ => "list"
  | dict _ => "dict"
  | field _ => "FieldEntry"
  | series _ => "generator"
  | function _ => "builtin_function_or_method"
  | method _ _ => "method"
  | kind name => if name = fieldKind then "ModelMetaclass" else "type"
  | template _ => "TemplateReference"
  | loop _ _ _ _ _ => "LoopContext"
  | absent _ lenient => if lenient then "Undefined" else "StrictUndefined"

/-- The name of a value's kind with the place where the kind is known. -/
def fullKindName : Value → String
  | field _ => fieldKind
  | kind name =>
    if name = fieldKind then "pydantic._internal._model_construction.ModelMetaclass" else "type"
  | loop _ _ _ _ _ => "jinja2.runtime.LoopContext"
  | template _ => "jinja2.runtime.TemplateReference"
  | absent _ lenient => if lenient then "jinja2.runtime.Undefined" else "jinja2.runtime.StrictUndefined"
  | value => value.kindName

/-- What messages about a missing member call the owner. -/
def ownerName : Value → String
  | null => "None"
  | value => value.fullKindName ++ " object"

/-! Fields as values -/

def fieldMembers (f : Field) : List (String × Value) :=
  [("name", string f.name), ("type_name", string f.typeName),
    ("is_identifier", bool f.isIdentifier),
    ("getter_prefix", match f.getterWord with
      | some word => string word
      | none => null)]

/-! Texts -/

def shownFlag (b : Bool) : List Char :=
  if b then "True".toList else "False".toList

/-- The members of a field with their values, parted by a text. -/
def shownField (separator : String) (f : Field) : List Char :=
  "name=".toList ++ quotedChars f.name.toList ++ separator.toList ++
    "type_name=".toList ++ quotedChars f.typeName.toList ++ separator.toList ++
    "is_identifier=".toList ++ shownFlag f.isIdentifier ++ separator.toList ++
    "getter_prefix=".toList ++ (match f.getterWord with
      | some word => quotedChars word.toList
      | none => "None".toList)

/-- A field as it stands inside other values. -/
def shownRecord (f : Field) : List Char :=
  "FieldEntry(".toList ++ shownField ", " f ++ [')']

def shownLoop (index total : Nat) : List Char :=
  "<LoopContext ".toList ++ natDigits (index + 1) ++ '/' :: natDigits total ++ ['>']

def shownFunction (name : String) : List Char :=
  "<built-in function ".toList ++ name.toList ++ ['>']

def shownMethod (name owner : String) : List Char :=
  "<bound method ".toList ++ name.toList ++ " of ".toList ++ owner.toList ++ ['>']

def shownKind (name : String) : List Char :=
  "<class ".toList ++ quotedChars name.toList ++ ['>']

def shownTemplate (label : Option String) : List Char :=
  "<TemplateReference ".toList ++ (match label with
    | some name => quotedChars name.toList
    | none => "None".toList) ++ ['>']

mutual

/-- The form of a value inside another one. -/
def shownInside : Value → List Char
  | null => "None".toList
  | bool b => shownFlag b
  | integer n => intDigits n
  | real x => x.digits
  | string s => quotedChars s.toList
  | tuple [] => ['(', ')']
  | tuple [item] => '(' :: shownInside item ++ [',', ')']
  | tuple items => '(' :: shownItems items ++ [')']
  | list items => '[' :: shownItems items ++ [']']
  | dict entries => '\x7b' :: shownEntries entries ++ ['\x7d']
  | field f => shownRecord f
  | series _ => "<generator object>".toList
  | function name => shownFunction name
  | method name owner => shownMethod name owner
  | kind name => shownKind name
  | template label => shownTemplate label
  | loop index total _ _ _ => shownLoop index total
  | absent _ _ => "Undefined".toList

def shownItems : List Value → List Char
  | [] => []
  | [item] => shownInside item
  | item :: rest => shownInside item ++ ',' :: ' ' :: shownItems rest

def shownEntries : List (String × Value) → List Char
  | [] => []
  | [(name, value)] => quotedChars name.toList ++ ':' :: ' ' :: shownInside value
  | (name, value) :: rest =>
    quotedChars name.toList ++ ':' :: ' ' :: shownInside value ++ ',' :: ' ' :: shownEntries rest

end

mutual

/-- Whether the form of a value can be written. -/
def isWritable : Value → Bool
  | integer n => n.natAbs < tooLongToWrite
  | tuple items => areWritable items
  | list items => areWritable items
  | dict entries => haveWritable entries
  | _ => true

def areWritable : List Value → Bool
  | [] => true
  | v :: rest => isWritable v && areWritable rest

def haveWritable : List (String × Value) → Bool
  | [] => true
  | (_, v) :: rest => isWritable v && haveWritable rest

end

/-- The form of a value inside a text. -/
def inside (value : Value) : Rendered String :=
  if value.isWritable then .ok (String.ofList value.shownInside) else Rendered.misuse .unwritable

/-- The text that is printed for a value. -/
def text : Value → Rendered String
  | string s => .ok s
  | field f => .ok (String.ofList (shownField " " f))
  | absent message lenient => if lenient then .ok "" else .error (.absent message)
  | value => value.inside

/-! Views -/

/-- Whether a condition on the value holds. -/
def truth : Value → Rendered Bool
  | null => .ok false
  | bool b => .ok b
  | integer n => .ok (n != 0)
  | real x => .ok !x.isZero
  | string s => .ok (s != "")
  | tuple items => .ok !items.isEmpty
  | list items => .ok !items.isEmpty
  | dict entries => .ok !entries.isEmpty
  | absent message lenient => if lenient then .ok false else .error (.absent message)
  | _ => .ok true

/-- The items of a value; a text has its characters and a dictionary its keys. -/
def source : Value → Rendered Source
  | string s => .ok (.items (s.toList.map fun c => string (String.singleton c)))
  | tuple items => .ok (.items items)
  | list items => .ok (.items items)
  | dict entries => .ok (.items (entries.map fun e => string e.1))
  | field f => .ok (.items ((fieldMembers f).map fun (name, value) => tuple [string name, value]))
  | series number => .ok (.series number)
  | absent message lenient => if lenient then .ok (.items []) else .error (.absent message)
  | value => Rendered.misuse (.notIterable value.kindName)

/-- The number of a value that counts as a whole number. -/
def int? : Value → Option Int
  | bool b => some (if b then 1 else 0)
  | integer n => some n
  | _ => none

def number? : Value → Option Number
  | real x => some (.real x)
  | value => value.int?.map .whole

/-- The message of a value that is not there. -/
def absence? : Value → Option String
  | absent message _ => some message
  | _ => none

/-! Equality -/

/-- The message of a value whose equality with another cannot be asked for. -/
def strictAbsence? : Value → Option String
  | absent message lenient => if lenient then none else some message
  | _ => none

/-- Equality of values that have no parts. -/
def sameScalar (a b : Value) : Rendered Bool :=
  match a.strictAbsence?, b.strictAbsence? with
  | some message, _ => .error (.absent message)
  | none, some message => .error (.absent message)
  | none, none =>
    match a.number?, b.number? with
    | some m, some n => .ok (m.same n)
    | _, _ =>
      .ok (match a, b with
        | null, null => true
        | string s, string t => s == t
        | field f, field g => f == g
        | function f, function g => f == g
        | method f x, method g y => f == g && x == y
        | template x, template y => x == y
        | kind k, kind l => k == l
        | series m, series n => m == n
        | absent _ _, absent _ _ => true
        | _, _ => false)

mutual

/-- Equality of values; numbers of different kinds may be equal. -/
def same : Value → Value → Rendered Bool
  | tuple xs, b => match b with
    | tuple ys => sameItems xs ys
    | b => sameScalar (tuple xs) b
  | list xs, b => match b with
    | list ys => if xs.length = ys.length then sameItems xs ys else .ok false
    | b => sameScalar (list xs) b
  | dict xs, b => match b with
    | dict ys => if xs.length = ys.length then sameEntries xs ys else .ok false
    | b => sameScalar (dict xs) b
  | a, b => sameScalar a b

/-- Items are compared in order, up to the first that differ. -/
def sameItems : List Value → List Value → Rendered Bool
  | [], ys => .ok ys.isEmpty
  | x :: xs, ys => match ys with
    | y :: ys =>
      match same x y with
      | .ok true => sameItems xs ys
      | outcome => outcome
    | [] => .ok false

def sameEntries : List (String × Value) → List (String × Value) → Rendered Bool
  | [], _ => .ok true
  | (name, x) :: xs, ys => match Keyed.get? name ys with
    | some y =>
      match same x y with
      | .ok true => sameEntries xs ys
      | outcome => outcome
    | none => .ok false

end

/-! Order -/

/-- The order of two values: none if they are not ordered, as what is no number. -/
inductive Order where
  | known (o : Option Ordering)
  /-- The kinds of the parts that have no order. -/
  | unordered (left right : String)

/-- The order of values that have no parts. -/
def orderScalar (a b : Value) : Rendered Order :=
  match a.absence?, b.absence? with
  | some message, _ => .error (.absent message)
  | none, some message => .error (.absent message)
  | none, none =>
    match a.number?, b.number? with
    | some m, some n => .ok (.known (m.order? n))
    | _, _ =>
      match a, b with
      | string s, string t => .ok (.known (some (compare s t)))
      | _, _ => .ok (.unordered a.kindName b.kindName)

mutual

def order : Value → Value → Rendered Order
  | tuple xs, b => match b with
    | tuple ys => orderItems xs ys
    | b => orderScalar (tuple xs) b
  | list xs, b => match b with
    | list ys => orderItems xs ys
    | b => orderScalar (list xs) b
  | a, b => orderScalar a b

/-- The first items that differ decide, and then the number of items. -/
def orderItems : List Value → List Value → Rendered Order
  | [], ys => .ok (.known (some (if ys.isEmpty then .eq else .lt)))
  | x :: xs, ys => match ys with
    | [] => .ok (.known (some .gt))
    | y :: ys =>
      match same x y with
      | .ok true => orderItems xs ys
      | .ok false => order x y
      | .error e => .error e

end

/-! Keys -/

mutual

/-- Whether a value can be looked up among keys: only what cannot change can. -/
def checkKey : Value → Rendered Unit
  | list _ => Rendered.misuse (.unhashable "list")
  | dict _ => Rendered.misuse (.unhashable "dict")
  | absent message lenient => if lenient then .ok () else .error (.absent message)
  | tuple items => checkKeys items
  | _ => .ok ()

def checkKeys : List Value → Rendered Unit
  | [] => .ok ()
  | v :: rest =>
    match checkKey v with
    | .ok () => checkKeys rest
    | .error e => .error e

end

end Value

end BeanForge.Template

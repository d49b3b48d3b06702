import BeanForge.Entity
import BeanForge.Text.Decimal

/-!
# Validation

Methods, fields and interfaces read from raw values. Every issue is reported
with the path to the value, in the order of the members; a raw value without
issues yields a domain value.
-/

namespace BeanForge

inductive Step where
  | member (name : String)
  | item (index : Nat)
  deriving Repr, DecidableEq

inductive Trouble where
  | missing
  | notText
  | notList
  | notRecord (kind : String)
  | unreadableFlag
  | notFlag
  | repeated (name : String)
  deriving Repr, DecidableEq

namespace Trouble

def code : Trouble → String
  | missing => "missing"
  | notText => "string_type"
  | notList => "tuple_type"
  | notRecord _ => "model_type"
  | unreadableFlag => "bool_parsing"
  | notFlag => "bool_type"
  | repeated _ => "value_error"

def message : Trouble → String
  | missing => "Field required"
  | notText => "Input should be a valid string"
  | notList => "Input should be a valid tuple"
  | notRecord kind => "Input should be a valid dictionary or instance of " ++ kind
  | unreadableFlag => "Input should be a valid boolean, unable to interpret input"
  | notFlag => "Input should be a valid boolean"
  | repeated name => "Value error, Duplicate field name: " ++ name

end Trouble

structure Issue where
  trouble : Trouble
  path : List Step := []
  deriving Repr, DecidableEq

/-- A value, or all issues found on the way to it. -/
abbrev Checked (α : Type) := Except (List Issue) α

namespace Checked

def issue {α : Type} (t : Trouble) : Checked α :=
  .error [⟨t, []⟩]

def issues {α : Type} : Checked α → List Issue
  | .ok _ => []
  | .error is => is

/-- Issues of a part are found below the step that leads to it. -/
def below {α : Type} (step : Step) : Checked α → Checked α
  | .ok a => .ok a
  | .error is => .error (is.map fun i => { i with path := step :: i.path })

/-- Both parts, or the issues of both in order. -/
def both {α β : Type} (a : Checked α) (b : Checked β) : Checked (α × β) :=
  match a, b with
  | .ok a, .ok b => .ok (a, b)
  | .ok _, .error is => .error is
  | .error is, .ok _ => .error is
  | .error is, .error js => .error (is ++ js)

/-- A further argument for a checked function. -/
def apply {α β : Type} (f : Checked (α → β)) (a : Checked α) : Checked β :=
  (both f a).map fun (f, a) => f a

def itemsFrom {α β : Type} (check : α → Checked β) (index : Nat) : List α → Checked (List β)
  | [] => .ok []
  | a :: rest =>
    (both (below (.item index) (check a)) (itemsFrom check (index + 1) rest)).map
      fun (b, bs) => b :: bs

def items {α β : Type} (check : α → Checked β) (as : List α) : Checked (List β) :=
  itemsFrom check 0 as

end Checked

namespace Json

open Checked

def checkText : Json → Checked String
  | .string s => .ok s
  | _ => issue .notText

def checkTextOrNull : Json → Checked (Option String)
  | .null => .ok none
  | value => some <$> checkText value

def trueWords : List String := ["1", "on", "t", "true", "y", "yes"]
def falseWords : List String := ["0", "off", "f", "false", "n", "no"]

/-- Words and the numbers one and zero stand for flags too. -/
def checkFlag : Json → Checked Bool
  | .bool b => .ok b
  | .integer n => ofInt n
  | .real x =>
    match x.whole? with
    | some n => if isStrictlySmall n then ofInt n else issue .notFlag
    | none => issue .notFlag
  | .string s =>
    let word := String.ofList (s.toList.map Char.toLower)
    if trueWords.contains word then .ok true
    else if falseWords.contains word then .ok false
    else issue .unreadableFlag
  | _ => issue .notFlag
where
  /-- Whether a number is nearer to zero than the lowest number of sixty-four bits. -/
  isStrictlySmall (n : Int) : Bool :=
    n.natAbs < 0x8000000000000000
  ofInt (n : Int) : Checked Bool :=
    if n = 1 then .ok true
    else if n = 0 then .ok false
    else if isStrictlySmall n || n = -0x8000000000000000 then issue .unreadableFlag
    else issue .notFlag

def checkFlagOrNull : Json → Checked (Option Bool)
  | .null => .ok none
  | value => some <$> checkFlag value

def checkList {α : Type} (check : Json → Checked α) : Json → Checked (List α)
  | .array values => items check values
  | _ => issue .notList

/-- A member that must be given. -/
def required {α : Type} (record : Json) (name : String) (check : Json → Checked α) : Checked α :=
  below (.member name) (match record.member? name with
    | some value => check value
    | none => issue .missing)

/-- A member with a default. -/
def optional {α : Type} (record : Json) (name : String) (default : α)
    (check : Json → Checked α) : Checked α :=
  match record.member? name with
  | some value => below (.member name) (check value)
  | none => .ok default

def isRecord : Json → Bool
  | .object _ => true
  | _ => false

/-- A method that does not say whether it is an identifier takes the marker's raw flag. -/
def rawIdentifierFlag (record : Json) : Json :=
  match record.member? "is_identifier" with
  | some value => value
  | none =>
    match record.member? "identifier" with
    | none | some .null => .bool false
    | some value => value

def checkMethod (raw : Json) : Checked Method :=
  if raw.isRecord then
    apply (apply (apply (apply (apply (.ok Method.mk)
      (raw.required "name" checkText))
      (raw.optional "return_type_name" voidType checkText))
      (raw.optional "parameter_type_names" [] (checkList checkText)))
      (raw.optional "identifier" none checkFlagOrNull))
      (below (.member "is_identifier") (checkFlag raw.rawIdentifierFlag))
  else issue (.notRecord "MethodDescriptor")

def checkField (raw : Json) : Checked Field :=
  if raw.isRecord then
    apply (apply (apply (apply (.ok Field.mk)
      (raw.required "name" checkText))
      (raw.required "type_name" checkText))
      (raw.optional "is_identifier" false checkFlag))
      (raw.optional "getter_prefix" none checkTextOrNull)
  else issue (.notRecord "FieldEntry")

def checkInterface (raw : Json) : Checked Interface :=
  if raw.isRecord then
    apply (apply (apply (apply (.ok Interface.mk)
      (raw.required "interface_name" checkText))
      (raw.optional "package_name" "" checkText))
      (raw.optional "methods" [] (checkList checkMethod)))
      (raw.optional "source" none checkTextOrNull)
  else issue (.notRecord "BatchEntry")

/-- The names are compared once every field is valid. -/
def checkTable (raw : Json) : Checked FieldTable :=
  match checkList checkField raw with
  | .error is => .error is
  | .ok fields =>
    match FieldTable.ofFields fields with
    | .ok table => .ok table
    | .error name => issue (.repeated name)

def checkEntity (package interfaceName : Json) (table : FieldTable) : Checked Entity :=
  apply (apply (.ok fun package name => ⟨package, name, table⟩)
    (below (.member "package_name") (checkText package)))
    (below (.member "source_type_name") (checkText interfaceName))

end Json

def Method.toJson (m : Method) : Json :=
  .object [("name", .string m.name), ("return_type_name", .string m.returnType),
    ("parameter_type_names", .strings m.parameterTypes),
    ("identifier", (m.identifier.map Json.bool).getD .null),
    ("is_identifier", .bool m.isIdentifier)]

def Field.toJson (f : Field) : Json :=
  .object [("name", .string f.name), ("type_name", .string f.typeName),
    ("is_identifier", .bool f.isIdentifier), ("getter_prefix", .ofOption f.getterWord)]

def Interface.toJson (i : Interface) : Json :=
  .object [("interface_name", .string i.name), ("package_name", .string i.package),
    ("methods", .array (i.methods.map Method.toJson)), ("source", .ofOption i.source)]

end BeanForge

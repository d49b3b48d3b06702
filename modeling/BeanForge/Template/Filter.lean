import BeanForge.Member
import BeanForge.Template.Value
import BeanForge.Text.CharClass

/-!
# Filters

Functions that templates apply to values: those that name and compare the
members of a generated class, and general ones on texts and items. Tests are
functions of their own, which only ask.
-/

namespace BeanForge.Template

open Text

inductive Filter where
  | capitalizeFirst
  | initialValue
  | getterName
  | setterName
  | equality
  | hash
  | display
  | join
  | map
  | upper
  | lower
  | length
  | first
  | default
  deriving Repr, DecidableEq

/-- What a function takes, and what messages call it. -/
structure Signature where
  function : String
  /-- What every call is given first, by no template. -/
  hidden : List String := []
  parameters : List String
  required : Nat := 1

namespace Signature

def checkNamed (s : Signature) (given : Nat) : List (String × Value) → Rendered Unit
  | [] => .ok ()
  | (name, _) :: rest =>
    if s.hidden.contains name then Rendered.misuse (.repeatedArgument s.function name)
    else if !s.parameters.contains name then Rendered.misuse (.strangeArgument s.function name)
    else if s.parameters.idxOf name < given then Rendered.misuse (.repeatedArgument s.function name)
    else s.checkNamed given rest

/-- The value of each parameter that is given one. -/
def assign (s : Signature) (given : List Value) (named : List (String × Value)) :
    Rendered (List (Option Value)) := do
  s.checkNamed given.length named
  if s.parameters.length < given.length then
    Rendered.misuse (.surplusArguments s.function (s.hidden.length + s.required)
      (s.hidden.length + s.parameters.length) (s.hidden.length + given.length))
  else
    pure (given.map some ++ (s.parameters.drop given.length).map (Keyed.get? · named))

end Signature

/-- Arguments given by position. -/
def unnamed {α : Type} (given : List (Option String × α)) : List α :=
  given.filterMap fun (name, value) => if name.isNone then some value else none

/-- Arguments given by name. -/
def named {α : Type} (given : List (Option String × α)) : List (String × α) :=
  given.filterMap fun (name, value) => name.map (·, value)

namespace Filter

def all : List Filter :=
  [capitalizeFirst, initialValue, getterName, setterName, equality, hash, display, join, map, upper,
    lower, length, first, default]

def name : Filter → String
  | capitalizeFirst => "capitalize_first"
  | initialValue => "java_default"
  | getterName => "getter_name"
  | setterName => "setter_name"
  | equality => "equals_expr"
  | hash => "hash_expr"
  | display => "string_expr"
  | join => "join"
  | map => "map"
  | upper => "upper"
  | lower => "lower"
  | length => "length"
  | first => "first"
  | default => "default"

def named? (name : String) : Option Filter :=
  all.find? (·.name == name)

def signature : Filter → Signature
  | capitalizeFirst => ⟨"capitalize_first", [], ["name"], 1⟩
  | initialValue => ⟨"java_default", [], ["field"], 1⟩
  | getterName => ⟨"getter_name", [], ["field"], 1⟩
  | setterName => ⟨"setter_name", [], ["field"], 1⟩
  | equality => ⟨"equals_expr", [], ["field", "other"], 1⟩
  | hash => ⟨"hash_expr", [], ["field"], 1⟩
  | display => ⟨"string_expr", [], ["field"], 1⟩
  | join => ⟨"sync_do_join", ["eval_ctx"], ["value", "d", "attribute"], 1⟩
  | map => ⟨"sync_do_map", ["context"], ["value"], 1⟩
  | upper => ⟨"do_upper", [], ["s"], 1⟩
  | lower => ⟨"do_lower", [], ["s"], 1⟩
  | length => ⟨"len", [], ["obj"], 1⟩
  | first => ⟨"sync_do_first", ["environment"], ["seq"], 1⟩
  | default => ⟨"do_default", [], ["value", "default_value", "boolean"], 1⟩

/-! Members of a class -/

/-- The field a filter works on; `member` is what it asks a value for first. -/
def fieldOf (member : String) : Value → Rendered Field
  | .field f => .ok f
  | .absent message _ => .error (.absent message)
  | value => Rendered.misuse (.noMember value.kindName member)

def ofField (member : String) (text : Field → String) (input : Value) : Rendered Value := do
  pure (.string (text (← fieldOf member input)))

/-- A text is taken as the name of a type. -/
def initial : Value → Rendered Value
  | .string typeName => .ok (.string (BeanForge.initialValue typeName))
  | value => ofField "type_name" (fun f => BeanForge.initialValue f.typeName) value

def capitalized : Value → Rendered Value
  | .string s => .ok (.string (Text.capitalized s))
  | .absent message _ => .error (.absent message)
  | .list _ => Rendered.misuse (.noMember "list" "upper")
  | .tuple _ => Rendered.misuse (.noMember "tuple" "upper")
  | .dict _ => Rendered.misuse (.unhashable "slice")
  | value => Rendered.misuse (.notSubscriptable value.kindName)

def equalityOf (input : Value) (other : Option Value) : Rendered Value := do
  let f ← fieldOf "name" input
  let other ← match other with
    | some value => value.text
    | none => pure "other"
  pure (.string (f.equality other))

/-! Single values -/

def size : Value → Rendered Value
  | .string s => .ok (.integer s.length)
  | .tuple items => .ok (.integer items.length)
  | .list items => .ok (.integer items.length)
  | .dict entries => .ok (.integer entries.length)
  | .loop _ total none _ _ => .ok (.integer total)
  | .loop _ _ (some e) _ _ => .error e
  | .absent message lenient => if lenient then .ok (.integer 0) else .error (.absent message)
  | value => Rendered.misuse (.lengthless value.kindName)

/-- A value that is not there is replaced, and with a flag also one that does not count. -/
def defaulted (input : Value) (instead flag : Option Value) : Rendered Value := do
  let instead := instead.getD (.string "")
  match input with
  | .absent _ _ => pure instead
  | input =>
    if ← (flag.getD (.bool false)).truth then
      pure (if ← input.truth then input else instead)
    else pure input

end Filter

/-! Tests -/

/-- What templates ask about a value. -/
inductive Test where
  | defined
  | undefined
  | none
  deriving Repr, DecidableEq

namespace Test

def name : Test → String
  | defined => "defined"
  | undefined => "undefined"
  | none => "none"

def named? (name : String) : Option Test :=
  [defined, undefined, none].find? (·.name == name)

def signature (test : Test) : Signature :=
  ⟨"test_" ++ test.name, [], ["value"], 1⟩

def holds (test : Test) (input : Value) : Bool :=
  match test with
  | defined => input.absence?.isNone
  | undefined => input.absence?.isSome
  | none => match input with
    | .null => true
    | _ => false

def apply (test : Test) (input : Value) (given : List Value) (named : List (String × Value)) :
    Rendered Value := do
  discard (test.signature.assign (input :: given) named)
  pure (.bool (test.holds input))

end Test

end BeanForge.Template

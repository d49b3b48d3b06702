import BeanForge.Json.Basic
import BeanForge.Keyed

/-!
# Signatures

What has to be told of a failure, in order: values come by position first and by
name after that. Every value is told once, and those that are required are told.
-/

namespace BeanForge.Failure

structure Signature where
  call : String
  required : List String
  optional : List String := []
  /-- What is told by name only. -/
  named : List String := []
  /-- Whether more may be told under other names. -/
  takesOthers : Bool := false
  deriving Repr, DecidableEq

inductive Misfit where
  | strange (call name : String)
  | repeated (call name : String)
  | repeatedNamed (call name : String)
  | surplus (s : Signature) (given named : Nat)
  | missing (call : String) (names : List String)
  | notJoinable
  | notText (index : Nat) (kind : String)
  deriving Repr, DecidableEq

namespace Misfit

def plural (n : Nat) : String :=
  if n = 1 then "" else "s"

/-- Names one after the other, the last one after an "and". -/
def listing : List String → String
  | [] => ""
  | [a] => a
  | [a, b] => a ++ " and " ++ b
  | names => ", ".intercalate names.dropLast ++ ", and " ++ names.getLast?.getD ""

/-- The one who fills in the signature counts as its first value. -/
def surplusText (s : Signature) (given named : Nat) : String :=
  let least := s.required.length + 1
  let most := least + s.optional.length
  s.call ++ "() takes " ++
    (if least = most then toString most else "from " ++ toString least ++ " to " ++ toString most) ++
    " positional argument" ++ (if least = most then plural most else "s") ++ " but " ++
    toString given ++
    (if named = 0 then "" else
      " positional argument" ++ plural given ++ " (and " ++ toString named ++
        " keyword-only argument" ++ plural named ++ ")") ++
    (if given = 1 && named = 0 then " was" else " were") ++ " given"

def message : Misfit → String
  | strange call name => call ++ "() got an unexpected keyword argument '" ++ name ++ "'"
  | repeated call name => call ++ "() got multiple values for argument '" ++ name ++ "'"
  | repeatedNamed call name =>
    call ++ "() got multiple values for keyword argument '" ++ name ++ "'"
  | surplus s given named => surplusText s given named
  | missing call names =>
    call ++ "() missing " ++ toString names.length ++ " required positional argument" ++
      plural names.length ++ ": " ++ listing (names.map fun name => "'" ++ name ++ "'")
  | notJoinable => "can only join an iterable"
  | notText index kind =>
    "sequence item " ++ toString index ++ ": expected str instance, " ++ kind ++ " found"

end Misfit

abbrev Members := List (String × Json)

/-- What has been told: under the names of a signature, and under others. -/
structure Told where
  known : Members
  others : Members := []

namespace Told

def get? (t : Told) (name : String) : Option Json :=
  Keyed.get? name t.known

def get (t : Told) (name : String) : Json :=
  (t.get? name).getD .null

end Told

namespace Signature

def ordered (s : Signature) : List String :=
  s.required ++ s.optional

/-- Add what is told by name. -/
def addNamed (s : Signature) (t : Told) : Members → Except Misfit Told
  | [] => .ok t
  | (name, value) :: rest =>
    if name == "self" || (s.ordered ++ s.named).contains name then
      if name == "self" || (Keyed.keys t.known).contains name then .error (.repeated s.call name)
      else addNamed s { t with known := t.known ++ [(name, value)] } rest
    else if s.takesOthers then addNamed s { t with others := t.others ++ [(name, value)] } rest
    else .error (.strange s.call name)

def fill (s : Signature) (values : List Json) (named : Members) : Except Misfit Told := do
  let t ← s.addNamed { known := s.ordered.zip values } named
  let namedOnly := (Keyed.keys t.known).countP s.named.contains
  if s.ordered.length < values.length then
    throw (.surplus s (values.length + 1) namedOnly)
  match s.required.filter fun name => !(Keyed.keys t.known).contains name with
  | [] => pure t
  | names => throw (.missing s.call names)

end Signature

end BeanForge.Failure

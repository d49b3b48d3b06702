import BeanForge.Entity
import BeanForge.Log.Refusal
import BeanForge.Log.Value

/-!
# Log contexts

Fields that every record of a scope carries. A scope starts from the fields
around it or from fields of its own, and what happens inside it is forgotten
when it ends.
-/

namespace BeanForge.Log

/-- The fields of a scope that are known by name, and others. -/
structure Subject where
  interface : Option Value := none
  template : Option Value := none
  artifact : Option Value := none
  others : Fields := []

namespace Subject

def named (name : String) : Option Value → Fields
  | none => []
  | some value => if value.isNull then [] else [(name, value)]

def fields (s : Subject) : Fields :=
  Keyed.update (named "interface" s.interface ++ named "template" s.template ++
    named "artifact" s.artifact) s.others

/-- The subject of an interface; its source is told when it is known. -/
def ofInterface (i : Interface) : Subject where
  interface := some (.ofString i.qualifiedName)
  others :=
    match i.source with
    | none | some "" => []
    | some source => [("source", .ofString source)]

end Subject

/-! Fields from values -/

/-- A value that stands for a name and the field under it; `index` is its place in the row. -/
def pairOf (index : Nat) (item : Json) : Except Refusal (String × Value) :=
  match item.items? with
  | none => .error (.notPair index)
  | some [name, value] =>
    if name.isComposite then .error (.unhashable name.kindName) else .ok (name.shown, .json value)
  | some items => .error (.wrongLength index items.length)

def pairsOf (index : Nat) : List Json → Except Refusal Fields
  | [] => .ok []
  | item :: rest => do
    let pair ← pairOf index item
    pure (pair :: (← pairsOf (index + 1) rest))

/-- The fields that a value stands for: the members of an object, or pairs. -/
def fieldsOf : Value → Except Refusal Fields
  | .json (.object members) => .ok (members.map fun (name, value) => (name, .json value))
  | .json value =>
    match value.items? with
    | some items => pairsOf 0 items
    | none => .error (.notIterable value.kindName)
  | value => .error (.notIterable value.kindName)

def Subject.knownNames : List String := ["interface", "template", "artifact", "extra"]

/-- The subject that fields describe, all of them by known names. -/
def Subject.ofFields (given : Fields) : Except Refusal Subject := do
  match (Keyed.keys given).find? fun name => !knownNames.contains name with
  | some name => .error (.strangeArgument "LogContext.__init__" name)
  | none =>
    let others ← match Keyed.get? "extra" given with
      | some value => fieldsOf value
      | none => pure []
    pure ⟨Keyed.get? "interface" given, Keyed.get? "template" given,
      Keyed.get? "artifact" given, others⟩

/-- What a scope starts from. -/
inductive Opening where
  | surrounding
  | fields (start : Fields)
  | subject (s : Subject)

namespace Opening

def start (outer : Fields) : Opening → Fields
  | surrounding => outer
  | fields start => start
  | subject s => s.fields

/-- The fields inside a scope that is opened with further fields. -/
def enter (outer : Fields) (opening : Opening) (more : Fields) : Fields :=
  Keyed.update (opening.start outer) more

/-- An opening from a value: nothing, or an object of fields. -/
def ofValue : Value → Except Refusal Opening
  | .json .null => .ok surrounding
  | .json (.object members) => .ok (fields (members.map fun (name, value) => (name, .json value)))
  | .json (.array _) => .error (.noMember "list" "update")
  | value => .error (.noMember value.kindName "copy")

end Opening

/-- The current fields, and those to come back to, innermost first. -/
structure Scopes where
  current : Fields := []
  outer : List Fields := []

namespace Scopes

def enter (s : Scopes) (opening : Opening) (more : Fields) : Scopes :=
  ⟨opening.enter s.current more, s.current :: s.outer⟩

def leave (s : Scopes) : Scopes :=
  match s.outer with
  | [] => s
  | fields :: rest => ⟨fields, rest⟩

/-- Enter a scope whose further fields do not say again what it starts from. -/
def enter? (s : Scopes) (opening : Opening) (more : Fields) : Except Refusal Scopes :=
  if (Keyed.keys more).contains "context" then
    .error (.repeatedArgument "with_log_context" "context")
  else .ok (s.enter opening more)

/-- Leave a scope, if one is entered. -/
def leave? (s : Scopes) : Except Refusal Scopes :=
  if s.outer.isEmpty then .error .noScope else .ok s.leave

def update (s : Scopes) (more : Fields) : Scopes :=
  { s with current := Keyed.update s.current more }

@[simp] theorem leave_enter (s : Scopes) (opening : Opening) (more : Fields) :
    (s.enter opening more).leave = s := rfl

end Scopes

end BeanForge.Log

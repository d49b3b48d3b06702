import BeanForge.Template.Application
import BeanForge.Template.Tree
import BeanForge.Text.Compatible

/-!
# Scopes

Names are looked up from the inside out, and what is given a value inside a loop
is forgotten when its round ends. A name that a scope gives a value to before it
reads it has none until then, even if a variable of that name was handed in.
Inside a template all spellings of a name are one.
-/

namespace BeanForge.Template

/-- The names of one scope. -/
structure Frame where
  /-- The names that are read or given values anywhere in the scope. -/
  touched : List String := []
  /-- The values given so far, by plain name; one without is still to get its value. -/
  values : List (String × Option Value) := []

structure Scope where
  /-- What was handed to the template. -/
  bindings : List (String × Value)
  /-- The scopes around the place at work, innermost first. -/
  frames : List Frame := []
  /-- The name of the template, if it has one. -/
  label : Option String := none

namespace Scope

def touches (s : Scope) (name : String) : Bool :=
  s.frames.any (·.touched.contains name)

def known? (plain : String) : List Frame → Option (Option Value)
  | [] => none
  | f :: rest =>
    match Keyed.get? plain f.values with
    | some value => some value
    | none => known? plain rest

def value? (s : Scope) (name : String) : Option Value :=
  match known? (Text.plainName name) s.frames with
  | some value => value
  | none => (Keyed.get? name s.bindings).or (Value.global? name)

def value (s : Scope) (name : String) : Value :=
  (s.value? name).getD (.undefinedName name)

def plainValues (given : List (String × Value)) : List (String × Option Value) :=
  given.map fun (name, value) => (Text.plainName name, some value)

/-- The scope of some parts, in which certain names have values from the start. -/
def enter (s : Scope) (given : List (String × Value)) (body : List Part) : Scope :=
  let names := Keyed.keys given
  let pending := (Part.writtenFirstIn names body).filter (!s.touches ·)
  let frame : Frame :=
    { touched := names ++ Part.touchedIn body
      values := plainValues given ++ pending.map fun name => (Text.plainName name, none) }
  { s with frames := frame :: s.frames }

def assignIn (plain : String) (value : Value) : List Frame → List Frame
  | [] => []
  | f :: rest => { f with values := Keyed.put plain (some value) f.values } :: rest

def assign (s : Scope) (name : String) (value : Value) : Scope :=
  { s with frames := assignIn (Text.plainName name) value s.frames }

def assignAll (s : Scope) (given : List (String × Value)) : Scope :=
  given.foldl (fun s (name, value) => s.assign name value) s

/-- The values of a scope by all spellings that it uses. -/
def spelled (f : Frame) : List (String × Value) :=
  f.touched.filterMap fun name =>
    ((Keyed.get? (Text.plainName name) f.values).join).map (name, ·)

/-- The variables of a template that is inserted here. -/
def visible (s : Scope) : List (String × Value) :=
  s.frames.reverse.foldl (fun known f => Keyed.update known (spelled f)) s.bindings

end Scope

namespace Target

/-- The items of a value that is taken apart; a series is asked for one more than is expected. -/
def parts (expected : Nat) (v : Value) : Rendering (List Value) :=
  match v.source with
  | .error (.misuse (.notIterable kind)) =>
    (Rendered.misuse (.notUnpackable kind) : Rendered (List Value))
  | .error e => (.error e : Rendered (List Value))
  | .ok source => do
    let s ← Filter.read.upTo (expected + 1) source
    if expected < s.all.length then Rendered.misuse (.tooManyItems expected)
    else
      let all ← s.complete
      if all.length < expected then Rendered.misuse (.tooFewItems expected all.length)
      else pure all

/-- No value has members that a template may give values to. -/
def checkOwners (t : Target) : Rendered Unit :=
  if t.owners.isEmpty then .ok ()
  else .error (.refused "cannot assign attribute on non-namespace object")

mutual

/-- The values of the names in a target. -/
def bind (s : Scope) : Target → Value → Rendering (List (String × Value))
  | name text _, v => pure [(text, v)]
  | member owner _, _ =>
    Rendered.misuse (.unassignable (match s.value? owner with
      | some value => value.kindName
      | none => "MissingType"))
  | tuple targets, v => do
    let values ← parts targets.length v
    bindAll s targets values

def bindAll (s : Scope) : List Target → List Value → Rendering (List (String × Value))
  | [], _ => pure []
  | t :: rest, values =>
    match values with
    | [] => pure []
    | v :: more => do
      let known ← bind s t v
      pure (Keyed.update known (← bindAll s rest more))

end

end Target

end BeanForge.Template

import BeanForge.Failure
import BeanForge.Fault
import BeanForge.FileTree.Basic
import BeanForge.Template.Bundled
import BeanForge.Template.Check
import BeanForge.Template.Grammar.Parts
import BeanForge.Template.Lexer
import BeanForge.Template.Run

/-!
# Template libraries

Templates are looked up by name in the folders of a library, in order, and at
last among the bundled ones. A template that is inserted is looked up in the same
way.
-/

namespace BeanForge.Template

/-- The parts of a template text with their constants folded, or why it is refused. -/
def parse (style : Style) (text : String) : Except Refusal (List Part) := do
  let parts ← Grammar.template (tokens style text)
  match Check.inParts false parts with
  | [] => pure (Part.foldedAll parts)
  | refusal :: _ => .error refusal

/-- A template that is ready to run. -/
structure Handle where
  name : String
  /-- The name that the template knows itself by; a text that was handed in has none. -/
  label : Option String := none
  parts : List Part

structure Library where
  tree : FileTree
  folders : List String := []
  style : Style := {}
  /-- Whether templates are remembered by name. -/
  remembers : Bool := true
  /-- Why no template can be parsed at all. -/
  fault? : Option Fault := none

/-- Why a template is not read. -/
inductive Obstacle where
  | missing
  | undecodable (u : Text.Utf8.Undecodable)
  | refused (refusal : Refusal)
  | faulty (f : Fault)
  deriving Repr, DecidableEq

namespace Library

/-- What messages call the folder of the bundled templates. -/
def bundledFolder : String := "<bundled>"

def searchPath (l : Library) : List String :=
  l.folders ++ [bundledFolder]

/-- The names along a template's name; nothing above a folder is ever found. -/
def steps? (name : String) : Option (List String) :=
  let names := (Text.splitAt '/' name.toList).map String.ofList
  if names.contains ".." then none
  else some (names.filter fun name => name != "" && name != ".")

/-- The bytes of the first file under a name. -/
def bytes? (tree : FileTree) (steps : List String) : List String → Option Text.Bytes
  | [] => none
  | folder :: rest =>
    match tree.walk ((Path.ofString folder).join ⟨.here, steps⟩) with
    | .ok (some (.file bytes)) => some bytes
    | _ => bytes? tree steps rest

def text (l : Library) (name : String) : Except Obstacle String :=
  match steps? name with
  | none => .error .missing
  | some steps =>
    match bytes? l.tree steps l.folders with
    | some bytes =>
      match Text.Utf8.decode bytes with
      | .ok cs => .ok (String.ofList cs)
      | .error u => .error (.undecodable u)
    | none => if steps = [Bundled.name] then .ok Bundled.text else .error .missing

def parsed (l : Library) (text : String) : Except Obstacle (List Part) :=
  match l.fault? with
  | some f => .error (.faulty f)
  | none => (parse l.style text).mapError .refused

def parts (l : Library) (name : String) : Except Obstacle (List Part) := do
  l.parsed (← l.text name)

/-- What ends an operation that needs a template. -/
def stop (l : Library) (name : String) : Obstacle → Stop
  | .missing => .failure (.templateNotFound name (some l.searchPath))
  | .undecodable u => .fault (.undecodable u)
  | .refused (.malformed fault) =>
    .failure (.templateSyntax name fault.reason (some fault.line))
  | .refused (.badNumber fault) => .fault (.badNumber fault.category fault.message)
  | .refused (.absent message) => .fault (.missingValue message)
  | .faulty f => .fault f

/-! Templates by name -/

/-- The template under a name; without a name the usual one is meant. -/
def resolve (l : Library) (usual : Except Fault String) (name : Option String) :
    Except Stop Handle := do
  let name ← match name with
    | none | some "" => usual.mapError Stop.fault
    | some name => pure name
  let parts ← (l.parts name).mapError (l.stop name)
  pure ⟨name, some name, parts⟩

/-- A template given by its text. -/
def ofText (l : Library) (text name : String) : Except Stop Handle :=
  ((l.parsed text).mapError (l.stop name)).map fun parts => ⟨name, none, parts⟩

/-! Inserted templates -/

def inserted (l : Library) (name : String) : Rendered (String × List Part) :=
  match l.parts name with
  | .ok parts => .ok (name, parts)
  | .error .missing => .error (.templateMissing (some name))
  | .error (.undecodable u) => Rendered.misuse (.undecodable u)
  | .error (.refused (.malformed fault)) => .error (.refused fault.reason)
  | .error (.refused (.badNumber fault)) =>
    Rendered.misuse (.badNumber fault.category fault.message)
  | .error (.refused (.absent message)) => .error (.absent message)
  | .error (.faulty f) => .error (.refused f.message)

/-- The template that one of several values names; only what can be looked up is remembered. -/
def candidate (l : Library) (value : Value) : Rendered (String × List Part) := do
  if l.remembers then value.checkKey
  match value with
  | .string name => l.inserted name
  | .absent message _ => .error (.absent message)
  | value => Rendered.misuse (.noMember value.kindName "split")

/-- The first of several templates that is there. -/
def firstThere? (l : Library) : List Value → Rendered (Option (String × List Part))
  | [] => .ok none
  | value :: rest =>
    match l.candidate value with
    | .ok found => .ok (some found)
    | .error (.templateMissing _) | .error (.absent _) => l.firstThere? rest
    | .error e => .error e

/-- What is told when none of the templates that a value lists is there: the last one is named. -/
def noneThere (value : Value) : RenderFault :=
  let ofLast (items : List Value) : RenderFault :=
    match items.getLast? with
    | some (.string name) => .templateMissing (some name)
    | some (.absent message false) => .missingName message
    | _ => .templateMissing none
  match value with
  | .tuple items => ofLast items
  | .list items => ofLast items
  | .dict _ => .misuse (.noKey "-1")
  | value => .misuse (.notSubscriptable value.kindName)

/-- The template that a value names, or the first one there of those it lists. -/
def chosen (l : Library) (value : Value) : Rendering (String × List Part) := do
  match value with
  | .string name => l.inserted name
  | .absent message _ => (.error (.absent message) : Rendered (String × List Part))
  | value =>
    if ← value.truth then
      let source ← value.source
      let all ← (← Filter.read.items source).complete
      match ← l.firstThere? all with
      | some found => pure found
      | none => (.error (noneThere value) : Rendered (String × List Part))
    else (.error (.templateMissing none) : Rendered (String × List Part))

/-- Whether a template that may be missing is. -/
def isMissing : RenderFault → Bool
  | .templateMissing _ | .missingName _ => true
  | _ => false

/-- Templates are inserted up to a depth; one that may be missing yields nothing if it is. -/
def insertion (l : Library) : Nat → Insertion
  | 0 => fun _ _ _ => Rendered.misuse .tooDeep
  | depth + 1 => fun name optional bindings feeds =>
    match l.chosen name feeds with
    | .error e => if optional && isMissing e then .ok ("", feeds) else .error e
    | .ok ((label, parts), feeds) => textOf (l.insertion depth) (some label) bindings parts feeds

/-- How deep templates may be inserted in each other. -/
def depthBound : Nat := 900

end Library

namespace Handle

/-- Why a template yields no text. -/
def stop (h : Handle) : RenderFault → Stop
  | .templateMissing (some "") => .failure (.templateNotFound h.name none)
  | .templateMissing (some name) => .failure (.templateNotFound name none)
  | .templateMissing none => .failure (.templateNotFound h.name none)
  | .missingName message => .fault (.missingValue message)
  | .absent message =>
    .failure (.rendering h.name (if message = "" then "undefined variable" else message))
  | .refused message => .failure (.rendering h.name message)
  | .misuse m => .failure (.rendering h.name (m.category ++ ": " ++ m.text))

def render (h : Handle) (l : Library) (bindings : List (String × Value)) : Except Stop String :=
  (textOf (l.insertion Library.depthBound) h.label bindings h.parts).alone.mapError h.stop

end Handle

end BeanForge.Template

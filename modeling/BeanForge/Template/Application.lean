import BeanForge.Template.Series

/-!
# Filters at work

Filters on items read the series that they are given. A filter may be named as an
argument of another one, which then applies it to every item.
-/

namespace BeanForge.Template

namespace Mapping

/-- The item that a mapping makes of an item. -/
def on (apply : Application) (item : Value) : Mapping → Rendering Value
  | .follow path instead => memberAt instead item path
  | .filter f given named => apply f item given named
  | .unknown name => unknownName name

end Mapping

namespace Filter

/-- The next item of a series; `depth` bounds how deep series take from each other. -/
def next (apply : Application) : Nat → Reader
  | 0, _ => Rendered.misuse .tooDeep
  | depth + 1, number => do
    match (← get)[number]? with
    | none => pure none
    | some feed =>
      match ← feed.begun with
      | .giving (.items (v :: rest)) mapping =>
        modify (·.set number (.giving (.items rest) mapping))
        some <$> mapping.on apply v
      | .giving (.series other) mapping =>
        modify (·.set number (.giving (.series other) mapping))
        match ← next apply depth other with
        | some v => some <$> mapping.on apply v
        | none =>
          modify (·.set number (.giving (.items []) mapping))
          pure none
      | feed =>
        modify (·.set number feed)
        pure none

/-- The texts of items, up to what goes wrong. -/
def textsOf (s : Items) : Rendered (List String) := do
  let shown ← (s.map fun v => Value.string <$> v.text).complete
  shown.mapM Value.text

section

variable (read : Reader)

def firstItem (input : Value) : Rendering Value := do
  let source ← input.source
  match ← read.first? source with
  | some v => pure v
  | none => pure (.absent "No first item, sequence was empty." false)

/-- The values of a member that is asked for of the items of a value. -/
def members (input member : Value) : Rendering Items := do
  let path ← Mapping.path member
  let source ← input.source
  let s ← read.items source
  pure (s.map (Mapping.memberAt .null · path))

/-- The texts of items, or of a member of each, with a text between them. -/
def joined (input : Value) (separator member : Option Value) : Rendering Value := do
  let separator := separator.getD (.string "")
  let (separator, s) ← match member with
    | none | some .null => do
      let separator ← separator.text
      let source ← input.source
      pure (separator, ← read.items source)
    | some member => do
      let s ← members read input member
      pure (← separator.text, s)
  pure (.string (separator.intercalate (← textsOf s)))

/-- Apply a filter whose arguments are values of its own. -/
def applyPlain : Application := fun filter input given named => do
  let arguments ← filter.signature.assign (input :: given) named
  let argument (n : Nat) : Option Value := (arguments[n]?).join
  match filter with
  | capitalizeFirst => capitalized input
  | initialValue => initial input
  | getterName => ofField "getter_prefix" Field.getterName input
  | setterName => ofField "name" Field.setterName input
  | equality => equalityOf input (argument 1)
  | hash => ofField "name" Field.hash input
  | display => ofField "name" Field.display input
  | join => joined read input (argument 1) (argument 2)
  | upper => (fun s => .string (Text.upper s)) <$> input.text
  | lower => (fun s => .string (Text.lower s)) <$> input.text
  | length => size input
  | first => firstItem read input
  | default => defaulted input (argument 1) (argument 2)
  | map => pure input

end

/-- The length of a value is asked for with no argument but the value. -/
def applyLength (input : Value) (given : List Value) (named : List (String × Value)) :
    Rendered Value :=
  if !named.isEmpty then Rendered.misuse (.noNamedArguments "len")
  else if !given.isEmpty then Rendered.misuse (.oneArgument "len" (given.length + 1))
  else size input

/-- A series is opened with arguments of any names but those of its own. -/
def openSeries : Value → List Value → List (String × Value) → Rendering Value :=
  fun input given named =>
    let own := map.signature.hidden ++ map.signature.parameters
    match named.find? fun e => own.contains e.1 with
    | some (name, _) => Rendered.misuse (.repeatedArgument map.signature.function name)
    | none => Rendering.opened input given named

/-- Apply a filter; `depth` bounds how deep filters work inside each other. -/
def applyFrom : Nat → Application
  | 0 => fun _ _ _ _ => Rendered.misuse .tooDeep
  | depth + 1 => fun filter input given named =>
    match filter with
    | map => openSeries input given named
    | length => applyLength input given named
    | filter => applyPlain (next (applyFrom depth) depth) filter input given named

/-- How deep filters may work inside each other. -/
def depthBound : Nat := 200

def apply : Application :=
  applyFrom depthBound

/-- The next item of a series. -/
def read : Reader :=
  next apply depthBound

end Filter

end BeanForge.Template

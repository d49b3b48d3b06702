import BeanForge.Template.Membership
import BeanForge.Template.Scope

/-!
# Running templates

Expressions yield values in a scope, and parts yield text and the scope that
follows them. A template that is inserted gets the names that are visible at its
place.
-/

namespace BeanForge.Template

/-! Expressions -/

/-- What is missing when no value was given for a condition that does not hold. -/
def noAlternative (label : Option String) (line : Nat) : String :=
  "the inline if-expression on line " ++ toString line ++
    (match label with
      | some name => " in " ++ Text.quoted name
      | none => "") ++ " evaluated to false and no else section was defined."

def applyFilter (name : String) (input : Value) (given : List (Option String × Value)) :
    Rendering Value :=
  match Filter.named? name with
  | none => Rendered.refused ("No filter named " ++ Text.quoted name ++ " found.")
  | some filter => filter.apply input (unnamed given) (named given)

def applyTest (name : String) (input : Value) (given : List (Option String × Value)) :
    Rendered Value :=
  match Test.named? name with
  | none => .error (.refused ("No test named " ++ Text.quoted name ++ " found."))
  | some test => test.apply input (unnamed given) (named given)

/-- No value of a template can be called. -/
def refuseCall : Value → Rendered Value
  | .absent message _ => .error (.absent message)
  | value => Rendered.misuse (.notCallable value.kindName)

mutual

/-- A number in a literal that is written as a word nobody defined. -/
def unknownWord? : Value → Option String
  | .real (.infinite _) => some "inf"
  | .real .nan => some "nan"
  | .tuple items => firstUnknownWord? items
  | .list items => firstUnknownWord? items
  | _ => none

def firstUnknownWord? : List Value → Option String
  | [] => none
  | v :: rest => (unknownWord? v).or (firstUnknownWord? rest)

end

def literal (value : Value) : Rendered Value :=
  match unknownWord? value with
  | some word => Rendered.misuse (.unknownWord word)
  | none => .ok value

mutual

def eval (s : Scope) : Expr → Rendering Value
  | .literal value => literal value
  | .name text => pure (s.value text)
  | .tuple items => do pure (.tuple (← evalAll s items))
  | .list items => do pure (.list (← evalAll s items))
  | .member owner name => do (← eval s owner).member name
  | .item owner index => do
    let owner ← eval s owner
    owner.item (← eval s index)
  | .call function arguments => do
    let function ← eval s function
    discard (evalArguments s arguments)
    refuseCall function
  | .filter input name arguments _ => do
    let input ← eval s input
    applyFilter name input (← evalArguments s arguments)
  | .test input name arguments _ => do
    let input ← eval s input
    applyTest name input (← evalArguments s arguments)
  | .negative operand => do (← eval s operand).negative
  | .positive operand => do (← eval s operand).positive
  | .inverse operand => do pure (.bool !(← (← eval s operand).truth))
  | .arithmetic operator left right => do
    let left ← eval s left
    Value.arithmetic operator left (← eval s right)
  | .concatenation parts => do Value.concatenation (← evalAll s parts)
  | .comparison first others => do
    let first ← eval s first
    pure (.bool (← compareAll s first others))
  | .both left right => do
    let left ← eval s left
    if ← left.truth then eval s right else pure left
  | .either left right => do
    let left ← eval s left
    if ← left.truth then pure left else eval s right
  | .choice condition value otherwise line => do
    if ← (← eval s condition).truth then eval s value
    else match otherwise with
      | some e => eval s e
      | none => pure (.absent (noAlternative s.label line) true)

def evalAll (s : Scope) : List Expr → Rendering (List Value)
  | [] => pure []
  | e :: rest => do
    let v ← eval s e
    pure (v :: (← evalAll s rest))

def evalArguments (s : Scope) : List (Option String × Expr) →
    Rendering (List (Option String × Value))
  | [] => pure []
  | (name, e) :: rest => do
    let v ← eval s e
    pure ((name, v) :: (← evalArguments s rest))

/-- Comparisons in a row hold together, and the first that does not hold ends them. -/
def compareAll (s : Scope) (left : Value) : List (Comparison × Expr) → Rendering Bool
  | [] => pure true
  | (how, e) :: rest => do
    let right ← eval s e
    if ← Value.comparison how left right then compareAll s right rest else pure false

end

/-! Parts -/

/-- The text of a template that is inserted, given its name, whether it may be missing, and its
variables. -/
abbrev Insertion := Value → Bool → List (String × Value) → Rendering String

/-- The items on which a condition holds, up to the first on which it fails. -/
def selectedFrom (holds : Value → Rendering Bool) (fault : Option RenderFault) :
    List Value → Feeds → Items × Feeds
  | [], feeds => (⟨[], fault⟩, feeds)
  | v :: rest, feeds =>
    match holds v feeds with
    | .error e => (⟨[], some e⟩, feeds)
    | .ok (keep, feeds) =>
      let (tail, feeds) := selectedFrom holds fault rest feeds
      (if keep then ⟨v :: tail.all, tail.fault⟩ else tail, feeds)

def selected (holds : Value → Rendering Bool) (s : Items) : Rendering Items :=
  fun feeds => .ok (selectedFrom holds s.fault s.all feeds)

/-- A round of a loop: its index, and the item before its own one. -/
structure Turn where
  index : Nat := 0
  previous : Value := .absent "there is no previous item" false

/-- The round after one with an item. -/
def Turn.next (t : Turn) (v : Value) : Turn :=
  ⟨t.index + 1, v⟩

/-- The text of a round of a loop, given its item and the items after it. -/
abbrev Round := Turn → Value → Rendering Items → Rendering String

/-- The texts of the rounds of a loop over items. -/
def rounds (round : Round) (fault : Option RenderFault) (t : Turn) :
    List Value → Rendering String
  | [] => pure ""
  | v :: rest => do
    let text ← round t v (pure ⟨rest, fault⟩)
    pure (text ++ (← rounds round fault (t.next v) rest))

/-- The texts of the rounds of a loop over a series, of which one item has been read. -/
def seriesRounds (round : Round) (number : Nat) : Nat → Turn → Value → Rendering String
  | 0, _, _ => pure ""
  | bound + 1, t, v => do
    let text ← round t v (Filter.read.ahead number)
    match ← Filter.read number with
    | none => pure text
    | some w => pure (text ++ (← seriesRounds round number bound (t.next v) w))

/-- The text of a loop: its rounds, or something else if there is none. -/
def loopText (s : Items) (round : Round) (otherwise : Rendering String) : Rendering String := do
  let text ← rounds round s.fault {} s.all
  let all ← s.complete
  if all.isEmpty then otherwise else pure text

def seriesText (number : Nat) (round : Round) (otherwise : Rendering String) : Rendering String := do
  let feeds ← get
  let bound := feeds.room (feeds.length + 1) (.series number)
  match ← Filter.read number with
  | none => otherwise
  | some v => seriesRounds round number (bound + 1) {} v

/-- The names of a round: those of the target, and the state of the loop if it is read. -/
def roundNames (usesState : Bool) (bound : List (String × Value)) (t : Turn)
    (after : Rendering Items) : Rendering (List (String × Value)) := do
  if usesState then
    let s ← after
    let next := s.all.head?.getD (.absent "there is no next item" false)
    pure (("loop", .loop t.index (t.index + 1 + s.all.length) s.fault t.previous next) :: bound)
  else pure bound

/-- Apply filters to a text, one after the other. -/
def refined (s : Scope) (text : Value) : List Refinement → Rendering Value
  | [] => pure text
  | r :: rest => do
    let text ← applyFilter r.name text (← evalArguments s r.arguments)
    refined s text rest

mutual

/-- The scope after a part, and its text. -/
def run (insertion : Insertion) (s : Scope) : Part → Rendering (Scope × String)
  | .text content => pure (s, content)
  | .print value => do
    let v ← eval s value
    pure (s, ← v.text)
  | .assign target value => do
    target.checkOwners
    let v ← eval s value
    pure (s.assignAll (← target.bind s v), "")
  | .capture target refinements body => do
    let (inner, text) ← runIn insertion (s.enter [] body) body
    let v ← refined inner (.string text) refinements
    pure (s.assignAll (← target.bind s v), "")
  | .branch alternatives otherwise =>
    runAlternatives insertion s (runIn insertion s otherwise) alternatives
  | .loop target source condition body otherwise => do
    let v ← eval s source
    let source ← v.source
    let round : Round := fun t v after => do
      let names ← target.bind s v
      let names ← roundNames (Part.readsIn "loop" body) names t after
      runAll insertion (s.enter names body) body
    let instead := runAll insertion (s.enter [] otherwise) otherwise
    let text ← match condition, source with
      | none, .items all => loopText ⟨all, none⟩ round instead
      | none, .series number => seriesText number round instead
      | some e, source => do
        let all ← Filter.read.items source
        let chosen ← selected (fun v => do
          let names ← target.bind s v
          let kept ← eval (s.enter names []) e
          kept.truth) all
        loopText chosen round instead
    pure (s, text)
  | .insert name optional => do
    let v ← eval s name
    pure (s, ← insertion v optional s.visible)

/-- The scope after parts, and their text. -/
def runIn (insertion : Insertion) (s : Scope) : List Part → Rendering (Scope × String)
  | [] => pure (s, "")
  | p :: rest => do
    let (s, first) ← run insertion s p
    let (s, others) ← runIn insertion s rest
    pure (s, first ++ others)

/-- The text of parts with a scope of their own. -/
def runAll (insertion : Insertion) (s : Scope) : List Part → Rendering String
  | [] => pure ""
  | p :: rest => do
    let (s, first) ← run insertion s p
    pure (first ++ (← runAll insertion s rest))

/-- The parts of the first alternative whose condition holds. -/
def runAlternatives (insertion : Insertion) (s : Scope) (otherwise : Rendering (Scope × String)) :
    List (Expr × List Part) → Rendering (Scope × String)
  | [] => otherwise
  | (condition, body) :: rest => do
    let v ← eval s condition
    if ← v.truth then runIn insertion s body
    else runAlternatives insertion s otherwise rest

end

/-- The text of a template's parts. -/
def textOf (insertion : Insertion) (label : Option String) (bindings : List (String × Value))
    (parts : List Part) : Rendering String :=
  let s : Scope := { bindings, label }
  let itself := if Part.asksItself parts then [("self", Value.template label)] else []
  runAll insertion (s.enter itself parts) parts

end BeanForge.Template

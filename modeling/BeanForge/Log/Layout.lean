import BeanForge.Json.Print
import BeanForge.Log.Moment
import BeanForge.Log.Record

/-!
# Layouts of log records

A record is written as one JSON object on a line, or as a text for readers with
coloured level names. Both show the interface, template and artifact at work
apart from other fields.
-/

namespace BeanForge.Log

inductive Layout where
  | json (showFields : Bool)
  | text (colours : Bool)
  deriving Repr, DecidableEq

namespace Layout

/-- A layout with the one option that it has. -/
def ofOptions (isJson : Bool) (given : List (String × Json)) : Except Refusal Layout :=
  let (call, option) :=
    if isJson then ("JSONFormatter.__init__", "include_extra")
    else ("TextFormatter.__init__", "use_colors")
  match (Keyed.keys given).find? (· != option) with
  | some name => .error (.strangeArgument call name)
  | none =>
    let flag := ((Keyed.get? option given).map Json.holds).getD true
    .ok (if isJson then json flag else text flag)

/-- The fields shown beside the message. -/
def subjectNames : List String := ["interface", "template", "artifact"]

/-- Names that do not come among the other fields of a JSON object. -/
def setAside : List String :=
  ["timestamp", "level", "logger", "message", "exception", "taskName"] ++ subjectNames ++
    Record.ownNames

def isOther (name : String) : Bool :=
  !setAside.contains name && name.toList.head? != some '_'

def otherFields (r : Record) : List (String × Json) :=
  (r.fields.filter (isOther ·.1)).map fun (name, value) => (name, value.toJson)

def subjectMembers (r : Record) : List (String × Json) :=
  subjectNames.filterMap fun name => (r.shownField? name).map fun value => (name, value.toJson)

def jsonMembers (moment : Moment) (showFields : Bool) (r : Record) :
    Except Flaw (List (String × Json)) := do
  let message ← r.text
  let exception ← match r.problem with
    | none => pure []
    | some p => do pure [("exception", ← p.toJson)]
  let others := otherFields r
  pure ([("timestamp", .string moment.exact), ("level", r.levelName.toJson),
    ("logger", r.loggerName.toJson), ("message", .string message)] ++
    subjectMembers r ++ exception ++
    (if showFields && !others.isEmpty then [("extra", .object others)] else []))

/-- A value in eight columns: texts on the left and numbers on the right. -/
def padded (value : Value) : Except Flaw String :=
  let shown := match value with
    | .json (.bool b) => if b then "1" else "0"
    | value => value.shown
  let blanks := String.ofList (List.replicate (8 - shown.length) ' ')
  match value with
  | .json (.string _) => .ok (shown ++ blanks)
  | .json (.bool _) | .json (.integer _) | .json (.real _) => .ok (blanks ++ shown)
  | value => .error (.notPadded value.kindName)

def levelText (colours : Bool) (levelName : Value) : Except Flaw String :=
  if colours && levelName.isComposite then .error (.unhashable levelName.kindName)
  else do
    let wide ← padded levelName
    let level := match levelName with
      | .json (.string name) => if colours then Level.named? name else none
      | _ => none
    pure (match level with
      | some level => level.colour ++ wide ++ Level.colourEnd
      | none => wide)

def subjectText (r : Record) : String :=
  let shown := subjectNames.filterMap fun name =>
    (r.shownField? name).map fun value => name ++ "=" ++ value.shown
  if shown.isEmpty then "" else " [" ++ ", ".intercalate shown ++ "]"

def textLine (moment : Moment) (colours : Bool) (r : Record) : Except Flaw String := do
  let level ← levelText colours r.levelName
  let message ← r.text
  let line := moment.readable ++ " " ++ level ++ " " ++ r.loggerName.shown ++ subjectText r ++
    ": " ++ message
  match r.problem with
  | none => pure line
  | some p => do pure (line ++ "\n" ++ (← p.account))

/-- The text of a record without the end of its line. -/
def format (layout : Layout) (moment : Moment) (r : Record) : Except Flaw String :=
  match layout with
  | json showFields => do pure (Json.object (← jsonMembers moment showFields r)).compact
  | text colours => textLine moment colours r

end Layout

end BeanForge.Log

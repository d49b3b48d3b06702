import BeanForge.Log.Layout
import BeanForge.Log.Refusal
import BeanForge.Text.Case

/-!
# Loggers

Records below the configured level, and records of loggers outside the family,
are dropped; the others become lines. Before anything is configured the level is
warning and nothing is written.
-/

namespace BeanForge.Log

structure Config where
  level : Level := .info
  layout : Layout := .text true
  includeContext : Bool := true
  deriving Repr, DecidableEq

namespace Config

def level? (name : String) : Except Refusal Level :=
  match Level.named? name with
  | some level => .ok level
  | none => .error (.unknownLevel name)

def layout? (colours : Bool) (name : String) : Except Refusal Layout :=
  if name = "json" then .ok (.json true)
  else if name = "text" then .ok (.text colours)
  else .error (.unknownLayout name)

/-- Names of levels and layouts are taken in any case; the level is looked up first. -/
def ofNames (level layout : String) (includeContext colours : Bool) : Except Refusal Config := do
  let level ← level? (Text.upper level)
  let layout ← layout? colours (Text.lower layout)
  pure ⟨level, layout, includeContext⟩

/-- The options by name, and what they are without being given. -/
def defaults : List (String × Json) :=
  [("level", .string "INFO"), ("format", .string "text"), ("include_context", .bool true),
    ("use_colors", .bool true)]

def option (given : List (String × Json)) (name : String) : Json :=
  (Keyed.get? name (Keyed.update defaults given)).getD .null

/-- A configuration from options; a layout that is no text counts as the layout for readers. -/
def ofMembers (given : List (String × Json)) : Except Refusal Config := do
  if let some name := (Keyed.keys given).find? fun name => !(Keyed.keys defaults).contains name then
    throw (.strangeArgument "configure_logging" name)
  let colours := (option given "use_colors").holds
  let level ← match option given "level" with
    | .string name => pure (Except.ok (← level? (Text.upper name)))
    | value => pure (Except.error (.noMember value.kindName "value"))
  let layout ← match option given "format" with
    | .string name => layout? colours (Text.lower name)
    | _ => pure (.text colours)
  pure ⟨← level, layout, (option given "include_context").holds⟩

/-- Options whose level and layout are taken as they are written. -/
def checkExact (given : List (String × Json)) : Except Refusal Unit := do
  if let some (.string name) := Keyed.get? "level" given then discard (level? name)
  if let some (.string name) := Keyed.get? "format" given then discard (layout? true name)

end Config

/-- Whether a logger belongs to the family that is configured. -/
def isFamily (logger : String) : Bool :=
  logger == "entitygen" || "entitygen.".toList.isPrefixOf logger.toList

def threshold (config : Option Config) (logger : String) : Nat :=
  match config with
  | some c => if isFamily logger then c.level.weight else Level.warning.weight
  | none => Level.warning.weight

def isEnabled (config : Option Config) (logger : String) (weight : Nat) : Bool :=
  threshold config logger ≤ weight

/-- What is written for a record; a message that its values do not fit is not written. -/
def write (config : Option Config) (moment : Moment) (r : Record) : String :=
  match config with
  | none => ""
  | some c =>
    if isFamily r.logger && isEnabled config r.logger r.level.weight then
      let r := if c.includeContext then r.merged else r
      match c.layout.format moment r with
      | .ok line => line ++ "\n"
      | .error _ => ""
    else ""

def writeAll (config : Option Config) (moment : Moment) (records : List Record) : String :=
  String.join (records.map (write config moment))

/-- The calls that there are, each for a level. -/
def calls : List (String × Level) :=
  [("debug", .debug), ("info", .info), ("warning", .warning), ("error", .error)]

def call? (name : String) : Except Refusal Level :=
  match Keyed.get? name calls with
  | some level => .ok level
  | none => .error (.unknownCall name)

/-- Fields that give what a call for a level gives already. -/
def repeated? (level : Level) (names : List String) : Option Refusal :=
  match names.find? fun name => name == "self" || name == "msg" with
  | some name => some (.repeatedArgument ("EntityGenLogger." ++ Text.lower level.name) name)
  | none =>
    if names.contains "level" then some (.repeatedArgument "EntityGenLogger._log" "level") else none

/-- A record whose problem may be asked for by a field. -/
def withProblem (r : Record) : Record :=
  match Keyed.get? "exc_info" r.fields with
  | none => r
  | some value =>
    { r with
      fields := r.fields.filter (·.1 != "exc_info")
      problem := if r.problem.isSome || !value.holds then r.problem else some .unknown }

/-- Accept a record; reserved names matter only when the record is not dropped. -/
def accept (config : Option Config) (r : Record) : Except Refusal (Option Record) :=
  match repeated? r.level (Keyed.keys r.fields) with
  | some refusal => .error refusal
  | none =>
    let r := withProblem r
    if !isEnabled config r.logger r.level.weight then .ok none
    else match (Keyed.keys r.fields).find? Record.isReserved with
      | some name => .error (.reservedField name)
      | none => .ok (some r)

/-- Whether records of a weight are written; a level may be given by name. -/
def isEnabledFor (config : Option Config) (logger : String) (level : Json) : Except Refusal Bool :=
  let least : Int := threshold config logger
  match level with
  | .string name => do pure (isEnabled config logger (← Config.level? name).weight)
  | .integer n => .ok (decide (least ≤ n))
  | .real x => .ok (x.orderInt? least != some .lt && x != .nan)
  | .bool b => .ok (decide (least ≤ if b then 1 else 0))
  | value =>
    .error (if value.isComposite then .unhashable value.kindName else .unordered value.kindName)

/-- The name of a logger; without one it is the logger of all. -/
def loggerName (given : Json) : Except Refusal String :=
  if !given.holds then .ok "root"
  else match given with
    | .string name => .ok name
    | _ => .error .notName

end BeanForge.Log

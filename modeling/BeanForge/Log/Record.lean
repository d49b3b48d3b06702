import BeanForge.Log.Context
import BeanForge.Log.Level
import BeanForge.Log.Problem

/-!
# Log records

What is logged once: level, logger, message, the fields of the call and those of
the context around it. Fields of the call take precedence over the context, and
neither may take the name of a part of the record.
-/

namespace BeanForge.Log

structure Record where
  level : Level
  levelName : Value := .ofString level.name
  logger : String
  loggerName : Value := .ofString logger
  message : String
  arguments : Arguments := .row []
  fields : Fields := []
  context : Fields := []
  problem : Option Problem := none

namespace Record

/-- The parts that every record has. -/
def ownNames : List String :=
  ["name", "msg", "args", "levelname", "levelno", "pathname", "filename", "module", "exc_info",
    "exc_text", "stack_info", "lineno", "funcName", "created", "msecs", "relativeCreated",
    "thread", "threadName", "processName", "process"]

/-- The parts that all records share: what makes texts of messages, and what any object has. -/
def sharedNames : List String :=
  ["getMessage", "__class__", "__delattr__", "__dict__", "__dir__", "__doc__", "__eq__",
    "__format__", "__ge__", "__getattribute__", "__getstate__", "__gt__", "__hash__", "__init__",
    "__init_subclass__", "__le__", "__lt__", "__module__", "__ne__", "__new__", "__reduce__",
    "__reduce_ex__", "__repr__", "__setattr__", "__sizeof__", "__str__", "__subclasshook__",
    "__weakref__"]

/-- Names that no field of a call may take. -/
def isReserved (name : String) : Bool :=
  name == "message" || name == "asctime" || ownNames.contains name

/-- Whether the record itself has something under a name. -/
def has (r : Record) (name : String) : Bool :=
  ownNames.contains name || sharedNames.contains name || (Keyed.keys r.fields).contains name

/-- The fields of the context under names that the record does not have itself. -/
def inherited (r : Record) : Fields :=
  r.context.filter fun field => !r.has field.1

/-- The record with the fields of its context among its own. -/
def merged (r : Record) : Record :=
  { r with fields := r.fields ++ r.inherited, context := [] }

/-- The message with its values, unless what makes texts of messages has been replaced. -/
def text (r : Record) : Except Flaw String :=
  match Keyed.get? "getMessage" r.fields with
  | some value => .error (.notCallable value.kindName)
  | none => fill r.message r.arguments

/-- Put a field on a record, or replace one of its own parts. -/
def set (r : Record) (name : String) (value : Value) : Record :=
  match name with
  | "name" => { r with loggerName := value }
  | "levelname" => { r with levelName := value }
  | "msg" => { r with message := value.shown }
  | "args" => { r with arguments := .single value }
  | "exc_info" => { r with problem := Problem.ofValue value }
  | _ =>
    if ownNames.contains name then r else { r with fields := Keyed.put name value r.fields }

/-- The value of a field that texts show beside the message; null counts as absent. -/
def shownField? (r : Record) (name : String) : Option Value :=
  (Keyed.get? name r.fields).bind fun value => if value.isNull then none else some value

end Record

end BeanForge.Log

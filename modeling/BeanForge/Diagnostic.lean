import BeanForge.Fault
import BeanForge.Log.Record
import BeanForge.Validation

/-!
# Diagnostics

What a user is told about an element, as a note or as an error. Every diagnostic
also becomes a log record.
-/

namespace BeanForge

inductive Severity where
  | note
  | error
  deriving Repr, DecidableEq

namespace Severity

def name : Severity → String
  | note => "NOTE"
  | error => "ERROR"

def named? (name : String) : Option Severity :=
  [note, error].find? (·.name == name)

/-- The severity that a value names. -/
def ofValue (value : Json) : Except Fault Severity :=
  match value.string?.bind named? with
  | some severity => .ok severity
  | none => .error (.unknownSeverity (String.ofList value.shownInside))

def word : Severity → String
  | note => "note"
  | error => "error"

def level : Severity → Log.Level
  | note => .info
  | error => .error

end Severity

structure Diagnostic where
  severity : Severity
  message : String
  /-- What the diagnostic is about, such as the path of a source. -/
  element : Option String := none
  deriving Repr, DecidableEq

namespace Diagnostic

def isError (d : Diagnostic) : Bool :=
  d.severity == .error

/-- The line that a user reads; an empty element is not told. -/
def text (d : Diagnostic) : String :=
  (match d.element with
    | none | some "" => ""
    | some element => element ++ ": ") ++ d.severity.word ++ ": " ++ d.message

def logger : String := "entitygen.codegen.diagnostics"

def record (d : Diagnostic) : Log.Record where
  level := d.severity.level
  logger := logger
  message := d.message
  fields := [("element", .json (.ofOption d.element))]

/-- The warning that a diagnostic could not be handed on. -/
def handoverWarning (reason : String) : Log.Record where
  level := .warning
  logger := logger
  message := "Diagnostic forwarding failed: " ++ reason

end Diagnostic

/-- A diagnostic from a raw message and a raw element. -/
def Json.checkDiagnostic (severity : Severity) (message element : Json) : Checked Diagnostic :=
  Checked.apply (Checked.apply (.ok fun message element => ⟨severity, message, element⟩)
    (Checked.below (.member "message") message.checkText))
    (Checked.below (.member "element") element.checkTextOrNull)

end BeanForge

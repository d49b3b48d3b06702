import BeanForge.Failure.Kind
import BeanForge.Json.Basic
import BeanForge.Text.Decimal

/-!
# Failures

What can go wrong between a declaration and its generated class, by cause. Each
failure has a code for programs and a message for readers, with hints and
details beside it.
-/

namespace BeanForge

inductive Failure where
  | general (message : String)
  | notAccessor (method reason : String)
  | template (message : String)
  | templateNotFound (name : String) (searchPath : Option (List String))
  | templateSyntax (name reason : String) (line : Option Int)
  | rendering (name reason : String)
  | emission (qualifiedName reason : String)
  | discovery (source reason : String)
  | configuration (message : String) (key : Option String)
  deriving Repr, DecidableEq

namespace Failure

def kind : Failure → Kind
  | general _ => .general
  | notAccessor _ _ => .notAccessor
  | template _ => .template
  | templateNotFound _ _ => .templateNotFound
  | templateSyntax _ _ _ => .templateSyntax
  | rendering _ _ => .rendering
  | emission _ _ => .emission
  | discovery _ _ => .discovery
  | configuration _ _ => .configuration

def code (f : Failure) : String :=
  f.kind.code

/-- Why a template cannot be read, and at which line if that is known. -/
def syntaxText (name reason : String) (line : Option String) : String :=
  "Template '" ++ name ++ "' could not be parsed" ++
    (match line with
      | some line => " (line " ++ line ++ ")"
      | none => "") ++ ": " ++ reason

def searchedText (folders : List String) : String :=
  "Searched: " ++ ", ".intercalate folders

def message : Failure → String
  | general text => text
  | notAccessor method reason => "Method '" ++ method ++ "' is not an accessor: " ++ reason
  | template text => text
  | templateNotFound name _ => "Template '" ++ name ++ "' not found"
  | templateSyntax name reason line =>
    syntaxText name reason (line.map fun n => String.ofList (Text.intDigits n))
  | rendering name reason => "Rendering template '" ++ name ++ "' failed: " ++ reason
  | emission qualifiedName reason =>
    "Cannot write source for '" ++ qualifiedName ++ "': " ++ reason
  | discovery source reason => "Cannot read declarations from " ++ source ++ ": " ++ reason
  | configuration text _ => text

/-- Hints are known only for a search that had somewhere to look. -/
def hints : Failure → List String
  | templateNotFound _ (some (dir :: dirs)) => [searchedText (dir :: dirs)]
  | _ => []

def details : Failure → List (String × Json)
  | general _ | template _ => []
  | notAccessor method reason => [("method", .string method), ("reason", .string reason)]
  | templateNotFound name searchPath =>
    [("template", .string name), ("search_path", (searchPath.map Json.strings).getD .null)]
  | templateSyntax name _ line =>
    [("template", .string name), ("lineno", (line.map Json.integer).getD .null)]
  | rendering name _ => [("template", .string name)]
  | emission qualifiedName _ => [("qualified_name", .string qualifiedName)]
  | discovery source _ => [("source", .string source)]
  | configuration _ key =>
    match key with
    | none | some "" => []
    | some key => [("key", .string key)]

end Failure

end BeanForge

import BeanForge.Fault

/-!
# Usage

What can be wrong with a command line, and the texts that tell how to write one.
-/

namespace BeanForge.CommandLine

inductive UsageError where
  | unknownOption (name : String) (similar : List String)
  | valueMissing (option : String)
  | valueUnwanted (option : String)
  | optionMissing (option : String)
  | argumentMissing (argument : String)
  | badValue (parameter reason : String)
  | commandMissing
  | unknownCommand (name : String) (similar : List String)
  deriving Repr, DecidableEq

namespace UsageError

/-- What may have been meant; several names are told in order. -/
def suggestion : List String → String
  | [] => ""
  | [name] => " Did you mean " ++ Text.quoted name ++ "?"
  | names =>
    " (Did you mean one of: " ++ ", ".intercalate ((names.mergeSort (· ≤ ·)).map Text.quoted) ++
      "?)"

def message : UsageError → String
  | unknownOption name similar =>
    "No such option " ++ Text.quoted name ++ "." ++ suggestion similar
  | valueMissing option => "Option " ++ Text.quoted option ++ " requires an argument."
  | valueUnwanted option => "Option " ++ Text.quoted option ++ " does not take a value."
  | optionMissing option => "Missing option " ++ option ++ "."
  | argumentMissing argument => "Missing argument " ++ argument ++ "."
  | badValue parameter reason => "Invalid value for " ++ parameter ++ ": " ++ reason
  | commandMissing => "Missing command."
  | unknownCommand name similar =>
    "No such command " ++ Text.quoted name ++ "." ++ suggestion similar

end UsageError

/-- Why a command line is not carried out. -/
inductive Exit where
  | misuse (e : UsageError)
  | version
  | help (text : String)
  /-- There are no words at all. -/
  | silence
  | fault (f : Fault)
  deriving Repr, DecidableEq

def versionText : String := "entitygen, version 0.1.0"

def textLines (lines : List String) : String :=
  String.join (lines.map (· ++ "\n"))

def helpText : String :=
  textLines
    ["Usage: entitygen [OPTIONS] COMMAND [ARGS]...",
      "",
      "  Generate implementation classes from accessor interfaces.",
      "",
      "Options:",
      "  --version                 Show the version and exit.",
      "  --config FILE             Properties file with generator settings.",
      "  --log-level TEXT          DEBUG, INFO, WARNING or ERROR.",
      "  --log-format [text|json]",
      "  --help                    Show this message and exit.",
      "",
      "Commands:",
      "  generate  Generate implementations for annotated interfaces in SOURCES.",
      "  inspect   Print the fields inferred for each annotated interface in..."]

def generateHelpText : String :=
  textLines
    ["Usage: entitygen generate [OPTIONS] SOURCES...",
      "",
      "  Generate implementations for annotated interfaces in SOURCES.",
      "",
      "Options:",
      "  -o, --out DIRECTORY       Directory that receives generated sources.",
      "                            [required]",
      "  --template TEXT           Template name to render.",
      "  --template-dir DIRECTORY  Extra template directory, searched before the",
      "                            configured ones.",
      "  --help                    Show this message and exit."]

def inspectHelpText : String :=
  textLines
    ["Usage: entitygen inspect [OPTIONS] SOURCES...",
      "",
      "  Print the fields inferred for each annotated interface in SOURCES.",
      "",
      "Options:",
      "  --help  Show this message and exit."]

end BeanForge.CommandLine

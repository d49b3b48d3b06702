import BeanForge.CommandLine.Switch
import BeanForge.FileTree.Basic

/-!
# Requests

What a command line asks for: options for the program as a whole, then a command
with options and sources of its own. Options are checked in the order in which
they are given, and what is missing is told last.
-/

namespace BeanForge.CommandLine

/-! Checks of values -/

/-- What a path that is given must lead to. -/
inductive PathKind where
  | any
  | file
  | folder
  deriving Repr, DecidableEq

def PathKind.noun : PathKind → String
  | any => "Path"
  | file => "File"
  | folder => "Directory"

/-- Why a path is of no use; one that need not be there may lead to nothing. -/
def pathFault? (tree : FileTree) (kind : PathKind) (mustExist : Bool) (raw : String) :
    Option String :=
  let told (what : String) : Option String :=
    some (kind.noun ++ " " ++ Text.quoted raw ++ " " ++ what ++ ".")
  match tree.named? raw, kind with
  | none, _ => if mustExist then told "does not exist" else none
  | some (.file _), .folder => told "is a file"
  | some .folder, .file => told "is a directory"
  | _, _ => none

def logFormats : List String := ["text", "json"]

def formatFault? (raw : String) : Option String :=
  if logFormats.contains raw then none
  else some (Text.quoted raw ++ " is not one of " ++
    ", ".intercalate (logFormats.map Text.quoted) ++ ".")

def checkValue (parameter : String) (fault? : String → Option String) (raw : String) :
    Except Exit Unit :=
  match fault? raw with
  | some reason => .error (.misuse (.badValue parameter reason))
  | none => .ok ()

/-- Refuse the first path of no use; one that cannot be asked for ends the program. -/
def checkPaths (tree : FileTree) (kind : PathKind) (mustExist : Bool) (parameter : String)
    (raws : List String) : Except Exit Unit :=
  raws.forM fun raw =>
    match Fault.ofPath? raw with
    | some f => .error (.fault f)
    | none => checkValue parameter (pathFault? tree kind mustExist) raw

/-! Options of the program -/

inductive ProgramOption where
  | config
  | logLevel
  | logFormat
  | version
  | help
  deriving Repr, DecidableEq

namespace ProgramOption

def switches : List (Switch ProgramOption) :=
  [⟨config, ["--config"], true⟩, ⟨logLevel, ["--log-level"], true⟩,
    ⟨logFormat, ["--log-format"], true⟩, ⟨version, ["--version"], false⟩,
    ⟨help, ["--help"], false⟩]

/-- Options that end the program before others are looked at. -/
def exit? : ProgramOption → Option Exit
  | version => some .version
  | help => some (.help helpText)
  | _ => none

def check (tree : FileTree) (given : Given ProgramOption) (o : ProgramOption) :
    Except Exit Unit :=
  let value := (given.value? o).toList
  match o with
  | config => checkPaths tree .file true "'--config'" value
  | logFormat => value.forM (checkValue "'--log-format'" formatFault?)
  | _ => .ok ()

end ProgramOption

inductive Command where
  | generate
  | inspect
  deriving Repr, DecidableEq

namespace Command

def all : List Command := [generate, inspect]

def name : Command → String
  | generate => "generate"
  | inspect => "inspect"

def named? (name : String) : Option Command :=
  all.find? (·.name == name)

end Command

/-- The command of a line, with the words that it is given. -/
structure Invocation where
  config : Option Path := none
  logLevel : Option String := none
  logFormat : Option String := none
  command : Command
  words : List String

/-- The options of the program at the front of the words. -/
def ProgramOption.scan (tree : FileTree) (words : List String) :
    Except Exit (Scan ProgramOption) := do
  let s ← (Switch.scan switches false words).mapError .misuse
  match s.given.keys.findSome? exit? with
  | some exit => .error exit
  | none =>
    s.given.keys.forM (check tree s.given)
    pure s

/-- Options are read once more where the command should be, since two dashes may hide them. -/
def Invocation.read (tree : FileTree) (words : List String) : Except Exit Invocation := do
  if words.isEmpty then .error .silence
  else
    let s ← ProgramOption.scan tree words
    match s.rest with
    | [] => .error (.misuse .commandMissing)
    | name :: words =>
      match Command.named? name with
      | none =>
        let _ ← ProgramOption.scan tree s.rest
        .error (.misuse (.unknownCommand name (Text.closest name (Command.all.map (·.name)))))
      | some command =>
        .ok
          { config := (s.given.value? .config).map Path.ofString
            logLevel := s.given.value? .logLevel
            logFormat := s.given.value? .logFormat
            command
            words }

/-! Options of the commands -/

/-- The sources that a command works on; there is at least one. -/
def readSources (tree : FileTree) (words : List String) : Except Exit (List Path) := do
  if words.isEmpty then .error (.misuse (.argumentMissing "'SOURCES...'"))
  else
    checkPaths tree .any true "'SOURCES...'" words
    pure (words.map Path.ofString)

inductive GenerateOption where
  | out
  | template
  | templateFolder
  | help
  deriving Repr, DecidableEq

namespace GenerateOption

def switches : List (Switch GenerateOption) :=
  [⟨out, ["--out", "-o"], true⟩, ⟨template, ["--template"], true⟩,
    ⟨templateFolder, ["--template-dir"], true⟩, ⟨help, ["--help"], false⟩]

def outHint : String := "'--out' / '-o'"

def check (tree : FileTree) (given : Given GenerateOption) (o : GenerateOption) :
    Except Exit Unit :=
  match o with
  | out => checkPaths tree .folder false outHint (given.value? out).toList
  | templateFolder =>
    checkPaths tree .folder true "'--template-dir'" (given.values templateFolder)
  | _ => .ok ()

end GenerateOption

structure GenerateRequest where
  sources : List Path
  out : Path
  templateName : Option String := none
  templateFolders : List String := []

def GenerateRequest.read (tree : FileTree) (words : List String) :
    Except Exit GenerateRequest := do
  let s ← (Switch.scan GenerateOption.switches true words).mapError .misuse
  if (s.given.keys).contains .help then .error (.help generateHelpText)
  else
    s.given.keys.forM (GenerateOption.check tree s.given)
    let sources ← readSources tree s.rest
    match s.given.value? .out with
    | none => .error (.misuse (.optionMissing GenerateOption.outHint))
    | some out =>
      pure
        { sources
          out := Path.ofString out
          templateName := s.given.value? .template
          templateFolders := s.given.values .templateFolder }

def inspectSwitches : List (Switch Unit) := [⟨(), ["--help"], false⟩]

/-- The sources of a request to inspect, which has no options but help. -/
def readInspection (tree : FileTree) (words : List String) : Except Exit (List Path) := do
  let s ← (Switch.scan inspectSwitches true words).mapError .misuse
  if s.given.isEmpty then readSources tree s.rest else .error (.help inspectHelpText)

end BeanForge.CommandLine

import BeanForge.CommandLine.Request
import BeanForge.Discovery.Paths
import BeanForge.Json.Print
import BeanForge.Log.Logger
import BeanForge.Pass
import BeanForge.Settings.File
import BeanForge.Validation

/-!
# Runs of the program

A command line is carried out on the files around it. The report holds the exit
status, both outputs, and the files as they are afterwards. Diagnostics and log
lines are told in the order in which they come up.
-/

namespace BeanForge.CommandLine

/-- What the program finds around it. -/
structure Surroundings where
  tree : FileTree := {}
  /-- The address of the working folder. -/
  workingFolder : String := ""
  environment : List (String × String) := []
  moment : Log.Moment
  /-- What goes wrong with the files of classes, in order of their interfaces. -/
  mishaps : List Mishap := []

structure Report where
  status : Nat
  output : String := ""
  messages : String := ""
  tree : FileTree
  fault? : Option Fault := none

/-! Settings -/

def given? (name : String) : Option String → List (String × Json)
  | none => []
  | some value => [(name, .string value)]

/-- The settings of a run: those of the file, then the environment, then the options. -/
def Invocation.settings (i : Invocation) (s : Surroundings) : Except Stop Settings := do
  let filed ← match i.config with
    | none => .ok {}
    | some p => ({} : Settings).overlayFile s.tree p
  let surrounded ← filed.overlayEnvironment s.environment
  surrounded.overrideAll (given? "log_level" i.logLevel ++ given? "log_format" i.logFormat)

/-! Endings -/

def refusal (s : Surroundings) (message : String) : Report where
  status := 1
  messages := "Error: " ++ message ++ "\n"
  tree := s.tree

def crash (s : Surroundings) (f : Fault) : Report where
  status := 1
  tree := s.tree
  fault? := some f

def Exit.report (s : Surroundings) : Exit → Report
  | misuse e => { status := 2, messages := "Error: " ++ e.message ++ "\n", tree := s.tree }
  | version => { status := 0, output := versionText ++ "\n", tree := s.tree }
  | help text => { status := 0, output := text, tree := s.tree }
  | silence => { status := 2, messages := helpText, tree := s.tree }
  | fault f => crash s f

/-! Commands -/

/-- The listener that shows every diagnostic to the user. -/
def showing : Collector Unit where
  listener := some fun _ _ => ((), none)
  state := ()

/-- What the user sees of a collector's work. -/
def transcript (config : Log.Config) (moment : Log.Moment) (sights : List Sight) : String :=
  String.join (sights.map fun
    | .logged r => Log.write (some config) moment r
    | .handed d => d.text ++ "\n")

def statusOf (ok : Bool) : Nat :=
  if ok then 0 else 1

def countText (n : Nat) (out : Path) : String :=
  "Generated " ++ toString n ++ " source file(s) in " ++ out.text ++ "\n"

/-- Make the classes of all interfaces found in the sources. -/
def GenerateRequest.perform [Codecs] (r : GenerateRequest) (s : Surroundings) (settings : Settings)
    (config : Log.Config) : Report :=
  let found := Discovery.inPaths settings.marker s.tree r.sources
  let discovery := showing.followAll found.events
  let told := transcript config s.moment discovery.sights
  match found.fault? with
  | some f => { status := 1, messages := told, tree := s.tree, fault? := some f }
  | none =>
    let settings := { settings with templatePath := r.templateFolders ++ settings.templatePath }
    let site : Site :=
      { tree := s.tree
        store := .folder r.out settings.outputExtension settings.outputEncoding []
        workingFolder := s.workingFolder }
    let plan : Plan := ⟨settings, r.templateName⟩
    let (pass, ended) := plan.run site discovery.next found.interfaces s.mishaps
    let messages := told ++ transcript config s.moment pass.collector.sights
    match ended with
    | some f => { status := 1, messages, tree := pass.site.tree, fault? := some f }
    | none =>
      { status := statusOf (pass.isOk && discovery.errors.isEmpty)
        output := countText pass.artifacts.length r.out
        messages
        tree := pass.site.tree }

/-- What is printed about an interface: where it stands and what fields it has. -/
def inspectionRow (i : Interface) : Json :=
  .object [("interface", .string i.name), ("package", .string i.package),
    ("source", .ofOption i.source),
    ("fields", .array (i.entity.table.fields.map Field.toJson))]

def inspectionText (is : List Interface) : String :=
  (Json.array (is.map inspectionRow)).pretty ++ "\n"

/-- Print the fields of all interfaces found in the sources. -/
def inspect (sources : List Path) (s : Surroundings) (settings : Settings)
    (config : Log.Config) : Report :=
  let found := Discovery.inPaths settings.marker s.tree sources
  let discovery := showing.followAll found.events
  match found.fault? with
  | some f =>
    { status := 1
      messages := transcript config s.moment discovery.sights
      tree := s.tree
      fault? := some f }
  | none =>
    let skipped := found.interfaces.flatMap fun i => Skipped.ofMethods i.methods
    let c := discovery.followAll (skipped.map Event.logged)
    { status := statusOf c.errors.isEmpty
      output := inspectionText found.interfaces
      messages := transcript config s.moment c.sights
      tree := s.tree }

def Invocation.perform [Codecs] (i : Invocation) (s : Surroundings) (settings : Settings)
    (config : Log.Config) : Report :=
  match i.command with
  | .generate =>
    match GenerateRequest.read s.tree i.words with
    | .error exit => exit.report s
    | .ok r => r.perform s settings config
  | .inspect =>
    match readInspection s.tree i.words with
    | .error exit => exit.report s
    | .ok sources => inspect sources s settings config

/-- Carry out a command line. -/
def run [Codecs] (s : Surroundings) (words : List String) : Report :=
  match Invocation.read s.tree words with
  | .error exit => exit.report s
  | .ok i =>
    match i.settings s with
    | .error (.failure f) => refusal s f.message
    | .error (.fault f) => crash s f
    | .ok settings =>
      match Log.Config.ofNames settings.logLevel settings.logFormat true true with
      | .error r => refusal s ("Invalid logging settings: " ++ r.message)
      | .ok config => i.perform s settings config

end BeanForge.CommandLine

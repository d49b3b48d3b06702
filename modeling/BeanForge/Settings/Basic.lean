import BeanForge.Fault
import BeanForge.Json.Display
import BeanForge.Json.Same
import BeanForge.Settings.Properties
import BeanForge.Text.Case

/-!
# Settings

What a user can set for templates, output, discovery and logging. Values come
from a settings file, from environment variables and from options, each laid
over the ones before. A value may be overridden by one of another form; it is
kept as it is beside what it amounts to.
-/

namespace BeanForge

structure Settings where
  templateName : String := "entity.java.j2"
  templatePath : List String := []
  templateCache : Bool := true
  trimBlocks : Bool := true
  stripLines : Bool := true
  outputExtension : String := ".java"
  outputEncoding : String := "utf-8"
  marker : String := "GenerateEntity"
  logLevel : String := "INFO"
  logFormat : String := "text"
  /-- Keys that named no setting, in the order in which they came. -/
  unknownKeys : List String := []
  /-- Values in another form than a setting's own, by the name of the setting among overrides. -/
  given : List (String × Json) := []
  deriving Repr

namespace Settings

inductive Key where
  | templateName
  | templatePath
  | templateCache
  | trimBlocks
  | stripLines
  | outputExtension
  | outputEncoding
  | marker
  | logLevel
  | logFormat
  deriving Repr, DecidableEq

namespace Key

def all : List Key :=
  [templateName, templatePath, templateCache, trimBlocks, stripLines, outputExtension,
    outputEncoding, marker, logLevel, logFormat]

/-- The name of the setting in a settings file. -/
def property : Key → String
  | templateName => "template.name"
  | templatePath => "resource.loader.path"
  | templateCache => "resource.loader.cache"
  | trimBlocks => "template.trim_blocks"
  | stripLines => "template.lstrip_blocks"
  | outputExtension => "output.extension"
  | outputEncoding => "output.encoding"
  | marker => "marker.annotation"
  | logLevel => "log.level"
  | logFormat => "log.format"

/-- The environment variable of the setting. -/
def environmentName? : Key → Option String
  | templateName => some "ENTITYGEN_TEMPLATE"
  | templatePath => some "ENTITYGEN_TEMPLATE_PATH"
  | templateCache => some "ENTITYGEN_TEMPLATE_CACHE"
  | trimBlocks | stripLines => none
  | outputExtension => some "ENTITYGEN_OUTPUT_EXTENSION"
  | outputEncoding => some "ENTITYGEN_OUTPUT_ENCODING"
  | marker => some "ENTITYGEN_MARKER"
  | logLevel => some "ENTITYGEN_LOG_LEVEL"
  | logFormat => some "ENTITYGEN_LOG_FORMAT"

/-- The name of the setting among overrides. -/
def optionName : Key → String
  | templateName => "template_name"
  | templatePath => "template_path"
  | templateCache => "template_cache"
  | trimBlocks => "trim_blocks"
  | stripLines => "lstrip_blocks"
  | outputExtension => "output_extension"
  | outputEncoding => "output_encoding"
  | marker => "marker_annotation"
  | logLevel => "log_level"
  | logFormat => "log_format"

def ofProperty? (name : String) : Option Key :=
  all.find? (·.property == name)

def ofOptionName? (name : String) : Option Key :=
  all.find? (·.optionName == name)

end Key

def trueWords : List String := ["true", "yes", "on", "1"]
def falseWords : List String := ["false", "no", "off", "0"]

def flag? (raw : String) : Option Bool :=
  let word := Text.lower (Text.trimmed raw)
  if trueWords.contains word then some true
  else if falseWords.contains word then some false
  else none

/-- What stands between the paths of a raw text. -/
inductive Separator where
  | text (s : String)
  | blanks
  /-- A value of a kind that separates nothing. -/
  | unfit (kind : String)
  deriving Repr, DecidableEq

namespace Separator

def ofValue : Json → Separator
  | .string s => text s
  | .null => blanks
  | value => unfit value.kindName

def pieces (separator : Separator) (cs : List Char) : Except Fault (List (List Char)) :=
  match separator with
  | text s =>
    match Text.pieces? s.toList cs with
    | some pieces => .ok pieces
    | none => .error .emptySeparator
  | blanks => .ok (Text.splitAt ' ' (cs.map fun c => if Text.isBlank c then ' ' else c))
  | unfit kind => .error (.notSeparator kind)

end Separator

/-- The paths that a raw text lists. -/
def paths (separator : Separator) (raw : String) : Except Fault (List String) :=
  (separator.pieces (Text.trim raw.toList)).map fun pieces =>
    ((pieces.map Text.trim).filter (· ≠ [])).map String.ofList

/-- An extension begins with a dot unless it is empty. -/
def extension (raw : String) : String :=
  match Text.trim raw.toList with
  | [] => ""
  | '.' :: rest => String.ofList ('.' :: rest)
  | cs => String.ofList ('.' :: cs)

def badFlag (key : Key) (raw : String) : Failure :=
  .configuration ("Setting '" ++ key.property ++ "' expects a boolean, got '" ++ raw ++ "'")
    (some key.property)

def assignFlag (s : Settings) (key : Key) (b : Bool) : Settings :=
  match key with
  | .templateCache => { s with templateCache := b }
  | .trimBlocks => { s with trimBlocks := b }
  | .stripLines => { s with stripLines := b }
  | _ => s

def assignText (s : Settings) (key : Key) (text : String) : Settings :=
  match key with
  | .templateName => { s with templateName := text }
  | .outputExtension => { s with outputExtension := text }
  | .outputEncoding => { s with outputEncoding := text }
  | .marker => { s with marker := text }
  | .logLevel => { s with logLevel := text }
  | .logFormat => { s with logFormat := text }
  | _ => s

/-- Forget the other form of a setting. -/
def settle (s : Settings) (name : String) : Settings :=
  { s with given := s.given.filter (·.1 != name) }

/-- Give a setting the value that a raw text stands for. -/
def assign (separator : Separator) (s : Settings) (key : Key) (raw : String) :
    Except Stop Settings :=
  match key with
  | .templateCache | .trimBlocks | .stripLines =>
    match flag? raw with
    | some b => .ok ((s.settle key.optionName).assignFlag key b)
    | none => .error (.failure (badFlag key raw))
  | .templatePath =>
    match paths separator raw with
    | .ok paths => .ok { s.settle key.optionName with templatePath := paths }
    | .error f => .error (.fault f)
  | .outputExtension => .ok { s.settle key.optionName with outputExtension := extension raw }
  | _ => .ok ((s.settle key.optionName).assignText key (Text.trimmed raw))

/-! Unknown keys -/

def unknownKeysName : String := "unknown_keys"

/-- The unknown keys as a list, so that more of them can follow. -/
def listUnknown (s : Settings) : Except Stop Settings :=
  match Keyed.get? unknownKeysName s.given with
  | none => .ok s
  | some value =>
    match value.items? with
    | some items => .ok { s with given := Keyed.put unknownKeysName (.array items) s.given }
    | none => .error (.fault (.notIterable value.kindName))

def addUnknown (s : Settings) (name : String) : Settings :=
  match Keyed.get? unknownKeysName s.given with
  | some (.array items) =>
    { s with given := Keyed.put unknownKeysName (.array (items ++ [.string name])) s.given }
  | _ => { s with unknownKeys := s.unknownKeys ++ [name] }

/-! Overlays -/

def overlayEntry (separator : Separator) (s : Settings) : String × String → Except Stop Settings
  | (name, raw) =>
    match Key.ofProperty? name with
    | some key => s.assign separator key raw
    | none => .ok (s.addUnknown name)

/-- Lay entries over settings; the first bad value ends it. -/
def overlay (separator : Separator) (s : Settings) (entries : List (String × String)) :
    Except Stop Settings := do
  entries.foldlM (overlayEntry separator) (← s.listUnknown)

/-- An entry whose value may be no text; that of a setting must be one. -/
def overlayRawEntry (separator : Separator) (s : Settings) : String × Json → Except Stop Settings
  | (name, .string raw) => s.overlayEntry separator (name, raw)
  | (name, value) =>
    match Key.ofProperty? name with
    | some _ => .error (.fault (.noMember value.kindName "strip"))
    | none => .ok (s.addUnknown name)

def overlayRaw (separator : Separator) (s : Settings) (entries : List (String × Json)) :
    Except Stop Settings := do
  entries.foldlM (overlayRawEntry separator) (← s.listUnknown)

/-- Lay the members of a value over settings. -/
def overlayValue (separator : Separator) (s : Settings) : Json → Except Stop Settings
  | .object entries => s.overlayRaw separator entries
  | value => do
    let _ ← s.listUnknown
    throw (.fault (.noMember value.kindName "items"))

def overlayProperties (s : Settings) (text : String) : Except Stop Settings :=
  s.overlay (.text ",") (Properties.parse text)

/-- The entries of a value, which has to be a properties text. -/
def entriesOf : Json → Except Fault (List (String × String))
  | .string text => .ok (Properties.parse text)
  | value => .error (.noMember value.kindName "splitlines")

/-- The entries that an environment gives, in the order of the settings. -/
def environmentEntries {α : Type} (environment : List (String × α)) : List (String × α) :=
  Key.all.filterMap fun key => do
    let name ← key.environmentName?
    let value ← environment.lookup name
    pure (key.property, value)

def overlayEnvironment (s : Settings) (environment : List (String × String)) :
    Except Stop Settings :=
  s.overlay (.text ":") (environmentEntries environment)

/-! Overrides -/

/-- The folders that a value of any form lists. -/
def foldersOf (value : Json) : List String :=
  ((value.items?.getD []).mapM Json.string?).getD []

/-- Give a setting a value of any form. -/
def assignRaw (s : Settings) (key : Key) (value : Json) : Settings :=
  let kept := { s with given := Keyed.put key.optionName value s.given }
  match key, value with
  | .templatePath, value => { kept with templatePath := foldersOf value }
  | .templateCache, .bool b | .trimBlocks, .bool b | .stripLines, .bool b =>
    (s.settle key.optionName).assignFlag key b
  | .templateCache, value | .trimBlocks, value | .stripLines, value =>
    kept.assignFlag key value.holds
  | key, .string text => (s.settle key.optionName).assignText key text
  | _, _ => kept

/-- Replace one setting by a given value; null leaves it. -/
def override (s : Settings) : String × Json → Except Stop Settings
  | (name, value) =>
    let unknown : Stop := .failure (.configuration ("Unknown setting: " ++ name) (some name))
    match Key.ofOptionName? name, value with
    | none, .null => if name = unknownKeysName then .ok s else .error unknown
    | none, value =>
      if name = unknownKeysName then .ok { s with given := Keyed.put name value s.given }
      else .error unknown
    | some _, .null => .ok s
    | some key, value => .ok (s.assignRaw key value)

def overrideAll (s : Settings) (overrides : List (String × Json)) : Except Stop Settings :=
  if (Keyed.keys overrides).contains "self" then
    .error (.fault (.repeatedArgument "GeneratorSettings.with_overrides" "self"))
  else overrides.foldlM override s

/-! Values as they are shown and compared -/

/-- The form in which a setting is held: a fixed list of folders, or a value. -/
inductive Form where
  | folders (names : List String)
  | value (v : Json)

namespace Form

def toJson : Form → Json
  | folders names => .strings names
  | value v => v

/-- A fixed list differs from every list that was given. -/
def same : Form → Form → Bool
  | folders a, folders b => a == b
  | value a, value b => a.same b
  | _, _ => false

end Form

/-- A setting in its own form. -/
def ownForm (s : Settings) : Key → Form
  | .templateName => .value (.string s.templateName)
  | .templatePath => .folders s.templatePath
  | .templateCache => .value (.bool s.templateCache)
  | .trimBlocks => .value (.bool s.trimBlocks)
  | .stripLines => .value (.bool s.stripLines)
  | .outputExtension => .value (.string s.outputExtension)
  | .outputEncoding => .value (.string s.outputEncoding)
  | .marker => .value (.string s.marker)
  | .logLevel => .value (.string s.logLevel)
  | .logFormat => .value (.string s.logFormat)

def form (s : Settings) (key : Key) : Form :=
  match Keyed.get? key.optionName s.given with
  | some value => .value value
  | none => s.ownForm key

/-- Equality apart from the unknown keys. -/
def agrees (s t : Settings) : Bool :=
  Key.all.all fun key => (s.form key).same (t.form key)

def toMembers (s : Settings) : List (String × Json) :=
  Key.all.map (fun key => (key.optionName, (s.form key).toJson)) ++
    [(unknownKeysName, (Keyed.get? unknownKeysName s.given).getD (.strings s.unknownKeys))]

/-! Faults of values in other forms -/

/-- Why the folders of templates cannot be listed. -/
def foldersFault? (s : Settings) : Option Fault :=
  (Keyed.get? Key.templatePath.optionName s.given).bind fun value =>
    match value.items? with
    | none => some (.notListed value.kindName)
    | some items => (items.find? (·.string?.isNone)).map fun item => .notPath item.kindName

/-- Why no template can be parsed. -/
def styleFault? (s : Settings) : Option Fault :=
  [Key.trimBlocks, Key.stripLines].findSome? fun key =>
    (Keyed.get? key.optionName s.given).bind fun value =>
      if value.isComposite then some (.unhashable value.kindName) else none

/-- The name of the usual template, or why it is none. -/
def usualTemplate (s : Settings) : Except Fault String :=
  match Keyed.get? Key.templateName.optionName s.given with
  | none => .ok s.templateName
  | some value =>
    if value.isComposite && s.templateCache then .error (.unhashable value.kindName)
    else .error (.noMember value.kindName "split")

end Settings

end BeanForge

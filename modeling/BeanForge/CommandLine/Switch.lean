import BeanForge.CommandLine.Usage
import BeanForge.Text.Resemblance

/-!
# Switches

Options are read off the words of a command line. A long option may carry its
value after an equals sign, a short one directly; other words are left over, and
two dashes end the options.
-/

namespace BeanForge.CommandLine

/-- An option by its names, and whether it takes a value. -/
structure Switch (κ : Type) where
  key : κ
  names : List String
  takesValue : Bool := true

/-- An option as it is given; a switch without a value is given an empty one. -/
abbrev Given (κ : Type) := List (κ × String)

/-- The options given, in order, and the words that are left. -/
structure Scan (κ : Type) where
  given : Given κ
  rest : List String

namespace Switch

variable {κ : Type}

def named? (switches : List (Switch κ)) (name : String) : Option (Switch κ) :=
  switches.find? (·.names.contains name)

def isLongName (name : String) : Bool :=
  "--".toList.isPrefixOf name.toList

def longNames (switches : List (Switch κ)) : List String :=
  (switches.flatMap (·.names)).filter isLongName

/-- What one word gives; the last option may still want its value. -/
structure Reading (κ : Type) where
  given : Given κ
  wanting : Option (κ × String) := none

/-- Split a word at its first equals sign. -/
def splitValue (word : List Char) : String × Option String :=
  match word.dropWhile (· != '=') with
  | [] => (String.ofList word, none)
  | _ :: value => (String.ofList (word.takeWhile (· != '=')), some (String.ofList value))

def readLong (switches : List (Switch κ)) (word : String) : Except UsageError (Reading κ) :=
  let (name, value) := splitValue word.toList
  match named? switches name, value with
  | none, _ => .error (.unknownOption name (Text.closest name (longNames switches)))
  | some s, some value =>
    if s.takesValue then .ok ⟨[(s.key, value)], none⟩ else .error (.valueUnwanted name)
  | some s, none =>
    if s.takesValue then .ok ⟨[], some (s.key, name)⟩ else .ok ⟨[(s.key, "")], none⟩

/-- Read the letters after a single dash, each of which is an option. -/
def readLetters (switches : List (Switch κ)) : List Char → Except UsageError (Reading κ)
  | [] => .ok ⟨[], none⟩
  | c :: rest =>
    let name := String.ofList ['-', c]
    match named? switches name with
    | none => .error (.unknownOption name [])
    | some s =>
      if s.takesValue then
        if rest.isEmpty then .ok ⟨[], some (s.key, name)⟩
        else .ok ⟨[(s.key, String.ofList rest)], none⟩
      else (readLetters switches rest).map fun r => { r with given := (s.key, "") :: r.given }

def read (switches : List (Switch κ)) (word : String) : Except UsageError (Reading κ) :=
  if isLongName word then readLong switches word else readLetters switches (word.toList.drop 1)

/-- A lone dash is an ordinary word. -/
def isOption (word : String) : Bool :=
  match word.toList with
  | '-' :: _ :: _ => true
  | _ => false

/-- Read all options; unless they may be mixed with other words, the first other word ends them. -/
def scan (switches : List (Switch κ)) (mixed : Bool) : List String → Except UsageError (Scan κ)
  | [] => .ok ⟨[], []⟩
  | word :: rest =>
    if word = "--" then .ok ⟨[], rest⟩
    else if isOption word then
      match read switches word with
      | .error e => .error e
      | .ok ⟨given, none⟩ =>
        (scan switches mixed rest).map fun s => { s with given := given ++ s.given }
      | .ok ⟨given, some (key, name)⟩ =>
        match rest with
        | [] => .error (.valueMissing name)
        | value :: rest =>
          (scan switches mixed rest).map fun s =>
            { s with given := given ++ (key, value) :: s.given }
    else if mixed then (scan switches mixed rest).map fun s => { s with rest := word :: s.rest }
    else .ok ⟨[], word :: rest⟩

end Switch

namespace Given

variable {κ : Type} [DecidableEq κ]

/-- All values of an option, in order. -/
def values (given : Given κ) (key : κ) : List String :=
  (given.filter (·.1 = key)).map (·.2)

/-- The value of an option that counts once: the last one. -/
def value? (given : Given κ) (key : κ) : Option String :=
  (given.values key).getLast?

/-- The options that are given, in the order of their first use. -/
def keys (given : Given κ) : List κ :=
  (given.map (·.1)).eraseDups

end Given

end BeanForge.CommandLine

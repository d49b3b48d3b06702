/-!
# Log levels

Levels by rising weight, each with its name and the colour of its name in texts.
-/

namespace BeanForge.Log

inductive Level where
  | debug
  | info
  | warning
  | error
  | critical
  deriving Repr, DecidableEq

namespace Level

def all : List Level := [debug, info, warning, error, critical]

def name : Level → String
  | debug => "DEBUG"
  | info => "INFO"
  | warning => "WARNING"
  | error => "ERROR"
  | critical => "CRITICAL"

def weight : Level → Nat
  | debug => 10
  | info => 20
  | warning => 30
  | error => 40
  | critical => 50

def named? (name : String) : Option Level :=
  all.find? (·.name == name)

/-- Further names of levels, which records may be given. -/
def otherNames : List (String × Level) :=
  [("WARN", warning), ("FATAL", critical)]

/-- A level by any of its names. -/
def called? (name : String) : Option Level :=
  (named? name).or (otherNames.lookup name)

def escape : String := String.singleton (Char.ofNat 27)

def colour : Level → String
  | debug => escape ++ "[36m"
  | info => escape ++ "[32m"
  | warning => escape ++ "[33m"
  | error => escape ++ "[31m"
  | critical => escape ++ "[35m"

def colourEnd : String := escape ++ "[0m"

end Level

end BeanForge.Log

import BeanForge.Template.Value

/-!
# Parsed templates

A template is a list of parts: text that is copied, expressions that are printed,
and tags with the parts between them. A branch has alternatives, each with its
condition, and parts for when no condition holds.
-/

namespace BeanForge.Template

inductive Comparison where
  | equal
  | unequal
  | less
  | lessOrEqual
  | greater
  | greaterOrEqual
  | within
  | notWithin
  deriving Repr, DecidableEq

inductive Operator where
  | add
  | subtract
  | multiply
  | floorDivide
  | remainder
  deriving Repr, DecidableEq

namespace Operator

def sign : Operator → String
  | add => "+"
  | subtract => "-"
  | multiply => "*"
  | floorDivide => "//"
  | remainder => "%"

end Operator

inductive Expr where
  | literal (value : Value)
  | name (text : String)
  | tuple (items : List Expr)
  | list (items : List Expr)
  | member (owner : Expr) (name : String)
  | item (owner index : Expr)
  | call (function : Expr) (arguments : List (Option String × Expr))
  | filter (input : Expr) (name : String) (arguments : List (Option String × Expr)) (line : Nat)
  | test (input : Expr) (name : String) (arguments : List (Option String × Expr)) (line : Nat)
  | negative (operand : Expr)
  | positive (operand : Expr)
  | inverse (operand : Expr)
  | arithmetic (operator : Operator) (left right : Expr)
  | concatenation (parts : List Expr)
  | comparison (first : Expr) (others : List (Comparison × Expr))
  | both (left right : Expr)
  | either (left right : Expr)
  | choice (condition value : Expr) (otherwise : Option Expr) (line : Nat)
  deriving Repr, Inhabited

/-- What a loop or an assignment gives values to. -/
inductive Target where
  | name (text : String) (line : Nat)
  /-- A member of what a name stands for. -/
  | member (owner name : String)
  | tuple (parts : List Target)
  deriving Repr, Inhabited

/-- A filter that is applied to a text. -/
structure Refinement where
  name : String
  arguments : List (Option String × Expr)
  line : Nat
  deriving Repr, Inhabited

inductive Part where
  | text (content : String)
  | print (value : Expr)
  | assign (target : Target) (value : Expr)
  /-- Give a name to the text that the parts inside yield, with filters applied to it. -/
  | capture (target : Target) (refinements : List Refinement) (body : List Part)
  | branch (alternatives : List (Expr × List Part)) (otherwise : List Part)
  | loop (target : Target) (source : Expr) (condition : Option Expr) (body otherwise : List Part)
  | insert (name : Expr) (optional : Bool)
  deriving Repr, Inhabited

/-! Names -/

namespace Target

mutual

/-- The names that are given values. -/
def names : Target → List String
  | name text _ => [text]
  | member _ _ => []
  | tuple parts => namesOf parts

def namesOf : List Target → List String
  | [] => []
  | t :: rest => names t ++ namesOf rest

end

mutual

/-- The names whose members are given values. -/
def owners : Target → List String
  | name _ _ => []
  | member owner _ => [owner]
  | tuple parts => ownersOf parts

def ownersOf : List Target → List String
  | [] => []
  | t :: rest => owners t ++ ownersOf rest

end

mutual

/-- The lines on which a name is given a value. -/
def linesOf (wanted : String) : Target → List Nat
  | name text line => if text = wanted then [line] else []
  | member _ _ => []
  | tuple parts => linesIn wanted parts

def linesIn (wanted : String) : List Target → List Nat
  | [] => []
  | t :: rest => linesOf wanted t ++ linesIn wanted rest

end

end Target

namespace Expr

mutual

/-- The names that an expression reads, in order. -/
def names : Expr → List String
  | literal _ => []
  | name text => [text]
  | tuple items => namesOf items
  | list items => namesOf items
  | member owner _ => names owner
  | item owner index => names owner ++ names index
  | call function arguments => names function ++ argumentNames arguments
  | filter input _ arguments _ => names input ++ argumentNames arguments
  | test input _ arguments _ => names input ++ argumentNames arguments
  | negative operand => names operand
  | positive operand => names operand
  | inverse operand => names operand
  | arithmetic _ left right => names left ++ names right
  | concatenation parts => namesOf parts
  | comparison first others => names first ++ otherNames others
  | both left right => names left ++ names right
  | either left right => names left ++ names right
  | choice condition value otherwise _ =>
    names condition ++ names value ++ (match otherwise with
      | some e => names e
      | none => [])

def namesOf : List Expr → List String
  | [] => []
  | e :: rest => names e ++ namesOf rest

def argumentNames : List (Option String × Expr) → List String
  | [] => []
  | (_, e) :: rest => names e ++ argumentNames rest

def otherNames : List (Comparison × Expr) → List String
  | [] => []
  | (_, e) :: rest => names e ++ otherNames rest

end

end Expr

namespace Part

mutual

/-- The names that a part reads or gives values to in its own scope. The parts inside a loop or
capture have a scope of their own. -/
def touched : Part → List String
  | text _ => []
  | print value => value.names
  | assign target value => value.names ++ target.owners ++ target.names
  | capture target _ _ => target.owners ++ target.names
  | branch alternatives otherwise => touchedInAlternatives alternatives ++ touchedIn otherwise
  | loop _ source _ _ _ => source.names
  | insert name _ => name.names

def touchedIn : List Part → List String
  | [] => []
  | p :: rest => touched p ++ touchedIn rest

def touchedInAlternatives : List (Expr × List Part) → List String
  | [] => []
  | (condition, body) :: rest =>
    condition.names ++ touchedIn body ++ touchedInAlternatives rest

end

mutual

/-- The names that a part gives values to in its own scope. -/
def written : Part → List String
  | assign target _ => target.names
  | capture target _ _ => target.names
  | branch alternatives otherwise => writtenInAlternatives alternatives ++ writtenIn otherwise
  | _ => []

def writtenIn : List Part → List String
  | [] => []
  | p :: rest => written p ++ writtenIn rest

def writtenInAlternatives : List (Expr × List Part) → List String
  | [] => []
  | (_, body) :: rest => writtenIn body ++ writtenInAlternatives rest

end

/-- Of some names those that a branch writes whatever holds: under its first condition, under a
further one, and without any. -/
def writtenAnyway (names : List String) : List (Expr × List Part) → List String
  | [] => []
  | (_, body) :: others =>
    names.filter fun name =>
      (writtenIn body).contains name && (writtenInAlternatives others).contains name

/-- The names in the condition of the first alternative. -/
def firstCondition (alternatives : List (Expr × List Part)) : List String :=
  (alternatives.head?.map (·.1.names)).getD []

mutual

/-- The names that a part writes before anything else is done with them, if `seen` has no others. -/
def writtenFirst (seen : List String) : Part → List String
  | assign target value =>
    target.names.filter fun name => !seen.contains name && !value.names.contains name
  | capture target _ _ => target.names.filter (!seen.contains ·)
  | branch alternatives otherwise =>
    writtenAnyway (writtenFirstIn (seen ++ firstCondition alternatives) otherwise) alternatives
  | _ => []

def writtenFirstIn (seen : List String) : List Part → List String
  | [] => []
  | p :: rest => writtenFirst seen p ++ writtenFirstIn (seen ++ p.touched) rest

end

mutual

/-- Whether a name is read in a part or anywhere inside it. -/
def reads (wanted : String) : Part → Bool
  | text _ => false
  | print value => value.names.contains wanted
  | assign _ value => value.names.contains wanted
  | capture _ refinements body =>
    (refinements.any fun r => (Expr.argumentNames r.arguments).contains wanted) ||
      readsIn wanted body
  | branch alternatives otherwise =>
    readsInAlternatives wanted alternatives || readsIn wanted otherwise
  | loop _ source condition body otherwise =>
    source.names.contains wanted || ((condition.map (·.names)).getD []).contains wanted ||
      readsIn wanted body || readsIn wanted otherwise
  | insert name _ => name.names.contains wanted

def readsIn (wanted : String) : List Part → Bool
  | [] => false
  | p :: rest => reads wanted p || readsIn wanted rest

def readsInAlternatives (wanted : String) : List (Expr × List Part) → Bool
  | [] => false
  | (condition, body) :: rest =>
    condition.names.contains wanted || readsIn wanted body || readsInAlternatives wanted rest

end

mutual

/-- The lines on which a name is given a value in a part or anywhere inside it. -/
def linesOf (wanted : String) : Part → List Nat
  | assign target _ => target.linesOf wanted
  | capture target _ body => target.linesOf wanted ++ linesIn wanted body
  | branch alternatives otherwise =>
    linesInAlternatives wanted alternatives ++ linesIn wanted otherwise
  | loop target _ _ body otherwise =>
    target.linesOf wanted ++ linesIn wanted body ++ linesIn wanted otherwise
  | _ => []

def linesIn (wanted : String) : List Part → List Nat
  | [] => []
  | p :: rest => linesOf wanted p ++ linesIn wanted rest

def linesInAlternatives (wanted : String) : List (Expr × List Part) → List Nat
  | [] => []
  | (_, body) :: rest => linesIn wanted body ++ linesInAlternatives wanted rest

end

/-- Whether the parts ask for the template itself. -/
def asksItself (parts : List Part) : Bool :=
  readsIn "self" parts

end Part

end BeanForge.Template

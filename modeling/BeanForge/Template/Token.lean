import BeanForge.Template.Number
import BeanForge.Text.Quoted

/-!
# Tokens of templates

The pieces of a template: text that is copied, the marks around tags, and the
words inside tags. The last token of a template ends it, or tells why no further
token can be read.
-/

namespace BeanForge.Template

inductive TokenKind where
  | data
  | blockBegin
  | blockEnd
  | variableBegin
  | variableEnd
  | name
  | string
  | integer
  | float
  | operator
  | finish
  | flaw
  | badInteger
  | badFloat
  deriving Repr, DecidableEq

structure Token where
  kind : TokenKind
  /-- The value of a string, the spelling of another word, or the account of a flaw. -/
  text : String
  line : Nat
  deriving Repr, DecidableEq

/-- What is wrong with the wording of a template, and where. -/
structure SyntaxFault where
  reason : String
  line : Nat
  deriving Repr, DecidableEq

/-- Why a template is refused. -/
inductive Refusal where
  | malformed (fault : SyntaxFault)
  | badNumber (fault : NumberFault)
  /-- A constant part asks something of a value that is not there. -/
  | absent (message : String)
  deriving Repr, DecidableEq

namespace TokenKind

def description : TokenKind → String
  | data => "template data / text"
  | blockBegin => "begin of statement block"
  | blockEnd => "end of statement block"
  | variableBegin => "begin of print statement"
  | variableEnd => "end of print statement"
  | name => "name"
  | string => "string"
  | integer => "integer"
  | float => "float"
  | operator => "operator"
  | finish => "end of template"
  | flaw => "flaw"
  | badInteger => "integer"
  | badFloat => "float"

end TokenKind

namespace Token

/-- Why no further token can be read from a token on. -/
def refusal? (t : Token) : Option Refusal :=
  match t.kind with
  | .flaw => some (.malformed ⟨t.text, t.line⟩)
  | .badInteger => (integerFault? t.text.toList).map .badNumber
  | .badFloat => (fractionFault? none t.text.toList).map .badNumber
  | _ => none

/-- Names and operators are described by their spelling. -/
def description (t : Token) : String :=
  match t.kind with
  | .name | .operator => t.text
  | kind => kind.description

def isName (t : Token) (text : String) : Bool :=
  t.kind == .name && t.text == text

def isOperator (t : Token) (text : String) : Bool :=
  t.kind == .operator && t.text == text

end Token

/-- How a template is laid out around its tags. -/
structure Style where
  /-- Drop the line end right after a block or comment. -/
  trimBlocks : Bool := true
  /-- Drop the blanks before a block or comment that is first on its line. -/
  stripLines : Bool := true
  deriving Repr, DecidableEq

end BeanForge.Template

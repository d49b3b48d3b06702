import BeanForge.Placeholder.Argument
import BeanForge.Text.Charset
import BeanForge.Text.Quoted

/-!
# Faults while rendering

Why a template yields no text, by cause: a value is missing, values do not fit
an operation, or a template to insert is not there.
-/

namespace BeanForge.Template

/-- How values do not fit what is done with them. Kinds are the names of kinds of values. -/
inductive Misuse where
  | concatenation (left right : String)
  | operands (sign left right : String)
  | operand (sign kind : String)
  | repetition (kind : String)
  | divisionByZero
  | remainderByZero
  | fractionDivisionByZero
  | fractionRemainderByZero
  | tooLarge
  | placement (m : Placeholder.Mismatch)
  | noKey (shown : String)
  | wrongIndex (kind : String)
  | noDigits (text : String)
  | unknownWord (word : String)
  | unordered (sign left right : String)
  | notInText (kind : String)
  | notContainer (kind : String)
  | notIterable (kind : String)
  | notUnpackable (kind : String)
  | tooFewItems (expected found : Nat)
  | tooManyItems (expected : Nat)
  | notCallable (kind : String)
  | notSubscriptable (kind : String)
  | unassignable (kind : String)
  | unhashable (kind : String)
  | lengthless (kind : String)
  | noMember (kind name : String)
  | surplusArguments (function : String) (least most given : Nat)
  | strangeArgument (function name : String)
  | repeatedArgument (function name : String)
  | oneArgument (function : String) (given : Nat)
  | noNamedArguments (function : String)
  | undecodable (u : Text.Utf8.Undecodable)
  | badNumber (category message : String)
  /-- A whole number has too many digits to be written. -/
  | unwritable
  | tooDeep
  deriving Repr, DecidableEq

namespace Misuse

def category : Misuse → String
  | divisionByZero | remainderByZero | fractionDivisionByZero | fractionRemainderByZero =>
    "ZeroDivisionError"
  | tooFewItems _ _ | tooManyItems _ | noDigits _ | unwritable => "ValueError"
  | tooLarge => "OverflowError"
  | placement m => m.category
  | noKey _ => "KeyError"
  | unknownWord _ => "NameError"
  | noMember _ _ => "AttributeError"
  | undecodable _ => "UnicodeDecodeError"
  | badNumber category _ => category
  | tooDeep => "RecursionError"
  | _ => "TypeError"

def plural (n : Nat) (text : String) : String :=
  if n = 1 then text else text ++ "s"

def surplusText (function : String) (least most given : Nat) : String :=
  function ++ "() takes " ++
    (if least = most then "" else "from " ++ toString least ++ " to ") ++ toString most ++ " " ++
    plural most "positional argument" ++ " but " ++ toString given ++
    (if given = 1 then " was" else " were") ++ " given"

def text : Misuse → String
  | concatenation left right =>
    "can only concatenate " ++ left ++ " (not \"" ++ right ++ "\") to " ++ left
  | operands sign left right =>
    "unsupported operand type(s) for " ++ sign ++ ": '" ++ left ++ "' and '" ++ right ++ "'"
  | operand sign kind => "bad operand type for unary " ++ sign ++ ": '" ++ kind ++ "'"
  | repetition kind => "can't multiply sequence by non-int of type '" ++ kind ++ "'"
  | divisionByZero => "integer division or modulo by zero"
  | remainderByZero => "integer modulo by zero"
  | fractionDivisionByZero => "float floor division by zero"
  | fractionRemainderByZero => "float modulo"
  | tooLarge => "int too large to convert to float"
  | placement m => m.message
  | noKey shown => shown
  | wrongIndex kind => kind ++ " indices must be integers or slices, not str"
  | noDigits text => "invalid literal for int() with base 10: " ++ Text.quoted text
  | unknownWord word => "name '" ++ word ++ "' is not defined"
  | unordered sign left right =>
    "'" ++ sign ++ "' not supported between instances of '" ++ left ++ "' and '" ++ right ++ "'"
  | notInText kind => "'in <string>' requires string as left operand, not " ++ kind
  | notContainer kind => "argument of type '" ++ kind ++ "' is not iterable"
  | notIterable kind => "'" ++ kind ++ "' object is not iterable"
  | notUnpackable kind => "cannot unpack non-iterable " ++ kind ++ " object"
  | tooFewItems expected found =>
    "not enough values to unpack (expected " ++ toString expected ++ ", got " ++ toString found ++ ")"
  | tooManyItems expected => "too many values to unpack (expected " ++ toString expected ++ ")"
  | notCallable kind => "'" ++ kind ++ "' object is not callable"
  | notSubscriptable kind => "'" ++ kind ++ "' object is not subscriptable"
  | unassignable kind => "'" ++ kind ++ "' object does not support item assignment"
  | unhashable kind => "unhashable type: '" ++ kind ++ "'"
  | lengthless kind => "object of type '" ++ kind ++ "' has no len()"
  | noMember kind name => "'" ++ kind ++ "' object has no attribute '" ++ name ++ "'"
  | surplusArguments function least most given => surplusText function least most given
  | strangeArgument function name =>
    function ++ "() got an unexpected keyword argument '" ++ name ++ "'"
  | repeatedArgument function name =>
    function ++ "() got multiple values for argument '" ++ name ++ "'"
  | oneArgument function given =>
    function ++ "() takes exactly one argument (" ++ toString given ++ " given)"
  | noNamedArguments function => function ++ "() takes no keyword arguments"
  | undecodable u => u.message
  | badNumber _ message => message
  | unwritable => Text.tooManyDigits
  | tooDeep => "maximum recursion depth exceeded"

end Misuse

inductive RenderFault where
  /-- A value is used that is not there; the message tells which. -/
  | absent (message : String)
  | misuse (m : Misuse)
  /-- What a template asks for is refused. -/
  | refused (message : String)
  | templateMissing (name : Option String)
  /-- The name of a template that is missing is not there itself. -/
  | missingName (message : String)
  deriving Repr, DecidableEq

abbrev Rendered (α : Type) := Except RenderFault α

namespace Rendered

def misuse {α : Type} (m : Misuse) : Rendered α :=
  .error (.misuse m)

def refused {α : Type} (message : String) : Rendered α :=
  .error (.refused message)

end Rendered

end BeanForge.Template

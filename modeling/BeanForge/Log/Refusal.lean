import BeanForge.Failure.Signature
import BeanForge.Json.Display

/-!
# Refused requests for logging

Why a request to a logger, or for a scope, is not carried out: it names what is
not there, gives something twice, or gives values of the wrong kind.
-/

namespace BeanForge.Log

/-- Kinds are the names of kinds of values. -/
inductive Refusal where
  | unknownLevel (name : String)
  | unknownLayout (name : String)
  | unknownCall (name : String)
  | reservedField (name : String)
  | repeatedArgument (call name : String)
  | strangeArgument (call name : String)
  | noMember (kind name : String)
  | notIterable (kind : String)
  | notPair (index : Nat)
  | wrongLength (index length : Nat)
  | unhashable (kind : String)
  | unordered (kind : String)
  | notName
  | noScope
  | misfit (m : Failure.Misfit)
  deriving Repr, DecidableEq

namespace Refusal

def category : Refusal → String
  | unknownLevel _ | unknownLayout _ | wrongLength _ _ => "ValueError"
  | unknownCall _ | noMember _ _ => "AttributeError"
  | reservedField _ => "KeyError"
  | noScope => "IndexError"
  | _ => "TypeError"

def message : Refusal → String
  | unknownLevel name => Text.quoted name ++ " is not a valid LogLevel"
  | unknownLayout name => Text.quoted name ++ " is not a valid LogFormat"
  | unknownCall name => "'EntityGenLogger' object has no attribute '" ++ name ++ "'"
  | reservedField name =>
    Text.quoted ("Attempt to overwrite " ++ Text.quoted name ++ " in LogRecord")
  | repeatedArgument call name => call ++ "() got multiple values for argument '" ++ name ++ "'"
  | strangeArgument call name =>
    call ++ "() got an unexpected keyword argument '" ++ name ++ "'"
  | noMember kind name => "'" ++ kind ++ "' object has no attribute '" ++ name ++ "'"
  | notIterable kind => "'" ++ kind ++ "' object is not iterable"
  | notPair index =>
    "cannot convert dictionary update sequence element #" ++ toString index ++ " to a sequence"
  | wrongLength index length =>
    "dictionary update sequence element #" ++ toString index ++ " has length " ++
      toString length ++ "; 2 is required"
  | unhashable kind => "unhashable type: '" ++ kind ++ "'"
  | unordered kind => "'>=' not supported between instances of 'int' and '" ++ kind ++ "'"
  | notName => "A logger name must be a string"
  | noScope => "pop from empty list"
  | misfit m => m.message

end Refusal

end BeanForge.Log

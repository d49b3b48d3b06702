import BeanForge.Failure
import BeanForge.FileTree.OsError
import BeanForge.Text.Charset

/-!
# Faults

What ends an operation without being a failure of its own: nobody on the way
expects it, so it is handed on as it is.
-/

namespace BeanForge

inductive Fault where
  | undecodable (u : Text.Utf8.Undecodable)
  | unencodable (u : Text.Unencodable)
  /-- No codec is known under a name, or none that is good for texts. -/
  | unknownCharset (message : String)
  /-- Something is done to a closed stream; streams over memory word it without a stop. -/
  | closedStream (inMemory : Bool)
  | nulInPath
  | nulInName
  | system (e : OsError)
  | emptySeparator
  /-- A template asks for something that is not there before it has any variables. -/
  | missingValue (message : String)
  | badNumber (category message : String)
  | notListed (kind : String)
  | notPath (kind : String)
  | notIterable (kind : String)
  | unhashable (kind : String)
  | noMember (kind name : String)
  | repeatedArgument (call name : String)
  | tokensExhausted
  | textEnds
  | beyondText
  | noCharacter
  | missingSink (key : String)
  | unknownSeverity (shown : String)
  /-- A text cannot be put behind a value of another kind. -/
  | notExtensible (kind : String)
  | notSeparator (kind : String)
  | beyondTable
  | hugePosition
  | notPosition (kind : String)
  | raised (message : String)
  deriving Repr, DecidableEq

namespace Fault

def category : Fault → String
  | undecodable _ => "UnicodeDecodeError"
  | unencodable _ => "UnicodeEncodeError"
  | unknownCharset _ => "LookupError"
  | closedStream _ | nulInPath | nulInName | emptySeparator | noCharacter | unknownSeverity _ =>
    "ValueError"
  | system e => e.kind.category
  | missingValue _ => "UndefinedError"
  | badNumber category _ => category
  | notListed _ | notPath _ | notIterable _ | unhashable _ | repeatedArgument _ _ | textEnds
  | notExtensible _ | notSeparator _ | notPosition _ => "TypeError"
  | noMember _ _ => "AttributeError"
  | tokensExhausted => "StopIteration"
  | beyondText | beyondTable | hugePosition => "IndexError"
  | missingSink _ => "KeyError"
  | raised _ => "RuntimeError"

def message : Fault → String
  | undecodable u => u.message
  | unencodable u => u.message
  | unknownCharset text => text
  | closedStream inMemory => "I/O operation on closed file" ++ (if inMemory then "" else ".")
  | nulInPath => "embedded null byte"
  | nulInName => "embedded null character"
  | system e => e.message
  | emptySeparator => "empty separator"
  | missingValue text => text
  | badNumber _ text => text
  | notListed kind => "Value after * must be an iterable, not " ++ kind
  | notPath kind => "expected str, bytes or os.PathLike object, not " ++ kind
  | notIterable kind => "'" ++ kind ++ "' object is not iterable"
  | unhashable kind => "unhashable type: '" ++ kind ++ "'"
  | noMember kind name => "'" ++ kind ++ "' object has no attribute '" ++ name ++ "'"
  | repeatedArgument call name => call ++ "() got multiple values for argument '" ++ name ++ "'"
  | tokensExhausted => ""
  | textEnds => "'in <string>' requires string as left operand, not NoneType"
  | beyondText => "string index out of range"
  | noCharacter => "chr() arg not in range(0x110000)"
  | missingSink key => Text.quoted key
  | unknownSeverity shown => shown ++ " is not a valid Severity"
  | notExtensible "list" => "can only concatenate list (not \"str\") to list"
  | notExtensible kind => "unsupported operand type(s) for +: '" ++ kind ++ "' and 'str'"
  | notSeparator kind => "must be str or None, not " ++ kind
  | beyondTable => "tuple index out of range"
  | hugePosition => "cannot fit 'int' into an index-sized integer"
  | notPosition kind => "tuple indices must be integers or slices, not " ++ kind
  | raised message => message

/-- Why no path has a text: a character has no bytes in names of files, or is NUL. -/
def ofPath? (path : String) : Option Fault :=
  match Text.Unencodable.find? "utf-8" "surrogates not allowed" Text.hasFileBytes Text.isHalf
      path.toList with
  | some u => some (.unencodable u)
  | none => if path.toList.contains (Char.ofNat 0) then some .nulInPath else none

end Fault

/-- How an operation stops short. -/
inductive Stop where
  | failure (f : Failure)
  | fault (f : Fault)
  deriving Repr, DecidableEq

end BeanForge

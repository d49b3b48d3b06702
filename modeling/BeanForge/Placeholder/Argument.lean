import BeanForge.Number
import BeanForge.Text.Decimal
import BeanForge.Text.Hex

/-!
# Arguments of placeholders

What is put in the places of a text: each argument has two forms as text, and is
a text, a number or neither. A value that is not there fails in whatever way it
is asked for.
-/

namespace BeanForge.Placeholder

/-- What an argument is, as far as a placeholder may ask. -/
inductive Nature (ε : Type) where
  | text (s : String)
  | number (n : Number)
  | absent (e : ε)
  | other

structure Argument (ε : Type) where
  /-- The name of its kind in messages about the wrong kind. -/
  kind : String
  nature : Nature ε
  plain : Except ε String
  /-- The form in which texts stand between quotes. -/
  inside : Except ε String

/-- Why arguments do not fit a text. -/
inductive Mismatch where
  | incomplete
  | incompleteKey
  | unknownSign (sign : Char) (index : Nat)
  | wideTooBig
  | precisionTooBig
  | notMapping
  | tooFew
  | leftOver
  | starNotWhole
  | starTooBig (word : String)
  | notReal (sign : Char) (kind : String)
  | notWhole (sign : Char) (kind : String)
  | notFraction (kind : String)
  | notCharacter
  | noSuchCharacter
  | infinite
  | noNumber
  | tooLarge
  /-- A whole number has too many digits to be written. -/
  | unwritable
  deriving Repr, DecidableEq

namespace Mismatch

def category : Mismatch → String
  | incomplete | incompleteKey | unknownSign _ _ | wideTooBig | precisionTooBig | noNumber
  | unwritable =>
    "ValueError"
  | noSuchCharacter | infinite | tooLarge | starTooBig _ => "OverflowError"
  | _ => "TypeError"

/-- A sign as messages show it. -/
def shownSign (sign : Char) : Char :=
  if 31 ≤ sign.toNat && sign.toNat < 126 then sign else '?'

def message : Mismatch → String
  | incomplete => "incomplete format"
  | incompleteKey => "incomplete format key"
  | unknownSign sign index =>
    "unsupported format character '" ++ String.singleton (shownSign sign) ++ "' (0x" ++
      String.ofList (Nat.toDigits 16 sign.toNat) ++ ") at index " ++ toString index
  | wideTooBig => "width too big"
  | precisionTooBig => "precision too big"
  | notMapping => "format requires a mapping"
  | tooFew => "not enough arguments for format string"
  | leftOver => "not all arguments converted during string formatting"
  | starNotWhole => "* wants int"
  | starTooBig word => "Python int too large to convert to C " ++ word
  | notReal sign kind =>
    "%" ++ String.singleton sign ++ " format: a real number is required, not " ++ kind
  | notWhole sign kind =>
    "%" ++ String.singleton sign ++ " format: an integer is required, not " ++ kind
  | notFraction kind => "must be real number, not " ++ kind
  | notCharacter => "%c requires int or char"
  | noSuchCharacter => "%c arg not in range(0x110000)"
  | infinite => "cannot convert float infinity to integer"
  | noNumber => "cannot convert float NaN to integer"
  | tooLarge => "int too large to convert to float"
  | unwritable => Text.tooManyDigits

end Mismatch

/-- What ends the filling: arguments that do not fit, or one that fails. -/
inductive Obstacle (ε : Type) where
  | mismatch (m : Mismatch)
  | argument (e : ε)

abbrev Filled (ε α : Type) := Except (Obstacle ε) α

namespace Filled

variable {ε α : Type}

def mismatch (m : Mismatch) : Filled ε α :=
  .error (.mismatch m)

def ofArgument (a : Except ε α) : Filled ε α :=
  a.mapError .argument

end Filled

end BeanForge.Placeholder

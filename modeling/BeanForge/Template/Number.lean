import BeanForge.Binary64.Basic
import BeanForge.Text.CharClass
import BeanForge.Text.Decimal
import BeanForge.Text.Hex

/-!
# Numbers in templates

Whole numbers in base two, eight, ten or sixteen, and fractions in base ten. An
underscore may stand between digits and counts for nothing.
-/

namespace BeanForge.Template

open Text

/-- A part of a text and what follows it. -/
abbrev Cut := List Char × List Char

/-- Put something in front of the part that is cut off. -/
def Cut.after (front : List Char) (cut : Cut) : Cut :=
  (front ++ cut.1, cut.2)

/-- Why a number cannot be read. -/
inductive NumberFault where
  /-- A fraction has a digit outside ASCII. -/
  | strangeDigit (c : Char)
  | badPower
  | tooLong (count : Nat)
  /-- A number that follows from others has too many digits to be written. -/
  | unwritable
  deriving Repr, DecidableEq

namespace NumberFault

def category : NumberFault → String
  | tooLong _ | unwritable => "ValueError"
  | _ => "SyntaxError"

def message : NumberFault → String
  | strangeDigit c =>
    "invalid character '" ++ String.singleton c ++ "' (U+" ++ String.ofList (upperHex c.toNat) ++
      ") (<unknown>, line 1)"
  | badPower => "invalid decimal literal (<unknown>, line 1)"
  | tooLong count =>
    "Exceeds the limit (4300 digits) for integer string conversion: value has " ++
      toString count ++ " digits; use sys.set_int_max_str_digits() to increase the limit"
  | unwritable => tooManyDigits
where
  upperHex (n : Nat) : List Char :=
    (Text.hexFixed (if n < 0x10000 then 4 else 5) n).map Char.toUpper

end NumberFault

def startsWith (ok : Char → Bool) : List Char → Bool
  | c :: _ => ok c
  | [] => false

/-- Digits with single underscores between them. -/
def digitRun (inRun : Bool) : List Char → Cut
  | [] => ([], [])
  | c :: rest =>
    if isDecimalDigit c then (digitRun true rest).after [c]
    else if c = '_' && inRun && startsWith isDecimalDigit rest then
      (digitRun false rest).after [c]
    else ([], c :: rest)

/-- Digits of any kind, an underscore allowed before each. -/
def markedRun (ok : Char → Bool) : List Char → Cut
  | [] => ([], [])
  | c :: rest =>
    if ok c then (markedRun ok rest).after [c]
    else if c = '_' && startsWith ok rest then (markedRun ok rest).after [c]
    else ([], c :: rest)

def nonempty? (cut : Cut) : Option Cut :=
  if cut.1.isEmpty then none else some cut

def exponent? : List Char → Option Cut
  | [] => none
  | e :: rest =>
    if e = 'e' || e = 'E' then
      let (sign, rest) :=
        if startsWith (fun c => c = '+' || c = '-') rest then (rest.take 1, rest.drop 1) else ([], rest)
      (nonempty? (digitRun false rest)).map (Cut.after (e :: sign))
    else none

def fraction? : List Char → Option Cut
  | '.' :: rest => (nonempty? (digitRun false rest)).map (Cut.after ['.'])
  | _ => none

/-- A number with a fraction or an exponent. -/
def decimal? (cs : List Char) : Option Cut := do
  let (whole, rest) ← nonempty? (digitRun false cs)
  match fraction? rest with
  | some (fraction, rest) =>
    match exponent? rest with
    | some tail => pure (tail.after (whole ++ fraction))
    | none => pure (whole ++ fraction, rest)
  | none => (exponent? rest).map (Cut.after whole)

/-- The base that a letter after a zero announces. -/
def baseOf? (mark : Char) : Option Nat :=
  if mark = 'b' || mark = 'B' then some 2
  else if mark = 'o' || mark = 'O' then some 8
  else if mark = 'x' || mark = 'X' then some 16
  else none

/-- The value of a digit; bases above ten have digits of any script. -/
def digitValue? (c : Char) : Option Nat :=
  (hexValue? c).or (decimalValue? c)

def isDigitOf (base : Nat) (c : Char) : Bool :=
  if base = 16 then (digitValue? c).isSome
  else match hexValue? c with
    | some n => n < base
    | none => false

/-- A whole number; one that begins with a zero goes on with zeros or a base. -/
def integer? : List Char → Option Cut
  | '0' :: mark :: rest =>
    let zeros := (markedRun (· = '0') (mark :: rest)).after ['0']
    match baseOf? mark with
    | some base => some ((nonempty? (markedRun (isDigitOf base) rest)).elim zeros (Cut.after ['0', mark]))
    | none => some zeros
  | c :: rest => if c.isDigit then some ((markedRun isDecimalDigit rest).after [c]) else none
  | [] => none

def numberIn (base : Nat) (digits : List Char) : Nat :=
  digits.foldl (fun n c => match digitValue? c with
    | some d => base * n + d
    | none => n) 0

def integerValue : List Char → Nat
  | '0' :: mark :: rest =>
    match baseOf? mark with
    | some base => numberIn base rest
    | none => numberIn 10 (mark :: rest)
  | digits => numberIn 10 digits

/-- Why a decimal fraction cannot be read: its digits must be those of ASCII. -/
def fractionFault? (before : Option Char) : List Char → Option NumberFault
  | [] => none
  | c :: rest =>
    if c.toNat < 128 then fractionFault? (some c) rest
    else if (before.map "eE+-".toList.contains).getD false then some .badPower
    else some (.strangeDigit c)

/-- Why a whole number cannot be read: without a base it has no more than 4300 digits. -/
def integerFault? (digits : List Char) : Option NumberFault :=
  let isBased := match digits with
    | '0' :: mark :: _ => (baseOf? mark).isSome
    | _ => false
  let count := (digits.filter (· ≠ '_')).length
  if !isBased && longestDecimal < count then some (.tooLong count) else none

/-- The number that is nearest to a decimal fraction. -/
def decimalValue (cs : List Char) : Binary64 :=
  let isExponent (c : Char) : Bool := c = 'e' || c = 'E'
  let stem := cs.takeWhile (!isExponent ·)
  let power := (cs.dropWhile (!isExponent ·)).drop 1
  let places := ((stem.dropWhile (· ≠ '.')).filter Char.isDigit).length
  let size := Int.ofNat (numberIn 10 power)
  let exponent := if startsWith (· = '-') power then -size else size
  Binary64.ofDecimal false (numberIn 10 stem) (exponent - places)

end BeanForge.Template

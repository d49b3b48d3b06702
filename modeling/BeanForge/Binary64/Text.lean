import BeanForge.Binary64.Basic
import BeanForge.Text.Decimal

/-!
# Texts of numbers

A number is written with the fewest digits that read back as the same number, or
with as many digits as are asked for. The nearest digits are taken, and a half
goes to the even digit.
-/

namespace BeanForge.Binary64

open Text

/-- The power of ten of the first digit of a quotient that is not zero. -/
def leadingPower (numerator denominator : Nat) : Int :=
  let isReached (power : Int) : Bool :=
    let (n, d) := overTenTo numerator denominator power
    d ≤ n
  let guess : Int :=
    (Int.ofNat numerator.log2 - Int.ofNat denominator.log2) * 30103 / 100000
  ((List.range 4).map fun step => guess + 2 - Int.ofNat step).find? isReached |>.getD (guess - 2)

/-- Whether a quotient, in quarters of a unit in the last place, reads back as a number. -/
def readsBack (mantissa : Nat) (exponent : Int) (quarters denominator : Nat) : Bool :=
  let low := if mantissa = twoTo 52 && exponent != leastExponent then 1 else 2
  let least := (4 * mantissa - low) * denominator
  let most := (4 * mantissa + 2) * denominator
  if mantissa % 2 = 0 then least ≤ quarters && quarters ≤ most
  else least < quarters && quarters < most

/-- A whole number of units of a power of ten, in quarters of a unit in the last place. -/
def quartersOf (count : Nat) (power exponent : Int) : Nat × Nat :=
  let (n, d) := overTenTo count 1 (-power)
  overTwoTo n d (exponent - 2)

/-- The nearest count of units of a power of ten, if it or its neighbour reads back. -/
def digitsAt? (mantissa : Nat) (exponent power : Int) : Option Nat :=
  let (n, d) := ratio mantissa exponent
  let (n, d) := overTenTo n d power
  let fits (count : Nat) : Bool :=
    let (quarters, denominator) := quartersOf count power exponent
    readsBack mantissa exponent quarters denominator
  let best := nearest n d
  let below := n / d
  if fits best then some best
  else if fits below then some below
  else if fits (below + 1) then some (below + 1)
  else none

/-- The fewest digits that read back, and the power of ten of the first one. -/
def shortest (mantissa : Nat) (exponent : Int) : List Char × Int :=
  let (n, d) := ratio mantissa exponent
  let first := leadingPower n d
  let found := (List.range 17).findSome? fun count =>
    let power := first - Int.ofNat count
    (digitsAt? mantissa exponent power).map fun digits => (natDigits digits, power)
  match found with
  | some (digits, power) => (dropZeros digits, power + Int.ofNat digits.length - 1)
  | none => ([], 0)

/-- Powers of the first digit at which no exponent is written. -/
def isPositional (power : Int) (limit : Int) : Bool :=
  -4 ≤ power && power < limit

/-- The shortest form; a whole number keeps one digit behind the point. -/
def shortestDigits (mantissa : Nat) (exponent : Int) : List Char :=
  if mantissa = 0 then ['0', '.', '0']
  else
    let (digits, power) := shortest mantissa exponent
    if isPositional power 16 then
      let text := positional digits power
      if text.contains '.' then text else text ++ ['.', '0']
    else scientific 'e' digits power

/-- The shortest form with its sign. -/
def digits : Binary64 → List Char
  | finite negative mantissa exponent =>
    (if negative then ['-'] else []) ++ shortestDigits mantissa exponent
  | infinite negative => (if negative then ['-'] else []) ++ ['i', 'n', 'f']
  | nan => ['n', 'a', 'n']

/-! Forms with a number of digits -/

/-- How a fraction is laid out. -/
inductive Form where
  | fixed
  | scientific
  | general
  deriving Repr, DecidableEq

/-- A point at the end, if it is kept and there is none. -/
def keepPoint (keepsPoint : Bool) (text : List Char) : List Char :=
  if keepsPoint && !text.contains '.' then text ++ ['.'] else text

/-- A number of places behind the point. -/
def fixedDigits (places : Nat) (numerator denominator : Nat) : List Char :=
  let digits := zeroPadded (places + 1) (natDigits (nearest (numerator * tenTo places) denominator))
  let whole := digits.length - places
  digits.take whole ++ pointed (digits.drop whole)

/-- A number of digits, and the power of ten of the first one. -/
def leadingDigits (count : Nat) (numerator denominator : Nat) : List Char × Int :=
  if numerator = 0 then (List.replicate count '0', 0)
  else
    let power := leadingPower numerator denominator
    let (n, d) := overTenTo numerator denominator (power - Int.ofNat (count - 1))
    let digits := natDigits (nearest n d)
    (digits.take count, power + Int.ofNat (digits.length - count))

/-- Digits with an exponent, which follows a point that is kept. -/
def scientificDigits (keepsPoint : Bool) (digits : List Char) (power : Int) : List Char :=
  keepPoint keepsPoint (digits.take 1 ++ pointed (digits.drop 1)) ++ exponentText 'e' power

/-- A number of digits; zeros at the end go with the point unless it is kept. -/
def generalDigits (keepsPoint : Bool) (count : Nat) (numerator denominator : Nat) : List Char :=
  let (digits, power) := leadingDigits count numerator denominator
  let shown := if keepsPoint then digits else digits.take 1 ++ dropZeros (digits.drop 1)
  if isPositional power count then keepPoint keepsPoint (positional shown power)
  else scientificDigits keepsPoint shown power

/-- The digits of a number without its sign. -/
def formatted (form : Form) (keepsPoint : Bool) (precision : Nat) : Binary64 → List Char
  | finite _ mantissa exponent =>
    let (n, d) := ratio mantissa exponent
    match form with
    | .fixed => keepPoint keepsPoint (fixedDigits precision n d)
    | .scientific =>
      let (digits, power) := leadingDigits (precision + 1) n d
      scientificDigits keepsPoint digits power
    | .general => generalDigits keepsPoint (max precision 1) n d
  | infinite _ => ['i', 'n', 'f']
  | nan => ['n', 'a', 'n']

/-- The digits of a number with a sign when it is negative. -/
def formattedSigned (form : Form) (keepsPoint : Bool) (precision : Nat) (x : Binary64) :
    List Char :=
  (if x.isNegative then ['-'] else []) ++ formatted form keepsPoint precision x

end BeanForge.Binary64

/-!
# Numbers of sixty-four bits

Fractions as templates and JSON texts hold them: a whole number of at most
fifty-three bits times a power of two, an infinity, or no number at all. Any
other quotient becomes the nearest of these, and of two that are equally near the
one whose whole number is even.
-/

namespace BeanForge

inductive Binary64 where
  | finite (negative : Bool) (mantissa : Nat) (exponent : Int)
  | infinite (negative : Bool)
  | nan
  deriving Repr, DecidableEq, Inhabited

namespace Binary64

def twoTo (power : Nat) : Nat :=
  Nat.pow 2 power

def tenTo (power : Nat) : Nat :=
  Nat.pow 10 power

/-- The exponent of the smallest numbers. -/
def leastExponent : Int := -1074

/-- The largest exponent of a finite number. -/
def mostExponent : Int := 971

def zero (negative : Bool) : Binary64 :=
  finite negative 0 leastExponent

/-- The whole number nearest to a quotient; a half goes to the even neighbour. -/
def nearest (numerator denominator : Nat) : Nat :=
  let whole := numerator / denominator
  let rest := numerator % denominator
  if denominator < 2 * rest || (2 * rest == denominator && whole % 2 == 1) then whole + 1 else whole

/-- A quotient divided by a power of two. -/
def overTwoTo (numerator denominator : Nat) : Int → Nat × Nat
  | .ofNat e => (numerator, denominator * twoTo e)
  | .negSucc e => (numerator * twoTo (e + 1), denominator)

/-- A quotient divided by a power of ten. -/
def overTenTo (numerator denominator : Nat) : Int → Nat × Nat
  | .ofNat e => (numerator, denominator * tenTo e)
  | .negSucc e => (numerator * tenTo (e + 1), denominator)

/-- The exponent at which a quotient has fifty-three bits, or the least one. -/
def exponentOf (numerator denominator : Nat) : Int :=
  let guess := max (Int.ofNat numerator.log2 - Int.ofNat denominator.log2 - 53) leastExponent
  let (n, d) := overTwoTo numerator denominator guess
  if n / d < twoTo 53 then guess else guess + 1

/-- The number nearest to a quotient. -/
def ofRatio (negative : Bool) (numerator denominator : Nat) : Binary64 :=
  if numerator = 0 then zero negative
  else
    let e := exponentOf numerator denominator
    let (n, d) := overTwoTo numerator denominator e
    let m := nearest n d
    let (m, e) := if m = twoTo 53 then (twoTo 52, e + 1) else (m, e)
    if mostExponent < e then infinite negative else finite negative m e

def ofInt (n : Int) : Binary64 :=
  ofRatio (decide (n < 0)) n.natAbs 1

/-- The number nearest to a whole number times a power of ten. -/
def ofDecimal (negative : Bool) (mantissa : Nat) (exponent : Int) : Binary64 :=
  let digits : Int := (Nat.toDigits 10 mantissa).length
  if mantissa = 0 then zero negative
  else if 310 < digits + exponent then infinite negative
  else if digits + exponent < -330 then zero negative
  else
    let (n, d) := overTenTo mantissa 1 (-exponent)
    ofRatio negative n d

def isNegative : Binary64 → Bool
  | finite negative _ _ => negative
  | infinite negative => negative
  | nan => false

def isZero : Binary64 → Bool
  | finite _ mantissa _ => mantissa == 0
  | _ => false

def isFinite : Binary64 → Bool
  | finite _ _ _ => true
  | _ => false

def withSign (negative : Bool) : Binary64 → Binary64
  | finite _ mantissa exponent => finite negative mantissa exponent
  | infinite _ => infinite negative
  | nan => nan

def neg (x : Binary64) : Binary64 :=
  x.withSign !x.isNegative

/-- The value as a quotient, its sign left out. -/
def ratio (mantissa : Nat) (exponent : Int) : Nat × Nat :=
  overTwoTo mantissa 1 (-exponent)

def signedInt (negative : Bool) (n : Nat) : Int :=
  if negative then -(Int.ofNat n) else Int.ofNat n

/-- The whole number towards zero of a number that is finite. -/
def truncated? : Binary64 → Option Int
  | finite negative mantissa exponent =>
    let (n, d) := ratio mantissa exponent
    some (signedInt negative (n / d))
  | _ => none

/-- The whole number that a number is equal to. -/
def whole? : Binary64 → Option Int
  | finite negative mantissa exponent =>
    let (n, d) := ratio mantissa exponent
    if n % d = 0 then some (signedInt negative (n / d)) else none
  | _ => none

/-! Order -/

def compareRatios (n₁ : Int) (d₁ : Nat) (n₂ : Int) (d₂ : Nat) : Ordering :=
  compare (n₁ * Int.ofNat d₂) (n₂ * Int.ofNat d₁)

/-- The order of two numbers; what is no number has no place in it. -/
def order? : Binary64 → Binary64 → Option Ordering
  | nan, _ => none
  | _, nan => none
  | infinite a, infinite b => some (if a == b then .eq else if a then .lt else .gt)
  | infinite a, _ => some (if a then .lt else .gt)
  | _, infinite b => some (if b then .gt else .lt)
  | finite a m e, finite b m' e' =>
    let (n₁, d₁) := ratio m e
    let (n₂, d₂) := ratio m' e'
    some (compareRatios (signedInt a n₁) d₁ (signedInt b n₂) d₂)

/-- The order of a number and a whole number, of any size. -/
def orderInt? : Binary64 → Int → Option Ordering
  | nan, _ => none
  | infinite a, _ => some (if a then .lt else .gt)
  | finite a m e, k =>
    let (n, d) := ratio m e
    some (compareRatios (signedInt a n) d k 1)

end Binary64

end BeanForge

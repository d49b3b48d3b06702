import BeanForge.Binary64.Basic

/-!
# Arithmetic

Sums, products and quotients are the nearest numbers to the exact ones. A
division into whole parts takes the part below, so that what remains has the sign
of the divisor.
-/

namespace BeanForge.Binary64

def ofSignedRatio (zeroSign : Bool) (numerator : Int) (denominator : Nat) : Binary64 :=
  if numerator = 0 then zero zeroSign
  else ofRatio (decide (numerator < 0)) numerator.natAbs denominator

def add : Binary64 → Binary64 → Binary64
  | finite a m e, finite b m' e' =>
    let (n₁, d₁) := ratio m e
    let (n₂, d₂) := ratio m' e'
    ofSignedRatio (a && b)
      (signedInt a n₁ * Int.ofNat d₂ + signedInt b n₂ * Int.ofNat d₁) (d₁ * d₂)
  | infinite a, infinite b => if a == b then infinite a else nan
  | infinite a, finite _ _ _ => infinite a
  | finite _ _ _, infinite b => infinite b
  | _, _ => nan

def sub (x y : Binary64) : Binary64 :=
  x.add y.neg

def mul (x y : Binary64) : Binary64 :=
  let sign := x.isNegative != y.isNegative
  match x, y with
  | finite _ m e, finite _ m' e' =>
    let (n₁, d₁) := ratio m e
    let (n₂, d₂) := ratio m' e'
    ofRatio sign (n₁ * n₂) (d₁ * d₂)
  | nan, _ | _, nan => nan
  | x, y => if x.isZero || y.isZero then nan else infinite sign

/-- The quotient by a number that is not zero. -/
def div (x y : Binary64) : Binary64 :=
  let sign := x.isNegative != y.isNegative
  match x, y with
  | finite _ m e, finite _ m' e' =>
    let (n₁, d₁) := ratio m e
    let (n₂, d₂) := ratio m' e'
    ofRatio sign (n₁ * d₂) (d₁ * n₂)
  | nan, _ | _, nan => nan
  | infinite _, infinite _ => nan
  | infinite _, finite _ _ _ => infinite sign
  | finite _ _ _, infinite _ => zero sign

/-- What remains of a division towards zero; it has the sign of the dividend. -/
def truncatedRemainder (x y : Binary64) : Binary64 :=
  match x, y with
  | finite a m e, finite _ m' e' =>
    let (n₁, d₁) := ratio m e
    let (n₂, d₂) := ratio m' e'
    ofRatio a ((n₁ * d₂) % (n₂ * d₁)) (d₁ * d₂)
  | finite _ _ _, infinite _ => x
  | _, _ => nan

/-- What remains of a division by a number that is not zero. -/
def remainder (x y : Binary64) : Binary64 :=
  let rest := truncatedRemainder x y
  if rest.isZero then rest.withSign y.isNegative
  else if rest != nan && rest.isNegative != y.isNegative then rest.add y
  else rest

/-- The whole number below. -/
def floor : Binary64 → Binary64
  | finite negative m e =>
    let (n, d) := ratio m e
    ofSignedRatio negative ((signedInt negative n).fdiv d) 1
  | x => x

/-- The whole part of a quotient by a number that is not zero. -/
def floorQuotient (x y : Binary64) : Binary64 :=
  let rest := truncatedRemainder x y
  let parts := (x.sub rest).div y
  let parts :=
    if !rest.isZero && rest != nan && rest.isNegative != y.isNegative then parts.sub (ofInt 1)
    else parts
  if parts.isZero then zero (x.isNegative != y.isNegative)
  else
    let below := parts.floor
    if (parts.sub below).order? (ofRatio false 1 2) = some .gt then below.add (ofInt 1) else below

end BeanForge.Binary64

import BeanForge.Binary64.Text
import BeanForge.Placeholder.Argument
import BeanForge.Text.Half
import BeanForge.Text.Hex

/-!
# Places

A place tells how its argument is written: as a text, as a number in some base,
as a fraction, or as one character, and how wide. Zeros fill a place only between
the sign of a number and its digits.
-/

namespace BeanForge.Placeholder

open Text

structure Place where
  leftAligned : Bool := false
  plus : Bool := false
  blank : Bool := false
  alternate : Bool := false
  zeros : Bool := false
  width : Option Nat := none
  precision : Option Nat := none
  sign : Char

namespace Place

/-! Texts -/

/-- Characters outside ASCII as escapes. -/
def asciiChar (c : Char) : List Char :=
  let n := numberOf c
  if n < 128 then [c]
  else if n < 0x100 then '\\' :: 'x' :: hexFixed 2 n
  else if n < 0x10000 then '\\' :: 'u' :: hexFixed 4 n
  else '\\' :: 'U' :: hexFixed 8 n

/-- The text of an argument, cut off at the precision. -/
def textual {ε : Type} (p : Place) (a : Argument ε) : Filled ε (List Char) := do
  let text ← Filled.ofArgument (if p.sign = 's' then a.plain else a.inside)
  let cs := if p.sign = 'a' then text.toList.flatMap asciiChar else text.toList
  pure (match p.precision with
    | some n => cs.take n
    | none => cs)

/-! Whole numbers -/

/-- The whole number of an argument; only in base ten may a fraction be cut off. -/
def whole {ε : Type} (p : Place) (a : Argument ε) : Filled ε Int :=
  let isDecimal := p.sign = 'd' || p.sign = 'i' || p.sign = 'u'
  let refused : Filled ε Int :=
    Filled.mismatch (if isDecimal then .notReal p.sign a.kind else .notWhole p.sign a.kind)
  match a.nature with
  | .number (.whole n) =>
    if isDecimal && tooLongToWrite ≤ n.natAbs then Filled.mismatch .unwritable else .ok n
  | .number (.real x) =>
    if isDecimal then
      match x.truncated? with
      | some n => .ok n
      | none => Filled.mismatch (if x = .nan then .noNumber else .infinite)
    else refused
  | .absent e => if isDecimal then .error (.argument e) else refused
  | _ => refused

/-- The mark of a base, the digits, and whether the number is negative. -/
def wholeParts (p : Place) (n : Int) : List Char × List Char :=
  let base := if p.sign = 'o' then 8 else if p.sign = 'x' || p.sign = 'X' then 16 else 10
  let digits := Nat.toDigits base n.natAbs
  let digits := if p.sign = 'X' then digits.map Char.toUpper else digits
  let digits := match p.precision with
    | some least => zeroPadded least digits
    | none => digits
  (if p.alternate && base != 10 then ['0', p.sign] else [], digits)

/-! Fractions -/

def fraction {ε : Type} (a : Argument ε) : Filled ε Binary64 :=
  match a.nature with
  | .number n =>
    match n.real? with
    | some x => .ok x
    | none => Filled.mismatch .tooLarge
  | .absent e => .error (.argument e)
  | _ => Filled.mismatch (.notFraction a.kind)

def fractionDigits (p : Place) (x : Binary64) : List Char :=
  let form : Binary64.Form :=
    if p.sign = 'f' || p.sign = 'F' then .fixed
    else if p.sign = 'e' || p.sign = 'E' then .scientific
    else .general
  let digits := x.formatted form p.alternate (p.precision.getD 6)
  if p.sign.isUpper then digits.map Char.toUpper else digits

/-! Characters -/

def character {ε : Type} (a : Argument ε) : Filled ε Char :=
  match a.nature with
  | .text s =>
    match s.toList with
    | [c] => .ok c
    | _ => Filled.mismatch .notCharacter
  | .number (.whole n) =>
    if n < 0 || 0x110000 ≤ n then Filled.mismatch .noSuchCharacter
    else .ok (charOf n.toNat)
  | _ => Filled.mismatch .notCharacter

/-! Layout -/

def padding (p : Place) (fill : Char) (length : Nat) : List Char :=
  List.replicate (p.width.getD 0 - length) fill

/-- A text in the width of its place. -/
def aligned (p : Place) (cs : List Char) : List Char :=
  if p.leftAligned then cs ++ p.padding ' ' cs.length else p.padding ' ' cs.length ++ cs

def signOf (p : Place) (negative : Bool) : List Char :=
  if negative then ['-'] else if p.plus then ['+'] else if p.blank then [' '] else []

/-- A number in the width of its place, with what stands in front of its digits. -/
def alignedNumber (p : Place) (negative : Bool) (mark digits : List Char) : List Char :=
  let front := p.signOf negative ++ mark
  let length := front.length + digits.length
  if p.leftAligned then front ++ digits ++ p.padding ' ' length
  else if p.zeros then front ++ p.padding '0' length ++ digits
  else p.padding ' ' length ++ front ++ digits

/-- The text of an argument in a place; `index` is where its sign stands. -/
def filled {ε : Type} (p : Place) (index : Nat) (a : Argument ε) : Filled ε (List Char) :=
  if "sra".toList.contains p.sign then p.aligned <$> p.textual a
  else if "diuoxX".toList.contains p.sign then do
    let n ← p.whole a
    let (mark, digits) := p.wholeParts n
    pure (p.alignedNumber (decide (n < 0)) mark digits)
  else if "eEfFgG".toList.contains p.sign then do
    let x ← fraction a
    pure (p.alignedNumber x.isNegative [] (p.fractionDigits x))
  else if p.sign = 'c' then do
    let c ← character a
    pure (p.aligned [c])
  else Filled.mismatch (.unknownSign p.sign index)

end Place

end BeanForge.Placeholder

import BeanForge.Json.Basic
import BeanForge.Keyed
import BeanForge.Text.Decimal
import BeanForge.Text.Half
import BeanForge.Text.Hex

/-!
# Reading JSON texts

A text is read from its front, one value at a time, and each reader gives back
what follows. Two escapes in a row that are the halves of a pair stand for one
character.
-/

namespace BeanForge.Json

open Text

/-- A value that was read, and what follows it. -/
abbrev Rest (α : Type) := α × List Char

def isGap (c : Char) : Bool :=
  c = ' ' || c = '\t' || c = '\n' || c = '\r'

def skipGap (cs : List Char) : List Char :=
  cs.dropWhile isGap

/-! Texts -/

def unitOf? (digits : List Char) : Option Nat :=
  if digits.length = 4 && digits.all isHexDigit then some (hexNumber digits) else none

/-- The unit of an escape that begins here. -/
def escapedUnit? : List Char → Option Nat
  | '\\' :: 'u' :: rest => unitOf? (rest.take 4)
  | _ => none

def isHighUnit (n : Nat) : Bool :=
  0xD800 ≤ n && n < 0xDC00

def isLowUnit (n : Nat) : Bool :=
  0xDC00 ≤ n && n < 0xE000

/-- The character of two units. -/
def pairOf (high low : Nat) : Char :=
  Char.ofNat (0x10000 + (high - 0xD800) * 0x400 + (low - 0xDC00))

def shortEscaped? (c : Char) : Option Char :=
  match c with
  | '"' => some '"'
  | '\\' => some '\\'
  | '/' => some '/'
  | 'n' => some '\n'
  | 'r' => some '\r'
  | 't' => some '\t'
  | 'b' => some (Char.ofNat 8)
  | 'f' => some (Char.ofNat 12)
  | _ => none

/-- The characters up to the closing quote; each round takes one, so `fuel` counts characters. -/
def charsFrom : Nat → List Char → Option (Rest (List Char))
  | 0, _ => none
  | _, [] => none
  | _, '"' :: rest => some ([], rest)
  | fuel + 1, '\\' :: 'u' :: rest => do
    let unit ← unitOf? (rest.take 4)
    let rest := rest.drop 4
    match escapedUnit? rest with
    | some low =>
      if isHighUnit unit && isLowUnit low then
        let (cs, rest) ← charsFrom fuel (rest.drop 6)
        pure (pairOf unit low :: cs, rest)
      else
        let (cs, rest) ← charsFrom fuel rest
        pure (charOf unit :: cs, rest)
    | none =>
      let (cs, rest) ← charsFrom fuel rest
      pure (charOf unit :: cs, rest)
  | fuel + 1, '\\' :: c :: rest => do
    let c ← shortEscaped? c
    let (cs, rest) ← charsFrom fuel rest
    pure (c :: cs, rest)
  | fuel + 1, c :: rest =>
    if c = '\\' || c.toNat < 32 then none
    else do
      let (cs, rest) ← charsFrom fuel rest
      pure (c :: cs, rest)

def stringFrom (fuel : Nat) (cs : List Char) : Option (Rest String) :=
  (charsFrom fuel cs).map fun (cs, rest) => (String.ofList cs, rest)

/-! Numbers -/

def digitsFrom (cs : List Char) : List Char × List Char :=
  (cs.takeWhile Char.isDigit, cs.dropWhile Char.isDigit)

def numberIn (digits : List Char) : Nat :=
  digits.foldl (fun n c => 10 * n + (c.toNat - 48)) 0

/-- The digits behind a point, if there is a point with digits. -/
def fractionFrom : List Char → List Char × List Char
  | '.' :: rest =>
    let (digits, after) := digitsFrom rest
    if digits.isEmpty then ([], '.' :: rest) else (digits, after)
  | cs => ([], cs)

/-- The exponent behind its mark, if there is a mark with digits. -/
def exponentFrom? : List Char → Option (Rest Int)
  | [] => none
  | mark :: rest =>
    if mark = 'e' || mark = 'E' then
      let negative := rest.head? = some '-'
      let unsigned := if negative || rest.head? = some '+' then rest.drop 1 else rest
      let (digits, after) := digitsFrom unsigned
      if digits.isEmpty then none
      else some (if negative then -(Int.ofNat (numberIn digits)) else numberIn digits, after)
    else none

def unsignedFrom (negative : Bool) (cs : List Char) : Option (Rest Json) :=
  let (digits, rest) := digitsFrom cs
  if digits.isEmpty || (digits.length > 1 && digits.head? = some '0') then none
  else
    let (places, rest) := fractionFrom rest
    let real (exponent : Int) : Json :=
      .real (Binary64.ofDecimal negative (numberIn (digits ++ places)) (exponent - places.length))
    match exponentFrom? rest with
    | some (exponent, rest) => some (real exponent, rest)
    | none =>
      if places.isEmpty then
        let n := Int.ofNat (numberIn digits)
        some (.integer (if negative then -n else n), rest)
      else some (real 0, rest)

def dropWord? (word : String) (cs : List Char) : Option (List Char) :=
  if word.toList.isPrefixOf cs then some (cs.drop word.length) else none

def numberFrom : List Char → Option (Rest Json)
  | '-' :: rest =>
    match dropWord? "Infinity" rest with
    | some rest => some (.real (.infinite true), rest)
    | none => unsignedFrom true rest
  | cs => unsignedFrom false cs

/-! Values -/

/-- A value that is a word. -/
def wordFrom (cs : List Char) : Option (Rest Json) :=
  [("null", null), ("true", bool true), ("false", bool false), ("NaN", real .nan),
    ("Infinity", real (.infinite false))].findSome? fun (word, value) =>
      (dropWord? word cs).map (value, ·)

mutual

/-- The value that begins here; every reader takes a character, so `fuel` counts characters. Of
two members with one name the later one counts. -/
def valueFrom : Nat → List Char → Option (Rest Json)
  | 0, _ => none
  | fuel + 1, cs =>
    match skipGap cs with
    | '"' :: rest => (stringFrom fuel rest).map fun (s, rest) => (.string s, rest)
    | '[' :: rest =>
      match skipGap rest with
      | ']' :: rest => some (.array [], rest)
      | rest => (itemsFrom fuel rest).map fun (items, rest) => (.array items, rest)
    | '\x7b' :: rest =>
      match skipGap rest with
      | '\x7d' :: rest => some (.object [], rest)
      | rest => (membersFrom fuel rest).map fun (members, rest) =>
        (.object (Keyed.update [] members), rest)
    | cs => (wordFrom cs).or (numberFrom cs)

def itemsFrom : Nat → List Char → Option (Rest (List Json))
  | 0, _ => none
  | fuel + 1, cs => do
    let (item, rest) ← valueFrom fuel cs
    match skipGap rest with
    | ',' :: rest =>
      let (items, rest) ← itemsFrom fuel rest
      pure (item :: items, rest)
    | ']' :: rest => pure ([item], rest)
    | _ => none

def membersFrom : Nat → List Char → Option (Rest (List (String × Json)))
  | 0, _ => none
  | fuel + 1, cs =>
    match skipGap cs with
    | '"' :: rest => do
      let (name, rest) ← stringFrom fuel rest
      match skipGap rest with
      | ':' :: rest =>
        let (value, rest) ← valueFrom fuel rest
        match skipGap rest with
        | ',' :: rest =>
          let (members, rest) ← membersFrom fuel rest
          pure ((name, value) :: members, rest)
        | '\x7d' :: rest => pure ([(name, value)], rest)
        | _ => none
      | _ => none
    | _ => none

end

/-- The value that a text holds, alone. -/
def read? (text : String) : Option Json :=
  let cs := text.toList
  match valueFrom (cs.length + 1) cs with
  | some (value, rest) => if (skipGap rest).isEmpty then some value else none
  | none => none

end BeanForge.Json

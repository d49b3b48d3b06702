/-!
# UTF-8

Bytes of a text and their decoding one byte at a time. A byte that cannot follow
ends the decoding, and the fault names the bytes of the unfinished character.
-/

namespace BeanForge.Text

abbrev Bytes := List UInt8

def utf8Bytes (cs : List Char) : Bytes :=
  cs.flatMap String.utf8EncodeChar

namespace Utf8

inductive Cause where
  | badStart
  | badContinuation
  | endOfData
  deriving DecidableEq, Repr

/-- Why decoding stopped: the bytes from `first` on, `count` of them. -/
structure Undecodable where
  cause : Cause
  first : Nat
  count : Nat
  byte : UInt8
  deriving DecidableEq, Repr

/-- A character of which some bytes are read: `owed` more must follow, the next
between `least` and `most`. -/
structure Partial where
  lead : UInt8
  first : Nat
  read : Nat
  owed : Nat
  least : Nat
  most : Nat
  value : Nat

/-- What a first byte announces. -/
def announce (position : Nat) (byte : UInt8) : Option Partial :=
  let n := byte.toNat
  let start (owed least most value : Nat) : Option Partial :=
    some ⟨byte, position, 1, owed, least, most, value⟩
  if 0xC2 ≤ n && n ≤ 0xDF then start 1 0x80 0xBF (n - 0xC0)
  else if n = 0xE0 then start 2 0xA0 0xBF 0
  else if n = 0xED then start 2 0x80 0x9F 13
  else if 0xE1 ≤ n && n ≤ 0xEF then start 2 0x80 0xBF (n - 0xE0)
  else if n = 0xF0 then start 3 0x90 0xBF 0
  else if n = 0xF4 then start 3 0x80 0x8F 4
  else if 0xF1 ≤ n && n ≤ 0xF3 then start 3 0x80 0xBF (n - 0xF0)
  else none

def decodeFrom (position : Nat) (open? : Option Partial) :
    Bytes → Except Undecodable (List Char)
  | [] =>
    match open? with
    | none => .ok []
    | some p => .error ⟨.endOfData, p.first, p.read, p.lead⟩
  | byte :: rest =>
    match open? with
    | none =>
      if byte.toNat < 0x80 then
        (Char.ofNat byte.toNat :: ·) <$> decodeFrom (position + 1) none rest
      else match announce position byte with
        | none => .error ⟨.badStart, position, 1, byte⟩
        | some p => decodeFrom (position + 1) (some p) rest
    | some p =>
      let n := byte.toNat
      if p.least ≤ n && n ≤ p.most then
        let value := p.value * 64 + (n - 0x80)
        if p.owed = 1 then (Char.ofNat value :: ·) <$> decodeFrom (position + 1) none rest
        else decodeFrom (position + 1)
          (some { p with read := p.read + 1, owed := p.owed - 1, least := 0x80, most := 0xBF,
                         value := value }) rest
      else .error ⟨.badContinuation, p.first, p.read, p.lead⟩

def decode (bytes : Bytes) : Except Undecodable (List Char) :=
  decodeFrom 0 none bytes

end Utf8

@[simp] theorem utf8Bytes_nil : utf8Bytes [] = [] := rfl

@[simp] theorem utf8Bytes_append (cs ds : List Char) :
    utf8Bytes (cs ++ ds) = utf8Bytes cs ++ utf8Bytes ds := by
  simp [utf8Bytes]

end BeanForge.Text

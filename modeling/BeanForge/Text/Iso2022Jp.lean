import BeanForge.Text.Charset
import BeanForge.Text.KanjiTable

/-!
# ISO-2022-JP

An encoding that switches between character sets by escape sequences. A text as a
whole ends in ASCII, with one more sequence if need be. A stream goes on where
the text before left off, and what it has switched to stays so at its end.
-/

namespace BeanForge.Text.Iso2022Jp

/-- The character set that is switched to. -/
inductive Shift where
  | ascii
  | roman
  | kanji
  deriving DecidableEq, Repr

namespace Shift

/-- The escape sequence that switches to a set. -/
def escape : Shift → Bytes
  | ascii => [0x1B, 0x28, 0x42]
  | roman => [0x1B, 0x28, 0x4A]
  | kanji => [0x1B, 0x24, 0x42]

end Shift

def names : List String :=
  ["iso2022_jp", "csiso2022jp", "iso2022jp", "iso_2022_jp"]

/-- The set that a character is written in, and its bytes there. -/
def charBytes? (c : Char) : Option (Shift × Bytes) :=
  if c.toNat < 0x80 then some (.ascii, [UInt8.ofNat c.toNat])
  else match kanjiCell? c with
    | some (row, cell) => some (.kanji, [UInt8.ofNat (0x20 + row), UInt8.ofNat (0x20 + cell)])
    | none =>
      if c = '¥' then some (.roman, [0x5C])
      else if c = '‾' then some (.roman, [0x7E])
      else none

/-- The bytes of a text behind some others, up to the first character that has none, and the set
that is switched to then. -/
def shifted (shift : Shift) : List Char → Bytes × Shift
  | [] => ([], shift)
  | c :: rest =>
    match charBytes? c with
    | none => ([], shift)
    | some (next, bytes) =>
      let (more, last) := shifted next rest
      ((if next = shift then [] else next.escape) ++ bytes ++ more, last)

/-- The first character that has no bytes. -/
def lacking? (cs : List Char) : Option Unencodable :=
  Unencodable.find? "iso2022_jp" "illegal multibyte sequence" (charBytes? · |>.isSome) (fun _ => false) cs

/-- The set that a stream has switched to after some texts; one that was refused counts up to the
character that has no bytes. -/
def shiftAfter (given : List (List Char)) : Shift :=
  given.foldl (fun shift cs => (shifted shift cs).2) .ascii

/-- The bytes that a stream gets for a text. -/
def feed (given : List (List Char)) (cs : List Char) : Except Unencodable Bytes :=
  match lacking? cs with
  | some u => .error u
  | none => .ok (shifted (shiftAfter given) cs).1

/-- The bytes of a text as a whole. -/
def encode (cs : List Char) : Except Unencodable Bytes :=
  match lacking? cs with
  | some u => .error u
  | none =>
    let (bytes, last) := shifted .ascii cs
    .ok (bytes ++ if last = .ascii then [] else Shift.ascii.escape)

end BeanForge.Text.Iso2022Jp

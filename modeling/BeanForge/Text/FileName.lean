import BeanForge.Text.Half
import BeanForge.Text.Utf8

/-!
# Names of files

The name of a file is a sequence of bytes. A text names the file of its UTF-8,
in which some halves of pairs stand for single bytes, those that are no text by
themselves. So texts that differ may name one file.
-/

namespace BeanForge.Text

/-- The byte that a half stands for. -/
def looseByte? (c : Char) : Option UInt8 :=
  if isHalf c && 0xDC80 ≤ numberOf c && numberOf c < 0xDD00 then
    some (UInt8.ofNat (numberOf c - 0xDC00))
  else none

/-- Halves that stand for no byte are in no name of a file. -/
def hasFileBytes (c : Char) : Bool :=
  !isHalf c || (looseByte? c).isSome

def fileCharBytes (c : Char) : Bytes :=
  match looseByte? c with
  | some b => [b]
  | none => String.utf8EncodeChar c

def fileBytes (cs : List Char) : Bytes :=
  cs.flatMap fileCharBytes

/-- The character of more than one byte that some bytes begin with. -/
def firstChar? (bytes : Bytes) : Option Char :=
  [2, 3, 4].findSome? fun n =>
    match Utf8.decode (bytes.take n) with
    | .ok [c] => if !isHalf c && String.utf8EncodeChar c == bytes.take n then some c else none
    | _ => none

/-- The text of some bytes; those that are none by themselves become halves. A number of bytes
is passed over, as they belong to the character before. -/
def fileTextFrom : Nat → Bytes → List Char
  | _, [] => []
  | skipped + 1, _ :: rest => fileTextFrom skipped rest
  | 0, b :: rest =>
    if b.toNat < 0x80 then Char.ofNat b.toNat :: fileTextFrom 0 rest
    else match firstChar? (b :: rest) with
      | some c => c :: fileTextFrom ((String.utf8EncodeChar c).length - 1) rest
      | none => halfOf (0xDC00 + b.toNat) :: fileTextFrom 0 rest

/-- The name under which a file is found in its folder. -/
def storedName (name : String) : String :=
  if name.toList.any isHalf then String.ofList (fileTextFrom 0 (fileBytes name.toList)) else name

@[simp] theorem fileBytes_nil : fileBytes [] = [] := rfl

@[simp] theorem fileBytes_append (cs ds : List Char) :
    fileBytes (cs ++ ds) = fileBytes cs ++ fileBytes ds := by
  simp [fileBytes]

end BeanForge.Text

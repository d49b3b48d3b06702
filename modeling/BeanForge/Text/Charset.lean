import BeanForge.Text.Blank
import BeanForge.Text.Hex
import BeanForge.Text.Quoted
import BeanForge.Text.Utf8

/-!
# Character sets of files

The character sets that are always there for files, the names they go by, and the
bytes of a text. A text with a character outside the set has no bytes; the fault
tells the first run of such characters.
-/

namespace BeanForge.Text

inductive Charset where
  | utf8
  | latin1
  | ascii
  deriving DecidableEq, Repr

/-- Characters that a text cannot be encoded with: a run that starts at `first`. -/
structure Unencodable where
  codec : String
  reason : String
  first : Nat
  count : Nat
  char : Char
  deriving DecidableEq, Repr

/-- The run of lacking characters that begins with the first one that does not fit. -/
def Unencodable.find? (codec reason : String) (fits lacks : Char → Bool) (cs : List Char) :
    Option Unencodable :=
  match cs.dropWhile fits with
  | [] => none
  | c :: rest =>
    some ⟨codec, reason, (cs.takeWhile fits).length, 1 + (rest.takeWhile lacks).length, c⟩

namespace Charset

/-- Names differ neither by case nor by the signs between their words. -/
def plainName (name : String) : String :=
  let spaced := (name.toList.filter (·.toNat < 128)).map fun c =>
    if c.isAlphanum || c = '.' then c.toLower else ' '
  "_".intercalate (((splitAt ' ' spaced).filter (· ≠ [])).map String.ofList)

def names : Charset → List String
  | .utf8 => ["utf_8", "utf8", "utf", "u8", "utf8_ucs2", "utf8_ucs4", "cp65001"]
  | .latin1 => ["latin_1", "latin1", "latin", "l1", "8859", "iso8859", "iso8859_1", "iso_8859_1",
      "iso_8859_1_1987", "iso_ir_100", "ibm819", "cp819", "csisolatin1"]
  | .ascii => ["ascii", "us_ascii", "us", "646", "ansi_x3.4_1968", "ansi_x3_4_1968",
      "ansi_x3.4_1986", "cp367", "csascii", "ibm367", "iso646_us", "iso_646.irv_1991", "iso_ir_6"]

def named? (name : String) : Option Charset :=
  [utf8, latin1, ascii].find? (·.names.contains (plainName name))

/-- The name by which messages call the set. -/
def label : Charset → String
  | .utf8 => "utf-8"
  | .latin1 => "latin-1"
  | .ascii => "ascii"

/-- Code points from here on are outside the set; a half of a pair is outside every set. -/
def bound : Charset → Nat
  | .utf8 => 0x110000
  | .latin1 => 256
  | .ascii => 128

def holds (charset : Charset) (c : Char) : Bool :=
  match charset with
  | .utf8 => !isHalf c
  | charset => c.toNat < charset.bound

def charBytes : Charset → Char → Bytes
  | .utf8, c => String.utf8EncodeChar c
  | _, c => [UInt8.ofNat c.toNat]

def bytes (charset : Charset) (cs : List Char) : Bytes :=
  cs.flatMap charset.charBytes

/-- Why a character is not in the set. -/
def reason : Charset → String
  | .utf8 => "surrogates not allowed"
  | charset => "ordinal not in range(" ++ toString charset.bound ++ ")"

/-- The bytes of a text, all or none. -/
def encode (charset : Charset) (cs : List Char) : Except Unencodable Bytes :=
  match Unencodable.find? charset.label charset.reason charset.holds (!charset.holds ·) cs with
  | none => .ok (charset.bytes cs)
  | some u => .error u

theorem bytes_append (charset : Charset) (cs ds : List Char) :
    charset.bytes (cs ++ ds) = charset.bytes cs ++ charset.bytes ds := by
  simp [bytes]

theorem encode_utf8 (cs : List Char) (whole : ∀ c ∈ cs, isHalf c = false) :
    utf8.encode cs = .ok (utf8Bytes cs) := by
  have h : cs.dropWhile utf8.holds = [] := by
    induction cs with
    | nil => rfl
    | cons c rest ih =>
      have hc : utf8.holds c = true := by simp [holds, whole c]
      simp [hc, ih fun d hd => whole d (by simp [hd])]
  simp only [encode, Unencodable.find?, h]
  rfl

end Charset

namespace Unencodable

def message (u : Unencodable) : String :=
  let which :=
    if u.count = 1 then
      "character '" ++ String.ofList (quotedChar.escapedChar u.char) ++ "' in position " ++
        toString u.first
    else "characters in position " ++ toString u.first ++ "-" ++
      toString (u.first + u.count - 1)
  "'" ++ u.codec ++ "' codec can't encode " ++ which ++ ": " ++ u.reason

end Unencodable

namespace Utf8

def Cause.text : Cause → String
  | .badStart => "invalid start byte"
  | .badContinuation => "invalid continuation byte"
  | .endOfData => "unexpected end of data"

def Undecodable.message (u : Undecodable) : String :=
  let which :=
    if u.count = 1 then
      "byte 0x" ++ String.ofList (hexFixed 2 u.byte.toNat) ++ " in position " ++ toString u.first
    else "bytes in position " ++ toString u.first ++ "-" ++ toString (u.first + u.count - 1)
  "'utf-8' codec can't decode " ++ which ++ ": " ++ u.cause.text

end Utf8

end BeanForge.Text

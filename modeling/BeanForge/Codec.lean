import BeanForge.Fault
import BeanForge.Text.Iso2022Jp

/-!
# Codecs

What texts are encoded with. A text as a whole has its bytes, and a text that is
given to a stream has the bytes that the stream's encoder makes of it, which may
depend on the texts given before. Some codecs are always there. Any others may be
registered under names of their own.
-/

namespace BeanForge

open Text

structure Codec where
  /-- The bytes of a text as a whole. -/
  encode : List Char → Except Fault Bytes
  /-- The bytes that a stream gets for a text after those it was given before, refused ones
  among them. -/
  feed : List (List Char) → List Char → Except Fault Bytes

def Text.Charset.codec (charset : Charset) : Codec where
  encode cs := (charset.encode cs).mapError .unencodable
  feed _ cs := (charset.encode cs).mapError .unencodable

def Text.Iso2022Jp.codec : Codec where
  encode cs := (Iso2022Jp.encode cs).mapError .unencodable
  feed given cs := (Iso2022Jp.feed given cs).mapError .unencodable

/-- The codecs that are registered beside those that are always there; for any other name there
is a message. -/
class Codecs where
  others : String → Except String Codec

namespace Codecs

def find [Codecs] (name : String) : Except String Codec :=
  match Charset.named? name with
  | some charset => .ok charset.codec
  | none => others name

/-- The bytes that a stream gets for a text. -/
def feed [Codecs] (name : String) (given : List (List Char)) (cs : List Char) :
    Except Fault Bytes :=
  match find name with
  | .ok codec => codec.feed given cs
  | .error message => .error (.unknownCharset message)

instance standard : Codecs where
  others name :=
    if Iso2022Jp.names.contains (Charset.plainName name) then .ok Iso2022Jp.codec
    else .error ("unknown encoding: " ++ name)

end Codecs

end BeanForge

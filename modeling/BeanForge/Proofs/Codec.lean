import BeanForge.Codec
import BeanForge.Proofs.Text.Encoding

/-!
# Codecs of streams

A stream is given texts one after the other, and gets bytes for those that its encoder takes. For
many codecs these are the bytes of the texts put together; not so where a codec has states, as the
end of a text as a whole is not known to a stream.
-/

namespace BeanForge

open Text

namespace Codec

/-- Those of some texts that the encoder takes, with their bytes, where others were given before. -/
def pieces (c : Codec) (before : List (List Char)) : List (List Char) → List (List Char × Bytes)
  | [] => []
  | cs :: rest =>
    match c.feed before cs with
    | .ok bytes => (cs, bytes) :: c.pieces (before ++ [cs]) rest
    | .error _ => c.pieces (before ++ [cs]) rest

/-- The bytes of texts in pieces are those of the texts as a whole, if there are any texts. -/
def Seamless (c : Codec) : Prop :=
  ∀ texts, c.pieces [] texts = [] ∨
    c.encode ((c.pieces [] texts).flatMap (·.1)) = .ok ((c.pieces [] texts).flatMap (·.2))

theorem pieces_append (c : Codec) (before texts more : List (List Char)) :
    c.pieces before (texts ++ more) = c.pieces before texts ++ c.pieces (before ++ texts) more := by
  induction texts generalizing before with
  | nil => simp [pieces]
  | cons cs rest ih =>
    cases h : c.feed before cs <;> simp [pieces, h, ih, List.append_assoc]

theorem pieces_concat_of_ok {c : Codec} {given : List (List Char)} {cs : List Char} {bytes : Bytes}
    (h : c.feed given cs = .ok bytes) :
    c.pieces [] (given ++ [cs]) = c.pieces [] given ++ [(cs, bytes)] := by
  simp [pieces_append, pieces, h]

theorem pieces_concat_of_error {c : Codec} {given : List (List Char)} {cs : List Char} {f : Fault}
    (h : c.feed given cs = .error f) : c.pieces [] (given ++ [cs]) = c.pieces [] given := by
  simp [pieces_append, pieces, h]

theorem Seamless.encode_of_feed {c : Codec} (hc : c.Seamless) {cs : List Char} {bytes : Bytes}
    (h : c.feed [] cs = .ok bytes) : c.encode cs = .ok bytes := by
  simpa [pieces, h] using hc [cs]

end Codec

theorem Text.Charset.feed_codec (charset : Charset) (given : List (List Char)) (cs : List Char) :
    charset.codec.feed given cs = (charset.encode cs).mapError .unencodable :=
  rfl

theorem Text.Charset.seamless_codec (charset : Charset) : charset.codec.Seamless := by
  suffices h : ∀ before texts,
      charset.encode ((charset.codec.pieces before texts).flatMap (·.1)) =
        .ok ((charset.codec.pieces before texts).flatMap (·.2)) by
    refine fun texts => .inr ?_
    show (charset.encode _).mapError _ = _
    rw [h]
    rfl
  intro before texts
  induction texts generalizing before with
  | nil => exact charset.encode_nil
  | cons cs rest ih =>
    cases h : charset.encode cs with
    | ok bytes =>
      have hfeed : charset.codec.feed before cs = .ok bytes := by
        simp [Charset.feed_codec, h, Except.mapError]
      simpa [Codec.pieces, hfeed] using Charset.encode_append h (ih (before ++ [cs]))
    | error u =>
      have hfeed : charset.codec.feed before cs = .error (.unencodable u) := by
        simp [Charset.feed_codec, h, Except.mapError]
      simpa [Codec.pieces, hfeed] using ih (before ++ [cs])

namespace Codecs

variable [Codecs]

theorem find_of_named? {encoding : String} {charset : Charset}
    (h : Charset.named? encoding = some charset) : find encoding = .ok charset.codec := by
  simp [find, h]

theorem feed_of_find {encoding : String} {c : Codec} (h : find encoding = .ok c)
    (given : List (List Char)) (cs : List Char) : feed encoding given cs = c.feed given cs := by
  simp [feed, h]

theorem find_utf8 : find "utf-8" = .ok Charset.utf8.codec :=
  find_of_named? (by decide +kernel)

theorem feed_utf8 (given : List (List Char)) {cs : List Char} (h : ∀ c ∈ cs, isHalf c = false) :
    feed "utf-8" given cs = .ok (utf8Bytes cs) := by
  rw [feed_of_find find_utf8, Charset.feed_codec, Charset.encode_utf8 _ h]
  rfl

end Codecs

end BeanForge

import BeanForge.Text.Charset
import Mathlib.Data.List.TakeWhile

/-!
# Texts that a character set holds

A text has bytes in a character set if each of its characters is in the set, and the bytes of a
text in pieces are the bytes of the pieces. UTF-8 holds all texts without halves of pairs.
-/

namespace BeanForge.Text

theorem Whole.append {s t : String} (hs : Whole s) (ht : Whole t) : Whole (s ++ t) := by
  intro c hc
  rw [String.toList_append, List.mem_append] at hc
  exact hc.elim (hs c) (ht c)

theorem utf8Bytes_injective {cs ds : List Char} (h : utf8Bytes cs = utf8Bytes ds) : cs = ds := by
  have hbytes : (String.ofList cs).toByteArray = (String.ofList ds).toByteArray := by
    rw [String.toByteArray_ofList, String.toByteArray_ofList]
    exact congrArg List.toByteArray h
  exact String.ofList_injective (String.toByteArray_inj.1 hbytes)

theorem Unencodable.find?_eq_none_iff (codec reason : String) (fits lacks : Char → Bool)
    (cs : List Char) :
    Unencodable.find? codec reason fits lacks cs = none ↔ ∀ c ∈ cs, fits c = true := by
  rw [← List.dropWhile_eq_nil_iff]
  cases h : cs.dropWhile fits <;> simp [find?, h]

namespace Charset

theorem encode_eq_ok_iff {charset : Charset} {cs : List Char} {bytes : Bytes} :
    charset.encode cs = .ok bytes ↔
      (∀ c ∈ cs, charset.holds c = true) ∧ bytes = charset.bytes cs := by
  rw [← Unencodable.find?_eq_none_iff charset.label charset.reason charset.holds
    fun c => !charset.holds c]
  cases h : Unencodable.find? charset.label charset.reason charset.holds (!charset.holds ·) cs <;>
    simp [encode, h, eq_comm]

@[simp] theorem encode_nil (charset : Charset) : charset.encode [] = .ok [] := rfl

theorem encode_append {charset : Charset} {cs ds : List Char} {bytes more : Bytes}
    (h : charset.encode cs = .ok bytes) (h' : charset.encode ds = .ok more) :
    charset.encode (cs ++ ds) = .ok (bytes ++ more) := by
  obtain ⟨hc, rfl⟩ := encode_eq_ok_iff.1 h
  obtain ⟨hd, rfl⟩ := encode_eq_ok_iff.1 h'
  refine encode_eq_ok_iff.2 ⟨fun c hm => ?_, (charset.bytes_append cs ds).symm⟩
  rcases List.mem_append.1 hm with hm | hm
  · exact hc c hm
  · exact hd c hm

end Charset

end BeanForge.Text

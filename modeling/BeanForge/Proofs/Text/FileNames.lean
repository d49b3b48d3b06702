import BeanForge.Proofs.Text.Encoding
import BeanForge.Text.FileName

/-!
# Texts that name files

The text that is read back from the bytes of a name has these bytes again, so a file is found under
one text only. Texts without halves of pairs are found under themselves, and no two of them name
one file.
-/

namespace BeanForge.Text

/-! Whole texts -/

theorem looseByte?_of_not_isHalf {c : Char} (h : isHalf c = false) : looseByte? c = none := by
  simp [looseByte?, h]

theorem fileCharBytes_of_not_isHalf {c : Char} (h : isHalf c = false) :
    fileCharBytes c = String.utf8EncodeChar c := by
  simp [fileCharBytes, looseByte?_of_not_isHalf h]

theorem fileBytes_of_whole {cs : List Char} (h : ∀ c ∈ cs, isHalf c = false) :
    fileBytes cs = utf8Bytes cs := by
  rw [fileBytes, utf8Bytes, List.flatMap_def, List.flatMap_def,
    List.map_congr_left fun c hc => fileCharBytes_of_not_isHalf (h c hc)]

theorem eq_of_fileBytes_eq {s t : String} (hs : Whole s) (ht : Whole t)
    (h : fileBytes s.toList = fileBytes t.toList) : s = t := by
  rw [fileBytes_of_whole hs, fileBytes_of_whole ht] at h
  exact String.toList_inj.1 (utf8Bytes_injective h)

@[simp] theorem storedName_of_whole {s : String} (h : Whole s) : storedName s = s := by
  have hany : s.toList.any isHalf = false := List.any_eq_false.2 fun c hc => by simp [h c hc]
  simp [storedName, hany]

theorem hasFileBytes_of_not_isHalf {c : Char} (h : isHalf c = false) : hasFileBytes c = true := by
  simp [hasFileBytes, h]

/-! Bytes read back -/

theorem toNat_ofNat_byte (b : UInt8) : (Char.ofNat b.toNat).toNat = b.toNat := by
  have hlt := b.toNat_lt
  have hvalid : b.toNat.isValidChar := .inl (by omega)
  unfold Char.ofNat
  rw [dif_pos hvalid]
  rfl

theorem toNat_halfOf {n : Nat} (h : n < 0x10000) : (halfOf n).toNat = 0x100000 + n := by
  have hvalid : (0x100000 + n).isValidChar := .inr (by omega)
  unfold halfOf Char.ofNat
  rw [dif_pos hvalid]
  rfl

theorem fileCharBytes_ascii {b : UInt8} (h : b.toNat < 0x80) :
    fileCharBytes (Char.ofNat b.toNat) = [b] := by
  have hnat := toNat_ofNat_byte b
  have hhalf : isHalf (Char.ofNat b.toNat) = false := by
    simp only [isHalf, hnat, Bool.and_eq_false_iff, decide_eq_false_iff_not]
    omega
  rw [fileCharBytes_of_not_isHalf hhalf]
  have hval : (Char.ofNat b.toNat).val.toNat = b.toNat := hnat
  simp only [String.utf8EncodeChar, hval, if_pos (show b.toNat ≤ 0x7F by omega)]
  simp

theorem fileCharBytes_halfOf {b : UInt8} (h : ¬b.toNat < 0x80) :
    fileCharBytes (halfOf (0xDC00 + b.toNat)) = [b] := by
  have hlt := b.toNat_lt
  have hnat := toNat_halfOf (show 0xDC00 + b.toNat < 0x10000 by omega)
  have hhalf : isHalf (halfOf (0xDC00 + b.toNat)) = true := by
    simp only [isHalf, hnat, Bool.and_eq_true, decide_eq_true_eq]
    omega
  have hnumber : numberOf (halfOf (0xDC00 + b.toNat)) = 0xDC00 + b.toNat := by
    rw [numberOf, if_pos hhalf, hnat]
    omega
  have hrange : 0xDC80 ≤ 0xDC00 + b.toNat ∧ 0xDC00 + b.toNat < 0xDD00 := by omega
  simp [fileCharBytes, looseByte?, hhalf, hnumber, hrange]

theorem firstChar?_eq_some {bytes : Bytes} {c : Char} (h : firstChar? bytes = some c) :
    isHalf c = false ∧ ∃ more, bytes = String.utf8EncodeChar c ++ more := by
  obtain ⟨n, _, hn⟩ := List.exists_of_findSome?_eq_some h
  split at hn
  · rename_i d _
    by_cases hd : (!isHalf d && String.utf8EncodeChar d == bytes.take n) = true
    · rw [if_pos hd] at hn
      obtain rfl : d = c := Option.some.inj hn
      obtain ⟨hhalf, hbytes⟩ := Bool.and_eq_true_iff.1 hd
      refine ⟨by simpa using hhalf, bytes.drop n, ?_⟩
      rw [eq_of_beq hbytes, List.take_append_drop]
    · rw [if_neg hd] at hn
      cases hn
  · cases hn

theorem fileBytes_fileTextFrom (skipped : Nat) (bytes : Bytes) :
    fileBytes (fileTextFrom skipped bytes) = bytes.drop skipped := by
  induction bytes generalizing skipped with
  | nil => cases skipped <;> rfl
  | cons b rest ih =>
    cases skipped with
    | succ skipped => exact ih skipped
    | zero =>
      have hcons : ∀ c cs, fileBytes (c :: cs) = fileCharBytes c ++ fileBytes cs := fun _ _ => rfl
      rw [fileTextFrom]
      by_cases hascii : b.toNat < 0x80
      · rw [if_pos hascii, hcons, ih, fileCharBytes_ascii hascii]
        rfl
      · rw [if_neg hascii]
        cases hfirst : firstChar? (b :: rest) with
        | none =>
          simp only
          rw [hcons, ih, fileCharBytes_halfOf hascii]
          rfl
        | some c =>
          obtain ⟨hhalf, more, hbytes⟩ := firstChar?_eq_some hfirst
          obtain ⟨d, ds, hchar⟩ := List.exists_cons_of_ne_nil
            (List.length_pos_iff.1 (String.length_utf8EncodeChar c ▸ c.utf8Size_pos))
          rw [hchar, List.cons_append] at hbytes
          obtain ⟨rfl, rfl⟩ := List.cons.inj hbytes
          simp only
          rw [hcons, ih, fileCharBytes_of_not_isHalf hhalf, hchar]
          simp

/-- A file is found under a text of the same bytes. -/
theorem fileBytes_storedName (name : String) :
    fileBytes (storedName name).toList = fileBytes name.toList := by
  rw [storedName]
  split
  · rw [String.toList_ofList, fileBytes_fileTextFrom, List.drop_zero]
  · rfl

end BeanForge.Text

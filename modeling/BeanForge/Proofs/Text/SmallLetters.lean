import BeanForge.Text.Case

/-!
# Small letters

A text in small letters consists of characters that are their own small forms. For ASCII this is a
matter of 128 characters; beyond, the images of the runs of capital letters stay apart from all of
these runs.
-/

namespace BeanForge.Text

/-! ASCII -/

theorem toLower_toUpper_of_ascii {c : Char} (h : c.toNat < 128) :
    c.toUpper.toNat < 128 ∧ c.toUpper.toLower = c.toLower := by
  have hall : ∀ n < 128, (Char.ofNat n).toUpper.toNat < 128 ∧
      (Char.ofNat n).toUpper.toLower = (Char.ofNat n).toLower := by decide
  simpa using hall c.toNat h

theorem toLower_toLower_of_ascii {c : Char} (h : c.toNat < 128) :
    c.toLower.toNat < 128 ∧ c.toLower.toLower = c.toLower := by
  have hall : ∀ n < 128, (Char.ofNat n).toLower.toNat < 128 ∧
      (Char.ofNat n).toLower.toLower = (Char.ofNat n).toLower := by decide
  simpa using hall c.toNat h

/-! Runs -/

theorem toNat_ofNat {n : Nat} (h : n.isValidChar) : (Char.ofNat n).toNat = n := by
  unfold Char.ofNat
  rw [dif_pos h]
  rfl

namespace Shift

def Sound (s : Shift) : Prop :=
  0 ≤ s.first + s.distance ∧
    (s.last + s.distance < 0xD800 ∨
      (0xDFFF < s.first + s.distance ∧ s.last + s.distance < 0x110000))

instance (s : Shift) : Decidable s.Sound :=
  inferInstanceAs (Decidable (_ ∧ _))

/-- Whether a run misses the numbers from one to another, or every second of them: it lies behind
them, before them, or between them. -/
def misses (low high : Nat) (sparse : Bool) (t : Shift) : Bool :=
  Nat.blt high t.first || Nat.blt t.last low ||
    (sparse && t.step == 2 && (low + t.first) % 2 == 1)

def isApart (s t : Shift) : Bool :=
  t.misses (s.target s.first) (s.target s.last) (s.first == s.last || s.step == 2)

theorem covers_iff {s : Shift} {n : Nat} :
    s.covers n = true ↔ s.first ≤ n ∧ n ≤ s.last ∧ (n - s.first) % s.step = 0 := by
  simp [covers, and_assoc]

theorem target_eq {s : Shift} (hs : s.Sound) {n : Nat} (hn : s.covers n = true) :
    (s.target n : Int) = n + s.distance := by
  have hfirst := (covers_iff.1 hn).1
  have hnonneg := hs.1
  exact Int.toNat_of_nonneg (by omega)

/-- The images lie between those of the first and the last member. -/
theorem target_bounds {s : Shift} (hs : s.Sound) {n : Nat} (hn : s.covers n = true) :
    s.target n + s.first = s.target s.first + n ∧ s.target n + s.last = s.target s.last + n := by
  have htarget := target_eq hs hn
  have hnonneg := hs.1
  obtain ⟨hfirst, hlast, _⟩ := covers_iff.1 hn
  simp only [target] at htarget ⊢
  omega

theorem isValidChar_target {s : Shift} (hs : s.Sound) {n : Nat} (hn : s.covers n = true) :
    (s.target n).isValidChar := by
  have htarget := target_eq hs hn
  obtain ⟨hfirst, hlast, _⟩ := covers_iff.1 hn
  rcases hs.2 with hbelow | habove
  · exact .inl (by omega)
  · exact .inr (by omega)

theorem not_covers_of_isApart {s t : Shift} (hs : s.Sound) (h : s.isApart t = true) {n : Nat}
    (hn : s.covers n = true) : t.covers (s.target n) = false := by
  rw [Bool.eq_false_iff]
  intro ht
  simp only [isApart, misses, Bool.or_eq_true, Bool.and_eq_true, Nat.blt_eq, beq_iff_eq] at h
  obtain ⟨hlow, hhigh⟩ := target_bounds hs hn
  obtain ⟨hfirst, hlast, hmod⟩ := covers_iff.1 hn
  obtain ⟨hfirst', hlast', hmod'⟩ := covers_iff.1 ht
  rcases h with (hbefore | hbehind) | ⟨⟨hstep, hstep'⟩, hodd⟩
  · omega
  · omega
  · rw [hstep'] at hmod'
    rcases hstep with hsingle | hstep
    · omega
    · rw [hstep] at hmod
      omega

end Shift

theorem shifted_of_find? {shifts : List Shift} {c : Char} {s : Shift}
    (h : shifts.find? (·.covers c.toNat) = some s) :
    shifted shifts c = Char.ofNat (s.target c.toNat) := by
  rw [shifted, h]

theorem shifted_of_not_covers {shifts : List Shift} {c : Char}
    (h : ∀ s ∈ shifts, s.covers c.toNat = false) : shifted shifts c = c := by
  have hnone : shifts.find? (·.covers c.toNat) = none := by
    rw [List.find?_eq_none]
    intro s hs
    simp [h s hs]
  rw [shifted, hnone]

/-! Characters of their own small form -/

def IsOwnSmall (c : Char) : Prop :=
  lowerChar c = [c]

instance (c : Char) : Decidable (IsOwnSmall c) :=
  inferInstanceAs (Decidable (lowerChar c = [c]))

/-- The capital I with a dot, as a run of its own; its small form takes two characters. -/
def dottedRun : Shift := ⟨0x130, 0x130, 2, 0⟩

theorem isOwnSmall_of_not_covers {c : Char} (hascii : 128 ≤ c.toNat)
    (h : ∀ s ∈ dottedRun :: lowerShifts, s.covers c.toNat = false) : IsOwnSmall c := by
  obtain ⟨hdotted, hshifts⟩ := List.forall_mem_cons.1 h
  have hne : c.toNat ≠ 0x130 := fun e => by
    rw [e] at hdotted
    cases hdotted
  rw [IsOwnSmall, lowerChar, if_neg (Nat.not_lt_of_le hascii), if_neg hne,
    shifted_of_not_covers hshifts]

theorem apart_lowerShifts : ∀ s ∈ lowerShifts, s.Sound ∧
    ((128 ≤ s.target s.first ∧ (dottedRun :: lowerShifts).all s.isApart = true) ∨
      (s.first = s.last ∧ IsOwnSmall (Char.ofNat (s.target s.first)))) := by
  decide +kernel

theorem isOwnSmall_of_mem_lowerChar {c d : Char} (h : d ∈ lowerChar c) : IsOwnSmall d := by
  rw [lowerChar] at h
  split at h
  · rename_i hascii
    rw [List.mem_singleton.1 h, IsOwnSmall, lowerChar, if_pos (toLower_toLower_of_ascii hascii).1,
      (toLower_toLower_of_ascii hascii).2]
  · rename_i hascii
    split at h
    · have hsmall : IsOwnSmall 'i' ∧ IsOwnSmall (Char.ofNat 0x307) := by decide +kernel
      obtain rfl | hd := List.mem_cons.1 h
      · exact hsmall.1
      · rw [List.mem_singleton.1 hd]
        exact hsmall.2
    · rename_i hdotted
      have hd := List.mem_singleton.1 h
      cases hfound : lowerShifts.find? (·.covers c.toNat) with
      | none =>
        have hsame : shifted lowerShifts c = c := by rw [shifted, hfound]
        rw [hd, hsame, IsOwnSmall, lowerChar, if_neg hascii, if_neg hdotted, hsame]
      | some s =>
        have hcovers := List.find?_some hfound
        obtain ⟨hsound, hcase⟩ := apart_lowerShifts s (List.mem_of_find?_eq_some hfound)
        rw [hd, shifted_of_find? hfound]
        rcases hcase with ⟨hlow, hapart⟩ | ⟨hsingle, hsmall⟩
        · have hnat := toNat_ofNat (Shift.isValidChar_target hsound hcovers)
          refine isOwnSmall_of_not_covers ?_ fun t ht => ?_
          · have hbounds := Shift.target_bounds hsound hcovers
            have hfirst := (Shift.covers_iff.1 hcovers).1
            rw [hnat]
            omega
          · rw [hnat]
            exact Shift.not_covers_of_isApart hsound (List.all_eq_true.1 hapart t ht) hcovers
        · obtain ⟨hfirst, hlast, _⟩ := Shift.covers_iff.1 hcovers
          have hn : c.toNat = s.first := by omega
          rwa [hn]

theorem isOwnSmall_of_mem_lowerFrom {cs : List Char} {inWord : Bool} :
    ∀ c ∈ lowerFrom inWord cs, IsOwnSmall c := by
  induction cs generalizing inWord with
  | nil => simp
  | cons c rest ih =>
    rw [lowerFrom]
    split
    · rename_i hascii
      refine List.forall_mem_cons.2 ⟨@isOwnSmall_of_mem_lowerChar c _ ?_, ih⟩
      rw [lowerChar, if_pos hascii]
      exact List.mem_cons_self
    · refine List.forall_mem_append.2 ⟨fun d hd => ?_, ih⟩
      split at hd
      · rw [List.mem_singleton.1 hd]
        split <;> decide +kernel
      · exact isOwnSmall_of_mem_lowerChar hd

theorem isOwnSmall_of_mem_lower {s : String} : ∀ c ∈ (lower s).toList, IsOwnSmall c := by
  rw [lower, String.toList_ofList]
  exact isOwnSmall_of_mem_lowerFrom

end BeanForge.Text

import BeanForge.Json.Print
import BeanForge.Json.Read
import Mathlib.Data.List.Chain

/-!
# Escapes in JSON texts

Escapes for control characters restore every text. Where all characters outside ASCII are escaped,
a text is restored as well, unless two halves of a pair stand side by side in it: those come back
as one character.
-/

namespace BeanForge.Json

open Text

/-! Characters -/

theorem charOf_numberOf (c : Char) : charOf (numberOf c) = c := by
  by_cases hhalf : isHalf c = true
  · have hrange : 0x10D800 ≤ c.toNat ∧ c.toNat < 0x10E000 := by simpa [isHalf] using hhalf
    have hnumber : isHalfNumber (c.toNat - 0x100000) = true := by
      simp only [isHalfNumber, Bool.and_eq_true, decide_eq_true_eq]
      omega
    rw [numberOf, if_pos hhalf, charOf, if_pos hnumber, halfOf,
      Nat.add_sub_cancel' (by omega), Char.ofNat_toNat]
  · have hvalid : c.toNat < 0xD800 ∨ 0xDFFF < c.toNat ∧ c.toNat < 0x110000 := c.valid
    have hnumber : ¬isHalfNumber c.toNat = true := by
      simp only [isHalfNumber, Bool.and_eq_true, decide_eq_true_eq]
      omega
    rw [numberOf, if_neg hhalf, charOf, if_neg hnumber, Char.ofNat_toNat]

/-- Only a half has the number of a half. -/
theorem numberOf_eq_toNat {c : Char} (h : numberOf c < 0xD800 ∨ 0xE000 ≤ numberOf c) :
    numberOf c = c.toNat := by
  by_cases hhalf : isHalf c = true
  · rw [numberOf, if_pos hhalf] at h
    simp only [isHalf, Bool.and_eq_true, decide_eq_true_eq] at hhalf
    omega
  · rw [numberOf, if_neg hhalf]

theorem unitOf_hexFixed {n : Nat} (h : n < 0x10000) (cs : List Char) :
    unitOf? ((hexFixed 4 n ++ cs).take 4) = some n := by
  have htake : (hexFixed 4 n ++ cs).take 4 = hexFixed 4 n := by
    rw [List.take_append_of_le_length (by simp), List.take_of_length_le (by simp)]
  have hdigit : ∀ m, isHexDigit (hexDigit (m % 16)) = true := fun m => by
    rw [isHexDigit, hexValue_hexDigit (Nat.mod_lt m (by decide))]
    rfl
  have hdigits : (hexFixed 4 n).all isHexDigit = true := by
    simp [hexFixed, hdigit]
  rw [htake, unitOf?, hdigits, hexNumber_hexFixed 4 n h]
  simp

theorem escapedUnit_unitEscape {n : Nat} (h : n < 0x10000) (cs : List Char) :
    escapedUnit? (unitEscape n ++ cs) = some n :=
  unitOf_hexFixed h cs

/-- A short escape is read by its letter. -/
theorem shortEscaped_of_shortEscape {c : Char} {escape : List Char}
    (h : shortEscape? c = some escape) :
    ∃ letter, escape = ['\\', letter] ∧ letter ≠ 'u' ∧ shortEscaped? letter = some c := by
  have hnumber : ∀ n, c.toNat = n → Char.ofNat n = c := fun n hn => by
    rw [← hn, Char.ofNat_toNat]
  unfold shortEscape? at h
  split_ifs at h with hquote hslash hline hreturn htab hback hform <;> cases h
  · exact ⟨'"', rfl, by decide, by rw [hquote]; rfl⟩
  · exact ⟨'\\', rfl, by decide, by rw [hslash]; rfl⟩
  · exact ⟨'n', rfl, by decide, by rw [hline]; rfl⟩
  · exact ⟨'r', rfl, by decide, by rw [hreturn]; rfl⟩
  · exact ⟨'t', rfl, by decide, by rw [htab]; rfl⟩
  · exact ⟨'b', rfl, by decide, by rw [← hnumber 8 hback]; rfl⟩
  · exact ⟨'f', rfl, by decide, by rw [← hnumber 12 hform]; rfl⟩

/-- A character without a short escape is none of those that end or begin something. -/
theorem ne_of_shortEscape_none {c : Char} (h : shortEscape? c = none) : c ≠ '"' ∧ c ≠ '\\' := by
  constructor <;> rintro rfl <;> exact absurd h (by decide)

section CharsFrom

variable {fuel : Nat} {c : Char} {cs : List Char}

def before (c : Char) (found : Option (Rest (List Char))) : Option (Rest (List Char)) :=
  found.map fun (cs, rest) => (c :: cs, rest)

theorem charsFrom_short {escape : List Char} (h : shortEscape? c = some escape) :
    charsFrom (fuel + 1) (escape ++ cs) = before c (charsFrom fuel cs) := by
  obtain ⟨letter, rfl, hletter, hread⟩ := shortEscaped_of_shortEscape h
  simp only [List.cons_append, List.nil_append, charsFrom, hread]
  cases charsFrom fuel cs <;> rfl

theorem charsFrom_self (hshort : shortEscape? c = none) (hcontrol : ¬c.toNat < 32) :
    charsFrom (fuel + 1) (c :: cs) = before c (charsFrom fuel cs) := by
  obtain ⟨hquote, hslash⟩ := ne_of_shortEscape_none hshort
  rw [charsFrom, if_neg (by simp [hslash, hcontrol])]
  · cases charsFrom fuel cs <;> rfl
  all_goals simp [hquote, hslash]

/-- An escaped unit stands for itself, unless it is the first half of a pair that goes on. -/
theorem charsFrom_unitEscape {n : Nat} (h : n < 0x10000)
    (hpair : ∀ low, escapedUnit? cs = some low → ¬(isHighUnit n = true ∧ isLowUnit low = true)) :
    charsFrom (fuel + 1) (unitEscape n ++ cs) = before (charOf n) (charsFrom fuel cs) := by
  have hdrop : (hexFixed 4 n ++ cs).drop 4 = cs := List.drop_left' (length_hexFixed 4 n)
  simp only [unitEscape, List.cons_append, charsFrom, unitOf_hexFixed h, hdrop,
    Option.bind_eq_bind, Option.bind_some]
  cases hnext : escapedUnit? cs with
  | none => cases charsFrom fuel cs <;> rfl
  | some low =>
    simp only [Bool.and_eq_true, if_neg (hpair low hnext)]
    cases charsFrom fuel cs <;> rfl

/-- Two escaped units that are the halves of a pair stand for one character. -/
theorem charsFrom_pair {high low : Nat} (hhigh : isHighUnit high = true)
    (hlow : isLowUnit low = true) :
    charsFrom (fuel + 1) (unitEscape high ++ (unitEscape low ++ cs)) =
      before (pairOf high low) (charsFrom fuel cs) := by
  have hsmall : high < 0x10000 ∧ low < 0x10000 := by
    simp only [isHighUnit, isLowUnit, Bool.and_eq_true, decide_eq_true_eq] at hhigh hlow
    omega
  have hdrop : (hexFixed 4 high ++ (unitEscape low ++ cs)).drop 4 = unitEscape low ++ cs :=
    List.drop_left' (length_hexFixed 4 high)
  have hskip : (unitEscape low ++ cs).drop 6 = cs :=
    List.drop_left' (by simp [unitEscape])
  conv_lhs => rw [unitEscape, List.cons_append, List.cons_append]
  simp only [charsFrom, unitOf_hexFixed hsmall.1, hdrop, escapedUnit_unitEscape hsmall.2,
    Option.bind_eq_bind, Option.bind_some, hhigh, hlow, Bool.and_self, if_true, hskip]
  cases charsFrom fuel cs <;> rfl

/-- The units of a character are the halves of its pair. -/
theorem pairOf_units {n : Nat} (hlow : 0x10000 ≤ n) (hhigh : n < 0x110000) :
    isHighUnit (0xD800 + (n - 0x10000) / 0x400) = true ∧
      isLowUnit (0xDC00 + (n - 0x10000) % 0x400) = true ∧
      pairOf (0xD800 + (n - 0x10000) / 0x400) (0xDC00 + (n - 0x10000) % 0x400) =
        Char.ofNat n := by
  refine ⟨?_, ?_, ?_⟩
  · simp only [isHighUnit, Bool.and_eq_true, decide_eq_true_eq]
    omega
  · simp only [isLowUnit, Bool.and_eq_true, decide_eq_true_eq]
    omega
  · have hsum : 0x10000 + (0xD800 + (n - 0x10000) / 0x400 - 0xD800) * 0x400 +
        (0xDC00 + (n - 0x10000) % 0x400 - 0xDC00) = n := by omega
    rw [pairOf, hsum]

theorem charsFrom_plainChar (c : Char) :
    charsFrom (fuel + 1) (plainChar c ++ cs) = before c (charsFrom fuel cs) := by
  cases hshort : shortEscape? c with
  | some escape =>
    rw [plainChar, hshort]
    exact charsFrom_short hshort
  | none =>
    simp only [plainChar, hshort]
    split_ifs with hcontrol
    · have hself : charOf c.toNat = c := by
        have hhalf : ¬isHalfNumber c.toNat = true := by
          simp only [isHalfNumber, Bool.and_eq_true, decide_eq_true_eq]
          omega
        rw [charOf, if_neg hhalf, Char.ofNat_toNat]
      rw [charsFrom_unitEscape (by omega) ?_, hself]
      rintro low _ ⟨hhigh, _⟩
      simp only [isHighUnit, Bool.and_eq_true, decide_eq_true_eq] at hhigh
      omega
    · exact charsFrom_self hshort hcontrol

/-- A character is restored, unless it is a first half and the second follows. -/
theorem charsFrom_asciiChar (c : Char)
    (hpair : ∀ low, escapedUnit? cs = some low →
      ¬(isHighUnit (numberOf c) = true ∧ isLowUnit low = true)) :
    charsFrom (fuel + 1) (asciiChar c ++ cs) = before c (charsFrom fuel cs) := by
  cases hshort : shortEscape? c with
  | some escape =>
    rw [asciiChar, hshort]
    exact charsFrom_short hshort
  | none =>
    simp only [asciiChar, hshort]
    split_ifs with hplain hsmall
    · simp only [Bool.and_eq_true, decide_eq_true_eq] at hplain
      have hself := numberOf_eq_toNat (c := c) (by omega)
      exact charsFrom_self hshort (by omega)
    · rw [charsFrom_unitEscape hsmall hpair, charOf_numberOf]
    · have hvalid : c.toNat < 0x110000 := by
        have hbounds : c.toNat < 0xD800 ∨ 0xDFFF < c.toNat ∧ c.toNat < 0x110000 := c.valid
        omega
      have hself := numberOf_eq_toNat (c := c) (by omega)
      obtain ⟨hhigh, hlow, hwhole⟩ := pairOf_units (n := numberOf c) (by omega) (by omega)
      rw [List.append_assoc, charsFrom_pair hhigh hlow, hwhole, hself, Char.ofNat_toNat]

end CharsFrom

/-! Texts -/

/-- A text comes back as it was from the escapes that it is written with. -/
def Restored (char : Char → List Char) (s : String) : Prop :=
  ∀ fuel rest, (s.toList.flatMap char).length < fuel →
    charsFrom fuel (s.toList.flatMap char ++ '"' :: rest) = some (s.toList, rest)

theorem length_plainChar (c : Char) : 1 ≤ (plainChar c).length := by
  cases hshort : shortEscape? c with
  | some escape =>
    obtain ⟨letter, rfl, _⟩ := shortEscaped_of_shortEscape hshort
    simp [plainChar, hshort]
  | none =>
    simp only [plainChar, hshort]
    split_ifs <;> simp [unitEscape]

theorem length_asciiChar (c : Char) : 1 ≤ (asciiChar c).length := by
  cases hshort : shortEscape? c with
  | some escape =>
    obtain ⟨letter, rfl, _⟩ := shortEscaped_of_shortEscape hshort
    simp [asciiChar, hshort]
  | none =>
    simp only [asciiChar, hshort]
    split_ifs <;> simp [unitEscape]

/-- A text comes back if each of its characters does before those that come after it. -/
theorem restored_of_chars {char : Char → List Char} {s : String}
    (hlength : ∀ c, 1 ≤ (char c).length)
    (h : ∀ c cs, c :: cs <:+ s.toList → ∀ fuel rest,
      charsFrom (fuel + 1) (char c ++ (cs.flatMap char ++ '"' :: rest)) =
        before c (charsFrom fuel (cs.flatMap char ++ '"' :: rest))) : Restored char s := by
  have hall : ∀ cs, cs <:+ s.toList → ∀ fuel rest, (cs.flatMap char).length < fuel →
      charsFrom fuel (cs.flatMap char ++ '"' :: rest) = some (cs, rest) := by
    intro cs hcs fuel rest hfuel
    induction cs generalizing fuel with
    | nil =>
      cases fuel with
      | zero => cases hfuel
      | succ fuel => rfl
    | cons c cs ih =>
      have hone := hlength c
      have hrest := ih ((List.suffix_cons c cs).trans hcs)
      rw [List.flatMap_cons, List.length_append] at hfuel
      cases fuel with
      | zero => cases hfuel
      | succ fuel =>
        rw [List.flatMap_cons, List.append_assoc, h c cs hcs, hrest fuel (by omega)]
        rfl
  exact hall s.toList (List.suffix_refl _)

theorem restored_plainChar (s : String) : Restored plainChar s :=
  restored_of_chars length_plainChar fun c _ _ _ _ => charsFrom_plainChar c

/-- No first half of a pair is followed by a second half. -/
def Unpaired (s : String) : Prop :=
  s.toList.IsChain fun c d =>
    ¬(isHighUnit (numberOf c) = true ∧ isLowUnit (numberOf d) = true)

/-- Only a second half begins with an escaped second unit. -/
theorem isLowUnit_of_escapedUnit {c : Char} {cs : List Char} {low : Nat}
    (h : escapedUnit? (asciiChar c ++ cs) = some low) (hlow : isLowUnit low = true) :
    isLowUnit (numberOf c) = true := by
  cases hshort : shortEscape? c with
  | some escape =>
    obtain ⟨letter, rfl, hletter, _⟩ := shortEscaped_of_shortEscape hshort
    simp only [asciiChar, hshort, List.cons_append, escapedUnit?] at h
    split at h
    · rename_i heq
      simp only [List.cons.injEq, true_and] at heq
      exact absurd heq.1 hletter
    · cases h
  | none =>
    simp only [asciiChar, hshort] at h
    split_ifs at h with hplain hsmall
    · simp only [List.cons_append, escapedUnit?] at h
      split at h
      · rename_i heq
        simp only [List.cons.injEq] at heq
        exact absurd heq.1 (ne_of_shortEscape_none hshort).2
      · cases h
    · rw [escapedUnit_unitEscape hsmall, Option.some.injEq] at h
      rwa [h]
    · -- A pair begins with its first half.
      have hnumber : numberOf c < 0x110000 := by
        have hvalid : c.toNat < 0xD800 ∨ 0xDFFF < c.toNat ∧ c.toNat < 0x110000 := c.valid
        rw [numberOf]
        split_ifs <;> omega
      rw [List.append_assoc, escapedUnit_unitEscape (by omega), Option.some.injEq] at h
      rw [← h] at hlow
      simp only [isLowUnit, Bool.and_eq_true, decide_eq_true_eq] at hlow
      omega

theorem restored_asciiChar {s : String} (h : Unpaired s) : Restored asciiChar s := by
  refine restored_of_chars length_asciiChar fun c cs hcs fuel rest => charsFrom_asciiChar c ?_
  rintro low hnext ⟨hhigh, hlow⟩
  cases cs with
  | nil => cases hnext
  | cons d ds =>
    rw [List.flatMap_cons, List.append_assoc] at hnext
    have hchain := List.IsChain.suffix h hcs
    exact (List.isChain_cons_cons.1 hchain).1 ⟨hhigh, isLowUnit_of_escapedUnit hnext hlow⟩

/-- Texts without halves are restored. -/
theorem unpaired_of_whole {s : String} (h : ∀ c ∈ s.toList, isHalf c = false) : Unpaired s := by
  rw [Unpaired]
  generalize s.toList = cs at *
  induction cs with
  | nil => exact .nil
  | cons c cs ih =>
    have hrest := ih fun d hd => h d (List.mem_cons_of_mem _ hd)
    cases cs with
    | nil => exact .singleton c
    | cons d ds =>
      refine List.isChain_cons_cons.2 ⟨fun hpair => ?_, hrest⟩
      have hvalid : c.toNat < 0xD800 ∨ 0xDFFF < c.toNat ∧ c.toNat < 0x110000 := c.valid
      have hself : numberOf c = c.toNat := by
        rw [numberOf, h c List.mem_cons_self]
        rfl
      obtain ⟨hhigh, _⟩ := hpair
      simp only [hself, isHighUnit, Bool.and_eq_true, decide_eq_true_eq] at hhigh
      omega

theorem stringFrom_textOf {char : Char → List Char} {s : String} (h : Restored char s)
    {fuel : Nat} (hfuel : (s.toList.flatMap char).length < fuel) (rest : List Char) :
    stringFrom fuel (s.toList.flatMap char ++ '"' :: rest) = some (s, rest) := by
  rw [stringFrom, h fuel rest hfuel]
  simp

end BeanForge.Json

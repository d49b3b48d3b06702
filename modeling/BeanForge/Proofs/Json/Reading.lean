import BeanForge.Proofs.Json.Escapes
import BeanForge.Proofs.Keyed

/-!
# Reading what was written

A value that was written on one line or indented is read back as it was, if its numbers are whole,
its objects name no member twice, and each of its texts is restored by the escapes it is written
with.
-/

namespace BeanForge.Json

open Text

/-! Numbers -/

def EndsNumber (cs : List Char) : Prop :=
  ∀ c ∈ cs.head?, c.isDigit = false ∧ c ≠ '.' ∧ c ≠ 'e' ∧ c ≠ 'E'

theorem head_natDigits {n : Nat} (h : 0 < n) : (natDigits n).head? ≠ some '0' := by
  induction n using Nat.strong_induction_on with
  | h n ih =>
    rw [natDigits]
    by_cases hsmall : n < 10
    · rw [Nat.toDigits_of_lt_base hsmall]
      have hdigit : ∀ m < 10, 0 < m → [m.digitChar].head? ≠ some '0' := by decide
      exact hdigit n hsmall h
    · have hne : Nat.toDigits 10 (n / 10) ≠ [] := Nat.toDigits_ne_nil
      rw [Nat.toDigits_of_base_le (by decide) (by omega),
        List.head?_append_of_ne_nil _ hne]
      exact ih (n / 10) (by omega) (by omega)

theorem digitsFrom_natDigits (n : Nat) {rest : List Char} (h : EndsNumber rest) :
    digitsFrom (natDigits n ++ rest) = (natDigits n, rest) := by
  have hdigits : ∀ c ∈ natDigits n, c.isDigit = true := fun c hc =>
    Nat.isDigit_of_mem_toDigits (by decide) (by decide) hc
  have hend : rest.takeWhile Char.isDigit = [] ∧ rest.dropWhile Char.isDigit = rest := by
    cases rest with
    | nil => exact ⟨rfl, rfl⟩
    | cons c cs => simp [(h c rfl).1]
  rw [digitsFrom, List.takeWhile_append_of_pos hdigits, List.dropWhile_append_of_pos hdigits,
    hend.1, hend.2, List.append_nil]

theorem unsignedFrom_natDigits (negative : Bool) (n : Nat) {rest : List Char}
    (h : EndsNumber rest) :
    unsignedFrom negative (natDigits n ++ rest) =
      some (.integer (if negative then -(Int.ofNat n) else Int.ofNat n), rest) := by
  have hne : natDigits n ≠ [] := Nat.toDigits_ne_nil
  have hzero : ¬(1 < (natDigits n).length ∧ (natDigits n).head? = some '0') := by
    rintro ⟨hlength, hhead⟩
    by_cases hn : 0 < n
    · exact head_natDigits hn hhead
    · obtain rfl : n = 0 := by omega
      exact absurd hlength (by decide)
  have hfraction : fractionFrom rest = ([], rest) := by
    cases rest with
    | nil => rfl
    | cons c cs =>
      have hpoint := (h c rfl).2.1
      rw [fractionFrom]
      rintro cs' he
      exact hpoint (List.cons.inj he).1
  have hexponent : exponentFrom? rest = none := by
    cases rest with
    | nil => rfl
    | cons c cs => simp [exponentFrom?, (h c rfl).2.2.1, (h c rfl).2.2.2]
  have hnumber : numberIn (natDigits n) = n :=
    Nat.ofDigitChars_toDigits (by decide) (by decide)
  have hread : ¬((natDigits n).isEmpty ||
      (decide (1 < (natDigits n).length) && decide ((natDigits n).head? = some '0'))) = true := by
    simpa [hne] using hzero
  rw [unsignedFrom, digitsFrom_natDigits n h]
  simp only [gt_iff_lt, hread, hfraction, hexponent, hnumber, List.isEmpty_nil, if_true,
    Bool.false_eq_true, if_false]

/-! Values -/

theorem skipGap_append {gap : List Char} (h : ∀ c ∈ gap, isGap c = true) (cs : List Char) :
    skipGap (gap ++ cs) = skipGap cs :=
  List.dropWhile_append_of_pos h

theorem skipGap_cons {c : Char} (h : isGap c = false) (cs : List Char) :
    skipGap (c :: cs) = c :: cs := by
  simp [skipGap, h]

theorem isGap_none : ∀ c ∈ ([] : List Char), isGap c = true := List.forall_mem_nil _

theorem isGap_blank : ∀ c ∈ [' '], isGap c = true := List.forall_mem_singleton.2 rfl

theorem valueFrom_append {gap : List Char} (h : ∀ c ∈ gap, isGap c = true) (fuel : Nat)
    (cs : List Char) : valueFrom fuel (gap ++ cs) = valueFrom fuel cs := by
  cases fuel with
  | zero => rfl
  | succ fuel => simp only [valueFrom, skipGap_append h]

/-- A text from which a value is read, whatever follows it. -/
structure Shows (cs : List Char) (v : Json) : Prop where
  opens : ∃ c ds, cs = c :: ds ∧ isGap c = false ∧ c ≠ ']'
  reads : ∀ fuel rest, cs.length < fuel → EndsNumber rest →
    valueFrom fuel (cs ++ rest) = some (v, rest)

theorem shows_null : Shows "null".toList null := by
  refine ⟨⟨'n', _, rfl, rfl, by decide⟩, fun fuel rest hfuel _ => ?_⟩
  obtain ⟨fuel, rfl⟩ := Nat.exists_eq_add_of_lt hfuel
  rfl

theorem shows_true : Shows "true".toList (bool true) := by
  refine ⟨⟨'t', _, rfl, rfl, by decide⟩, fun fuel rest hfuel _ => ?_⟩
  obtain ⟨fuel, rfl⟩ := Nat.exists_eq_add_of_lt hfuel
  rfl

theorem shows_false : Shows "false".toList (bool false) := by
  refine ⟨⟨'f', _, rfl, rfl, by decide⟩, fun fuel rest hfuel _ => ?_⟩
  obtain ⟨fuel, rfl⟩ := Nat.exists_eq_add_of_lt hfuel
  rfl

theorem Restored.shows {char : Char → List Char} {s : String} (h : Restored char s) :
    Shows (textOf char s) (string s) := by
  refine ⟨⟨'"', _, rfl, rfl, by decide⟩, fun fuel rest hfuel _ => ?_⟩
  simp only [textOf, List.length_append, List.length_cons] at hfuel
  obtain ⟨fuel, rfl⟩ : ∃ more, fuel = more + 1 := ⟨fuel - 1, by omega⟩
  simp only [textOf, List.cons_append, List.append_assoc, List.nil_append, valueFrom,
    skipGap_cons (show isGap '"' = false from rfl)]
  rw [stringFrom_textOf h (by omega)]
  rfl

theorem dropWord_of_ne {c d : Char} (h : d ≠ c) (ds cs : List Char) :
    dropWord? (String.ofList (d :: ds)) (c :: cs) = none := by
  rw [dropWord?, String.toList_ofList, List.isPrefixOf, beq_eq_false_iff_ne.2 h]
  rfl

/-- No word begins with a digit or a sign. -/
theorem wordFrom_number {c : Char} (h : c.isDigit = true ∨ c = '-') (cs : List Char) :
    wordFrom (c :: cs) = none := by
  have hne : ∀ d, d.isDigit = false → d ≠ '-' → d ≠ c := by
    rintro d hdigit hsign rfl
    rcases h with h | h
    · rw [hdigit] at h
      cases h
    · exact hsign h
  have hnull := dropWord_of_ne (hne 'n' rfl (by decide)) "ull".toList cs
  have htrue := dropWord_of_ne (hne 't' rfl (by decide)) "rue".toList cs
  have hfalse := dropWord_of_ne (hne 'f' rfl (by decide)) "alse".toList cs
  have hnan := dropWord_of_ne (hne 'N' rfl (by decide)) "aN".toList cs
  have hinfinity := dropWord_of_ne (hne 'I' rfl (by decide)) "nfinity".toList cs
  simp only [wordFrom, List.findSome?_cons, List.findSome?_nil]
  rw [show dropWord? "null" (c :: cs) = none from hnull,
    show dropWord? "true" (c :: cs) = none from htrue,
    show dropWord? "false" (c :: cs) = none from hfalse,
    show dropWord? "NaN" (c :: cs) = none from hnan,
    show dropWord? "Infinity" (c :: cs) = none from hinfinity]
  rfl

theorem valueFrom_number {c : Char} (h : c.isDigit = true ∨ c = '-') (fuel : Nat)
    (cs : List Char) : valueFrom (fuel + 1) (c :: cs) = numberFrom (c :: cs) := by
  have hne : isGap c = false ∧ c ≠ '"' ∧ c ≠ '[' ∧ c ≠ '\x7b' := by
    have hrange : 48 ≤ c.toNat ∧ c.toNat ≤ 57 ∨ c = '-' := by
      refine h.imp_left fun hdigit => ?_
      simpa [Char.isDigit, UInt32.le_iff_toNat_le] using hdigit
    refine ⟨?_, ?_, ?_, ?_⟩
    · simp only [isGap, Bool.or_eq_false_iff, decide_eq_false_iff_not]
      refine ⟨⟨⟨?_, ?_⟩, ?_⟩, ?_⟩ <;> rintro rfl <;> exact absurd hrange (by decide)
    all_goals rintro rfl; exact absurd hrange (by decide)
  rw [valueFrom, skipGap_cons hne.1]
  obtain ⟨_, hquote, hbracket, hbrace⟩ := hne
  split
  · rename_i he
    exact absurd (List.cons.inj he).1 hquote
  · rename_i he
    exact absurd (List.cons.inj he).1 hbracket
  · rename_i he
    exact absurd (List.cons.inj he).1 hbrace
  · rw [wordFrom_number h, Option.none_or]

theorem shows_integer (n : Int) : Shows (intDigits n) (integer n) := by
  have hfirst : ∀ n, ∃ c ds, natDigits n = c :: ds ∧ c.isDigit = true := by
    intro n
    cases hdigits : natDigits n with
    | nil => exact absurd hdigits Nat.toDigits_ne_nil
    | cons c ds =>
      refine ⟨c, ds, rfl, Nat.isDigit_of_mem_toDigits (by decide) (by decide) (n := n) (b := 10) ?_⟩
      rw [natDigits] at hdigits
      rw [hdigits]
      exact List.mem_cons_self
  have hplain : ∀ c : Char, c.isDigit = true → isGap c = false ∧ c ≠ ']' ∧ c ≠ '-' ∧ c ≠ 'I' := by
    intro c hdigit
    refine ⟨?_, ?_, ?_, ?_⟩
    · simp only [isGap, Bool.or_eq_false_iff, decide_eq_false_iff_not]
      refine ⟨⟨⟨?_, ?_⟩, ?_⟩, ?_⟩ <;> rintro rfl <;> cases hdigit
    all_goals rintro rfl; cases hdigit
  cases n with
  | ofNat n =>
    obtain ⟨c, ds, hdigits, hdigit⟩ := hfirst n
    obtain ⟨hgap, hclose, hsign, _⟩ := hplain c hdigit
    refine ⟨⟨c, ds, hdigits, hgap, hclose⟩, fun fuel rest hfuel hrest => ?_⟩
    obtain ⟨fuel, rfl⟩ : ∃ more, fuel = more + 1 := ⟨fuel - 1, by omega⟩
    have hread := unsignedFrom_natDigits false n hrest
    rw [hdigits, List.cons_append] at hread
    rw [intDigits, hdigits, List.cons_append, valueFrom_number (.inl hdigit), numberFrom, hread]
    · rfl
    · rintro cs he
      exact hsign (List.cons.inj he).1
  | negSucc n =>
    refine ⟨⟨'-', _, rfl, rfl, by decide⟩, fun fuel rest hfuel hrest => ?_⟩
    obtain ⟨fuel, rfl⟩ : ∃ more, fuel = more + 1 := ⟨fuel - 1, by omega⟩
    obtain ⟨c, ds, hdigits, hdigit⟩ := hfirst (n + 1)
    obtain ⟨_, _, _, hletter⟩ := hplain c hdigit
    have hword : dropWord? "Infinity" (natDigits (n + 1) ++ rest) = none := by
      rw [hdigits]
      exact dropWord_of_ne (Ne.symm hletter) "nfinity".toList (ds ++ rest)
    rw [intDigits, List.cons_append, valueFrom_number (.inr rfl), numberFrom, hword,
      unsignedFrom_natDigits true (n + 1) hrest]
    rfl

/-! Arrays and objects -/

section Composite

variable {between closing opening : List Char}

theorem endsNumber_cons {c : Char} (h : isGap c = true ∨ c = ',' ∨ c = ']' ∨ c = '\x7d')
    (cs : List Char) : EndsNumber (c :: cs) := by
  rintro d ⟨⟩
  simp only [isGap, Bool.or_eq_true, decide_eq_true_eq] at h
  rcases h with (((rfl | rfl) | rfl) | rfl) | rfl | rfl | rfl <;> decide

theorem endsNumber_gap (h : ∀ c ∈ closing, isGap c = true) : EndsNumber closing := by
  cases closing with
  | nil => exact fun c hc => by cases hc
  | cons c cs => exact endsNumber_cons (.inl (h c List.mem_cons_self)) cs

theorem endsNumber_closing (h : ∀ c ∈ closing, isGap c = true) {c : Char}
    (hc : c = ']' ∨ c = '\x7d') (cs : List Char) : EndsNumber (closing ++ c :: cs) := by
  cases closing with
  | nil => exact endsNumber_cons (.inr (.inr hc)) cs
  | cons d ds => exact endsNumber_cons (.inl (h d List.mem_cons_self)) _

theorem itemsFrom_shows (hbetween : ∀ c ∈ between, isGap c = true)
    (hclosing : ∀ c ∈ closing, isGap c = true) {texts : List (List Char)} {items : List Json}
    (h : List.Forall₂ Shows texts items) (hne : items ≠ [])
    (hopening : ∀ c ∈ opening, isGap c = true) {fuel : Nat}
    (hfuel : (opening ++ (',' :: between).intercalate texts ++ closing).length + 1 < fuel)
    (rest : List Char) :
    itemsFrom fuel (opening ++ (',' :: between).intercalate texts ++ closing ++ ']' :: rest) =
      some (items, rest) := by
  induction h generalizing opening fuel with
  | nil => exact absurd rfl hne
  | cons htext hmore ih =>
    obtain ⟨fuel, rfl⟩ : ∃ more, fuel = more + 1 := ⟨fuel - 1, by omega⟩
    cases hmore with
    | nil =>
      simp only [List.intercalate_singleton, List.length_append] at hfuel
      rw [List.intercalate_singleton, List.append_assoc, List.append_assoc, itemsFrom,
        valueFrom_append hopening,
        htext.reads fuel _ (by omega) (endsNumber_closing hclosing (.inl rfl) rest)]
      simp only [Option.bind_eq_bind, Option.bind_some, skipGap_append hclosing,
        skipGap_cons (show isGap ']' = false from rfl)]
      rfl
    | cons hnext hothers =>
      rw [List.intercalate_cons_cons] at hfuel ⊢
      simp only [List.length_append, List.length_cons] at hfuel
      have hrest := ih (by simp) hbetween
        (by simp only [List.length_append]; omega : _ + 1 < fuel)
      simp only [List.append_assoc] at hrest
      simp only [List.append_assoc, List.cons_append, itemsFrom, valueFrom_append hopening]
      rw [htext.reads fuel _ (by omega) (endsNumber_cons (.inr (.inl rfl)) _)]
      simp only [Option.bind_eq_bind, Option.bind_some,
        skipGap_cons (show isGap ',' = false from rfl), hrest]
      rfl

theorem shows_array (hopening : ∀ c ∈ opening, isGap c = true)
    (hbetween : ∀ c ∈ between, isGap c = true) (hclosing : ∀ c ∈ closing, isGap c = true)
    {texts : List (List Char)} {items : List Json} (h : List.Forall₂ Shows texts items)
    (hne : items ≠ []) :
    Shows ('[' :: (opening ++ (',' :: between).intercalate texts ++ closing ++ [']']))
      (array items) := by
  refine ⟨⟨'[', _, rfl, rfl, by decide⟩, fun fuel rest hfuel _ => ?_⟩
  obtain ⟨fuel, rfl⟩ : ∃ more, fuel = more + 1 := ⟨fuel - 1, by omega⟩
  -- The first item decides that the array is not empty.
  obtain ⟨c, cs, htexts, hgap, hclose⟩ :
      ∃ c cs, (',' :: between).intercalate texts = c :: cs ∧ isGap c = false ∧ c ≠ ']' := by
    cases h with
    | nil => exact absurd rfl hne
    | cons htext hmore =>
      obtain ⟨c, cs, rfl, hopens⟩ := htext.opens
      cases hmore with
      | nil => exact ⟨c, cs, List.intercalate_singleton, hopens⟩
      | cons => exact ⟨c, _, by rw [List.intercalate_cons_cons]; rfl, hopens⟩
  simp only [List.length_append, List.length_cons, List.length_nil] at hfuel
  have hshort : ([] ++ (',' :: between).intercalate texts ++ closing).length + 1 < fuel := by
    simp only [List.nil_append, List.length_append]
    omega
  have hitems := itemsFrom_shows hbetween hclosing h hne isGap_none hshort rest
  rw [List.nil_append, htexts, List.append_assoc, List.cons_append] at hitems
  simp only [List.cons_append, List.append_assoc, List.nil_append, valueFrom,
    skipGap_cons (show isGap '[' = false from rfl), skipGap_append hopening, htexts,
    skipGap_cons hgap]
  split
  · rename_i he
    exact absurd (List.cons.inj he).1 hclose
  · rw [hitems]
    rfl

def ShowsMember (char : Char → List Char) (cs : List Char) (m : String × Json) : Prop :=
  Restored char m.1 ∧ ∃ ds, cs = textOf char m.1 ++ ':' :: ' ' :: ds ∧ Shows ds m.2

variable {char : Char → List Char}

def membersAfter (m : String × Json) (fuel : Nat) (cs : List Char) :
    Option (List (String × Json) × List Char) :=
  match skipGap cs with
  | ',' :: rest => do
    let (members, rest) ← membersFrom fuel rest
    pure (m :: members, rest)
  | '\x7d' :: rest => pure ([m], rest)
  | _ => none

/-- A member is read up to its end, and then the others if there are any. -/
theorem membersFrom_member {cs : List Char} {m : String × Json} (h : ShowsMember char cs m)
    (hopening : ∀ c ∈ opening, isGap c = true) {fuel : Nat} (hfuel : cs.length < fuel)
    {rest : List Char} (hrest : EndsNumber rest) :
    (∀ more, skipGap rest = ',' :: more → membersFrom (fuel + 1) (opening ++ (cs ++ rest)) =
      (membersFrom fuel more).map fun (members, rest) => (m :: members, rest)) ∧
    (∀ more, skipGap rest = '\x7d' :: more →
      membersFrom (fuel + 1) (opening ++ (cs ++ rest)) = some ([m], more)) := by
  obtain ⟨name, value⟩ := m
  obtain ⟨hname, ds, rfl, hvalue⟩ := h
  simp only [textOf, List.length_append, List.length_cons] at hfuel
  have hblank : ∀ more, valueFrom fuel (' ' :: more) = valueFrom fuel more := fun more =>
    valueFrom_append isGap_blank fuel more
  have hread : membersFrom (fuel + 1) (opening ++ (textOf char name ++ ':' :: ' ' :: ds ++ rest)) =
      membersAfter (name, value) fuel rest := by
    simp only [membersFrom, skipGap_append hopening, textOf, List.cons_append, List.append_assoc,
      List.nil_append, skipGap_cons (show isGap '"' = false from rfl)]
    rw [stringFrom_textOf (s := name) hname (by omega)]
    simp only [Option.bind_eq_bind, Option.bind_some,
      skipGap_cons (show isGap ':' = false from rfl), hblank,
      hvalue.reads fuel rest (by omega) hrest]
    rfl
  refine ⟨fun more he => ?_, fun more he => ?_⟩
  · simp only [hread, membersAfter, he, Option.bind_eq_bind]
    cases membersFrom fuel more <;> rfl
  · simp only [hread, membersAfter, he]
    rfl

theorem membersFrom_shows (hbetween : ∀ c ∈ between, isGap c = true)
    (hclosing : ∀ c ∈ closing, isGap c = true) {texts : List (List Char)}
    {members : List (String × Json)} (h : List.Forall₂ (ShowsMember char) texts members)
    (hne : members ≠ []) (hopening : ∀ c ∈ opening, isGap c = true) {fuel : Nat}
    (hfuel : (opening ++ (',' :: between).intercalate texts ++ closing).length + 1 < fuel)
    (rest : List Char) :
    membersFrom fuel (opening ++ (',' :: between).intercalate texts ++ closing ++ '\x7d' :: rest) =
      some (members, rest) := by
  induction h generalizing opening fuel with
  | nil => exact absurd rfl hne
  | cons htext hmore ih =>
    obtain ⟨fuel, rfl⟩ : ∃ more, fuel = more + 1 := ⟨fuel - 1, by omega⟩
    cases hmore with
    | nil =>
      simp only [List.intercalate_singleton, List.length_append] at hfuel
      have hread := (membersFrom_member htext hopening (by omega : _ < fuel)
        (endsNumber_closing hclosing (.inr rfl) rest)).2 rest
      rw [List.intercalate_singleton, List.append_assoc, List.append_assoc]
      exact hread (skipGap_append hclosing _)
    | cons hnext hothers =>
      rw [List.intercalate_cons_cons] at hfuel ⊢
      simp only [List.length_append, List.length_cons] at hfuel
      have hrest := ih (by simp) hbetween
        (by simp only [List.length_append]; omega : _ + 1 < fuel)
      simp only [List.append_assoc] at hrest
      simp only [List.append_assoc, List.cons_append]
      rw [(membersFrom_member htext hopening (by omega) (endsNumber_cons (.inr (.inl rfl)) _)).1 _
        (skipGap_cons rfl _), hrest]
      rfl

theorem shows_object (hopening : ∀ c ∈ opening, isGap c = true)
    (hbetween : ∀ c ∈ between, isGap c = true) (hclosing : ∀ c ∈ closing, isGap c = true)
    {texts : List (List Char)} {members : List (String × Json)}
    (h : List.Forall₂ (ShowsMember char) texts members) (hne : members ≠ [])
    (hdistinct : (Keyed.keys members).Nodup) :
    Shows ('\x7b' :: (opening ++ (',' :: between).intercalate texts ++ closing ++ ['\x7d']))
      (object members) := by
  refine ⟨⟨'\x7b', _, rfl, rfl, by decide⟩, fun fuel rest hfuel _ => ?_⟩
  obtain ⟨fuel, rfl⟩ : ∃ more, fuel = more + 1 := ⟨fuel - 1, by omega⟩
  obtain ⟨cs, htexts⟩ : ∃ cs, (',' :: between).intercalate texts = '"' :: cs := by
    cases h with
    | nil => exact absurd rfl hne
    | cons htext hmore =>
      obtain ⟨_, ds, rfl, _⟩ := htext
      cases hmore with
      | nil => exact ⟨_, List.intercalate_singleton⟩
      | cons => exact ⟨_, by rw [List.intercalate_cons_cons]; rfl⟩
  simp only [List.length_append, List.length_cons, List.length_nil] at hfuel
  have hshort : ([] ++ (',' :: between).intercalate texts ++ closing).length + 1 < fuel := by
    simp only [List.nil_append, List.length_append]
    omega
  have hmembers := membersFrom_shows hbetween hclosing h hne isGap_none hshort rest
  rw [List.nil_append, htexts, List.append_assoc, List.cons_append] at hmembers
  simp only [List.cons_append, List.append_assoc, List.nil_append, valueFrom,
    skipGap_cons (show isGap '\x7b' = false from rfl), skipGap_append hopening, htexts,
    skipGap_cons (show isGap '"' = false from rfl)]
  show (membersFrom fuel _).map _ = _
  rw [hmembers, Option.map_some, Keyed.update_nil_of_nodup hdistinct]

end Composite

/-! Written values -/

/-- Values that are read back as they were written: no number is broken, no object names a member
twice, and all texts are restored. -/
inductive Legible (char : Char → List Char) : Json → Prop where
  | null : Legible char null
  | bool (b : Bool) : Legible char (bool b)
  | integer (n : Int) : Legible char (integer n)
  | string {s : String} (restored : Restored char s) : Legible char (string s)
  | array {items : List Json} (each : ∀ v ∈ items, Legible char v) : Legible char (array items)
  | object {members : List (String × Json)} (distinct : (Keyed.keys members).Nodup)
      (names : ∀ m ∈ members, Restored char m.1) (values : ∀ m ∈ members, Legible char m.2) :
      Legible char (object members)

section Written

variable {char : Char → List Char}

theorem Legible.ofOption {s : Option String} (h : ∀ t, s = some t → Restored char t) :
    Legible char (ofOption s) := by
  cases s with
  | none => exact .null
  | some t => exact .string (h t rfl)

/-- Parts that are written one after the other, with a comma between them. -/
theorem eq_intercalate {α : Type} (written : List α → List Char) (part : α → List Char)
    (front comma : List Char) (hone : ∀ a, written [a] = front ++ part a)
    (hmore : ∀ a b rest,
      written (a :: b :: rest) = front ++ part a ++ comma ++ written (b :: rest))
    {parts : List α} (hne : parts ≠ []) :
    written parts = front ++ (comma ++ front).intercalate (parts.map part) := by
  induction parts with
  | nil => exact absurd rfl hne
  | cons a rest ih =>
    cases rest with
    | nil => rw [hone, List.map_singleton, List.intercalate_singleton]
    | cons b others =>
      have hrest := ih (by simp)
      rw [List.map_cons] at hrest
      rw [hmore, hrest, List.map_cons, List.map_cons, List.intercalate_cons_cons]
      simp only [List.append_assoc]

def isScalar : Json → Bool
  | array _ | object _ => false
  | _ => true

def memberForm (char : Char → List Char) (text : Json → List Char) (m : String × Json) :
    List Char :=
  textOf char m.1 ++ ':' :: ' ' :: text m.2

/-- At each depth scalars are written as they are, and parts in brackets, with something before,
between and behind them. -/
structure Writes (char : Char → List Char) (opening between closing : Nat → List Char)
    (text : Nat → Json → List Char) : Prop where
  plain : ∀ depth v, v.isScalar = true → text depth v = scalar char v
  emptyArray : ∀ depth, text depth (.array []) = ['[', ']']
  items : ∀ depth items, items ≠ [] → text depth (.array items) =
    '[' :: (opening depth ++ (',' :: between depth).intercalate (items.map (text (depth + 1))) ++
      closing depth ++ [']'])
  emptyObject : ∀ depth, text depth (.object []) = ['\x7b', '\x7d']
  members : ∀ depth members, members ≠ [] → text depth (.object members) =
    '\x7b' :: (opening depth ++
      (',' :: between depth).intercalate (members.map (memberForm char (text (depth + 1)))) ++
      closing depth ++ ['\x7d'])

theorem writes_line (char : Char → List Char) :
    Writes char (fun _ => []) (fun _ => [' ']) (fun _ => []) (fun _ => line char) where
  plain _ v hv := by
    cases v with
    | array | object => cases hv
    | _ => rfl
  emptyArray _ := rfl
  items _ items hne := by
    have hitems := eq_intercalate (lineItems char) (line char) [] [',', ' '] (fun _ => rfl)
      (fun _ _ _ => by simp [lineItems]) hne
    rw [line, hitems]
    simp
  emptyObject _ := rfl
  members _ members hne := by
    have hmembers := eq_intercalate (lineMembers char) (memberForm char (line char)) []
      [',', ' '] (fun _ => rfl) (fun _ _ _ => by simp [lineMembers, memberForm]) hne
    rw [line, hmembers]
    simp

theorem writes_indented :
    Writes asciiChar (fun depth => newline (depth + 1)) (fun depth => newline (depth + 1)) newline
      indented where
  plain _ v hv := by
    cases v with
    | array | object => cases hv
    | _ => rfl
  emptyArray _ := rfl
  items depth items hne := by
    have hitems := eq_intercalate (indentedItems (depth + 1)) (indented (depth + 1))
      (newline (depth + 1)) [','] (fun _ => rfl) (fun _ _ _ => by simp [indentedItems]) hne
    rw [indented, hitems]
    · simp
    · exact hne
  emptyObject _ := rfl
  members depth members hne := by
    have hmembers := eq_intercalate (indentedMembers (depth + 1))
      (memberForm asciiChar (indented (depth + 1))) (newline (depth + 1)) [',']
      (fun _ => by simp [indentedMembers, memberForm])
      (fun _ _ _ => by simp [indentedMembers, memberForm]) hne
    rw [indented, hmembers]
    · simp
    · exact hne

theorem isGap_newline (depth : Nat) : ∀ c ∈ newline depth, isGap c = true := by
  intro c hc
  rcases List.mem_cons.1 hc with rfl | hc
  · rfl
  · obtain ⟨_, rfl⟩ := List.mem_replicate.1 hc
    rfl

theorem shows_emptyArray : Shows ['[', ']'] (array []) := by
  refine ⟨⟨'[', _, rfl, rfl, by decide⟩, fun fuel rest hfuel _ => ?_⟩
  obtain ⟨fuel, rfl⟩ := Nat.exists_eq_add_of_lt hfuel
  rfl

theorem shows_emptyObject : Shows ['\x7b', '\x7d'] (object []) := by
  refine ⟨⟨'\x7b', _, rfl, rfl, by decide⟩, fun fuel rest hfuel _ => ?_⟩
  obtain ⟨fuel, rfl⟩ := Nat.exists_eq_add_of_lt hfuel
  rfl

/-- A written value is shown, whatever gaps the writing leaves. -/
theorem Writes.shows {opening between closing : Nat → List Char} {text : Nat → Json → List Char}
    (h : Writes char opening between closing text)
    (hopening : ∀ depth, ∀ c ∈ opening depth, isGap c = true)
    (hbetween : ∀ depth, ∀ c ∈ between depth, isGap c = true)
    (hclosing : ∀ depth, ∀ c ∈ closing depth, isGap c = true) {v : Json} (hv : Legible char v)
    (depth : Nat) : Shows (text depth v) v := by
  induction hv generalizing depth with
  | null =>
    rw [h.plain depth .null rfl]
    exact shows_null
  | bool b =>
    rw [h.plain depth (.bool b) rfl]
    cases b with
    | false => exact shows_false
    | true => exact shows_true
  | integer n =>
    rw [h.plain depth (.integer n) rfl]
    exact shows_integer n
  | @string s restored =>
    rw [h.plain depth (.string s) rfl]
    exact restored.shows
  | @array items each ih =>
    by_cases hne : items = []
    · rw [hne, h.emptyArray depth]
      exact shows_emptyArray
    · have htexts : List.Forall₂ Shows (items.map (text (depth + 1))) items :=
        List.forall₂_map_left_iff.2 (List.forall₂_same.2 fun v hv => ih v hv (depth + 1))
      rw [h.items depth items hne]
      exact shows_array (hopening depth) (hbetween depth) (hclosing depth) htexts hne
  | @object members distinct names values ih =>
    by_cases hne : members = []
    · rw [hne, h.emptyObject depth]
      exact shows_emptyObject
    · have htexts : List.Forall₂ (ShowsMember char)
          (members.map (memberForm char (text (depth + 1)))) members :=
        List.forall₂_map_left_iff.2 (List.forall₂_same.2 fun m hm =>
          ⟨names m hm, _, rfl, ih m hm (depth + 1)⟩)
      rw [h.members depth members hne]
      exact shows_object (hopening depth) (hbetween depth) (hclosing depth) htexts hne distinct

theorem Legible.shows_line {v : Json} (h : Legible char v) : Shows (v.line char) v :=
  (writes_line char).shows (fun _ => isGap_none) (fun _ => isGap_blank) (fun _ => isGap_none) h 0

theorem Legible.shows_indented {v : Json} (h : Legible asciiChar v) (depth : Nat) :
    Shows (v.indented depth) v :=
  writes_indented.shows (fun depth => isGap_newline (depth + 1))
    (fun depth => isGap_newline (depth + 1)) isGap_newline h depth

/-- A text that shows a value and ends in a gap holds that value alone. -/
theorem Shows.read {cs gap : List Char} {v : Json} (h : Shows cs v)
    (hgap : ∀ c ∈ gap, isGap c = true) : read? (String.ofList (cs ++ gap)) = some v := by
  have hend : skipGap gap = [] := by
    rw [← List.append_nil gap, skipGap_append hgap]
    rfl
  have hread := h.reads ((cs ++ gap).length + 1) gap (by rw [List.length_append]; omega) (endsNumber_gap hgap)
  simp only [read?, String.toList_ofList, hread, hend]
  rfl

theorem Legible.read_compact {v : Json} (h : Legible plainChar v) : read? v.compact = some v := by
  simpa [compact] using h.shows_line.read isGap_none

theorem Legible.read_pretty {v : Json} (h : Legible asciiChar v) {gap : String}
    (hgap : ∀ c ∈ gap.toList, isGap c = true) : read? (v.pretty ++ gap) = some v := by
  have hread := (h.shows_indented 0).read hgap
  rwa [String.ofList_append, String.ofList_toList] at hread

end Written

/-! Characters of written values -/

def Printable (cs : List Char) : Prop :=
  ∀ c ∈ cs, 32 ≤ c.toNat ∧ c.toNat < 127

instance (cs : List Char) : Decidable (Printable cs) :=
  List.decidableBAll _ cs

section Drawn

variable {p : Char → Prop}

theorem Printable.forall_mem {cs : List Char} (h : Printable cs)
    (hprintable : ∀ c : Char, 32 ≤ c.toNat → c.toNat < 127 → p c) : ∀ c ∈ cs, p c :=
  fun c hc => hprintable c (h c hc).1 (h c hc).2

theorem forall_mem_intercalate {separator : List Char} {texts : List (List Char)}
    (hseparator : ∀ c ∈ separator, p c) (h : ∀ text ∈ texts, ∀ c ∈ text, p c) :
    ∀ c ∈ separator.intercalate texts, p c := by
  induction texts with
  | nil => simp
  | cons text rest ih =>
    have hrest := ih fun other ho => h other (List.mem_cons_of_mem _ ho)
    cases rest with
    | nil => simpa using h text List.mem_cons_self
    | cons next more =>
      rw [List.intercalate_cons_cons]
      simp only [List.mem_append]
      rintro c ((hc | hc) | hc)
      · exact h text List.mem_cons_self c hc
      · exact hseparator c hc
      · exact hrest c hc

theorem forall_mem_textOf {char : Char → List Char} (hquote : p '"')
    (hchar : ∀ c, ∀ d ∈ char c, p d) (s : String) : ∀ c ∈ textOf char s, p c := by
  intro c hc
  simp only [textOf, List.mem_append, List.mem_cons, List.mem_flatMap, List.not_mem_nil,
    or_false] at hc
  rcases hc with (rfl | ⟨d, _, hd⟩) | rfl
  · exact hquote
  · exact hchar d c hd
  · exact hquote

theorem forall_mem_intDigits (hprintable : ∀ c : Char, 32 ≤ c.toNat → c.toNat < 127 → p c)
    (n : Int) : ∀ c ∈ intDigits n, p c := by
  have hdigits : ∀ n, ∀ c ∈ natDigits n, p c := by
    intro n c hc
    have hdigit : c.isDigit = true := Nat.isDigit_of_mem_toDigits (by decide) (by decide) hc
    have hrange : 48 ≤ c.toNat ∧ c.toNat ≤ 57 := by
      simpa [Char.isDigit, UInt32.le_iff_toNat_le] using hdigit
    exact hprintable c (by omega) (by omega)
  cases n with
  | ofNat n => exact hdigits n
  | negSucc n => exact List.forall_mem_cons.2 ⟨hprintable '-' (by decide) (by decide), hdigits _⟩

/-- What stands between brackets, in a line or in several. -/
theorem forall_mem_bracketed (hprintable : ∀ c : Char, 32 ≤ c.toNat → c.toNat < 127 → p c)
    {first last : Char} (hfirst : first = '[' ∨ first = '\x7b') (hlast : last = ']' ∨ last = '\x7d')
    {opening between closing : List Char} (hopening : ∀ c ∈ opening, p c)
    (hbetween : ∀ c ∈ between, p c) (hclosing : ∀ c ∈ closing, p c) {texts : List (List Char)}
    (h : ∀ text ∈ texts, ∀ c ∈ text, p c) :
    ∀ c ∈ first :: (opening ++ (',' :: between).intercalate texts ++ closing ++ [last]), p c := by
  have hcomma : p ',' := hprintable _ (by decide) (by decide)
  have hinner := forall_mem_intercalate (List.forall_mem_cons.2 ⟨hcomma, hbetween⟩) h
  simp only [List.mem_cons, List.mem_append, List.not_mem_nil, or_false]
  rintro c (rfl | ((hc | hc) | hc) | rfl)
  · rcases hfirst with rfl | rfl <;> exact hprintable _ (by decide) (by decide)
  · exact hopening c hc
  · exact hinner c hc
  · exact hclosing c hc
  · rcases hlast with rfl | rfl <;> exact hprintable _ (by decide) (by decide)

variable {char : Char → List Char} {v : Json}

theorem forall_mem_scalar (hprintable : ∀ c : Char, 32 ≤ c.toNat → c.toNat < 127 → p c)
    (hchar : ∀ c, ∀ d ∈ char c, p d) (h : Legible char v) : ∀ c ∈ scalar char v, p c := by
  cases h with
  | null => exact (show Printable "null".toList by decide).forall_mem hprintable
  | bool b => cases b with
    | false => exact (show Printable "false".toList by decide).forall_mem hprintable
    | true => exact (show Printable "true".toList by decide).forall_mem hprintable
  | integer n => exact forall_mem_intDigits hprintable n
  | string => exact forall_mem_textOf (hprintable _ (by decide) (by decide)) hchar _
  | array | object => exact List.forall_mem_nil p

theorem forall_mem_member (hprintable : ∀ c : Char, 32 ≤ c.toNat → c.toNat < 127 → p c)
    (hchar : ∀ c, ∀ d ∈ char c, p d) (name : String) {cs : List Char} (h : ∀ c ∈ cs, p c) :
    ∀ c ∈ textOf char name ++ ':' :: ' ' :: cs, p c := by
  simp only [List.mem_append, List.mem_cons]
  rintro c (hc | rfl | rfl | hc)
  · exact forall_mem_textOf (hprintable _ (by decide) (by decide)) hchar name c hc
  · exact hprintable _ (by decide) (by decide)
  · exact hprintable _ (by decide) (by decide)
  · exact h c hc

/-- A written value is made of printable characters, of what the writing puts around its parts, and
of what its texts are written with. -/
theorem Writes.forall_mem {opening between closing : Nat → List Char}
    {text : Nat → Json → List Char} (h : Writes char opening between closing text)
    (hprintable : ∀ c : Char, 32 ≤ c.toNat → c.toNat < 127 → p c)
    (hopening : ∀ depth, ∀ c ∈ opening depth, p c) (hbetween : ∀ depth, ∀ c ∈ between depth, p c)
    (hclosing : ∀ depth, ∀ c ∈ closing depth, p c) (hchar : ∀ c, ∀ d ∈ char c, p d)
    (hv : Legible char v) (depth : Nat) : ∀ c ∈ text depth v, p c := by
  have hplain : ∀ {v : Json}, Legible char v → v.isScalar = true → ∀ depth, ∀ c ∈ text depth v,
      p c := by
    intro v hv hscalar depth
    rw [h.plain depth v hscalar]
    exact forall_mem_scalar hprintable hchar hv
  induction hv generalizing depth with
  | null => exact hplain .null rfl depth
  | bool b => exact hplain (.bool b) rfl depth
  | integer n => exact hplain (.integer n) rfl depth
  | string restored => exact hplain (.string restored) rfl depth
  | @array items _ ih =>
    by_cases hne : items = []
    · rw [hne, h.emptyArray depth]
      exact (show Printable ['[', ']'] by decide).forall_mem hprintable
    · rw [h.items depth items hne]
      exact forall_mem_bracketed hprintable (.inl rfl) (.inl rfl) (hopening depth) (hbetween depth)
        (hclosing depth) (List.forall_mem_map.2 fun v hv => ih v hv (depth + 1))
  | @object members _ _ _ ih =>
    by_cases hne : members = []
    · rw [hne, h.emptyObject depth]
      exact (show Printable ['\x7b', '\x7d'] by decide).forall_mem hprintable
    · rw [h.members depth members hne]
      exact forall_mem_bracketed hprintable (.inr rfl) (.inr rfl) (hopening depth) (hbetween depth)
        (hclosing depth) (List.forall_mem_map.2 fun m hm =>
          forall_mem_member hprintable hchar m.1 (ih m hm (depth + 1)))

theorem Legible.forall_mem_line (hprintable : ∀ c : Char, 32 ≤ c.toNat → c.toNat < 127 → p c)
    (hchar : ∀ c, ∀ d ∈ char c, p d) (h : Legible char v) : ∀ c ∈ v.line char, p c := by
  have hnone : ∀ c ∈ ([] : List Char), p c := List.forall_mem_nil p
  have hblank : ∀ c ∈ [' '], p c :=
    List.forall_mem_singleton.2 (hprintable _ (by decide) (by decide))
  exact (writes_line char).forall_mem hprintable (fun _ => hnone) (fun _ => hblank)
    (fun _ => hnone) hchar h 0

theorem forall_mem_newline (hprintable : ∀ c : Char, 32 ≤ c.toNat → c.toNat < 127 → p c)
    (hend : p '\n') (depth : Nat) : ∀ c ∈ newline depth, p c := by
  intro c hc
  rcases List.mem_cons.1 hc with rfl | hc
  · exact hend
  · obtain ⟨_, rfl⟩ := List.mem_replicate.1 hc
    exact hprintable _ (by decide) (by decide)

/-- An indented text holds line ends as well. -/
theorem Legible.forall_mem_indented (hprintable : ∀ c : Char, 32 ≤ c.toNat → c.toNat < 127 → p c)
    (hend : p '\n') (hchar : ∀ c, ∀ d ∈ asciiChar c, p d) (h : Legible asciiChar v)
    (depth : Nat) : ∀ c ∈ v.indented depth, p c := by
  have hnewline := forall_mem_newline hprintable hend
  exact writes_indented.forall_mem hprintable (fun depth => hnewline (depth + 1))
    (fun depth => hnewline (depth + 1)) hnewline hchar h depth

end Drawn

theorem printable_unitEscape (n : Nat) : Printable (unitEscape n) := by
  have hdigit : ∀ m, 32 ≤ (hexDigit (m % 16)).toNat ∧ (hexDigit (m % 16)).toNat < 127 := by
    intro m
    have hall : ∀ k < 16, 32 ≤ (hexDigit k).toNat ∧ (hexDigit k).toNat < 127 := by decide
    exact hall _ (Nat.mod_lt m (by decide))
  simp only [Printable, unitEscape, hexFixed, List.nil_append, List.cons_append, List.mem_cons,
    List.not_mem_nil, or_false]
  rintro c (rfl | rfl | rfl | rfl | rfl | rfl)
  · decide
  · decide
  all_goals exact hdigit _

theorem printable_shortEscape {c : Char} {escape : List Char} (h : shortEscape? c = some escape) :
    Printable escape := by
  unfold shortEscape? at h
  split_ifs at h <;> cases h <;> decide

/-- Escapes for control characters leave none of them. -/
theorem le_of_mem_plainChar (c : Char) : ∀ d ∈ plainChar c, 32 ≤ d.toNat := by
  cases hshort : shortEscape? c with
  | some escape =>
    rw [plainChar, hshort]
    exact fun d hd => (printable_shortEscape hshort d hd).1
  | none =>
    simp only [plainChar, hshort]
    split_ifs with hcontrol
    · exact fun d hd => (printable_unitEscape _ d hd).1
    · simpa using hcontrol

theorem printable_asciiChar (c : Char) : Printable (asciiChar c) := by
  cases hshort : shortEscape? c with
  | some escape =>
    rw [asciiChar, hshort]
    exact printable_shortEscape hshort
  | none =>
    simp only [asciiChar, hshort]
    split_ifs with hplain hsmall
    · simp only [Bool.and_eq_true, decide_eq_true_eq] at hplain
      rw [numberOf_eq_toNat (by omega)] at hplain
      simpa [Printable] using hplain
    · exact printable_unitEscape _
    · intro d hd
      rcases List.mem_append.1 hd with hd | hd <;> exact printable_unitEscape _ d hd

/-- A compact text stays on its line. -/
theorem Legible.le_of_mem_compact {v : Json} (h : Legible plainChar v) :
    ∀ c ∈ v.compact.toList, 32 ≤ c.toNat := by
  rw [compact, String.toList_ofList]
  exact h.forall_mem_line (fun _ hc _ => hc) le_of_mem_plainChar

/-- A pretty text is all ASCII. -/
theorem Legible.lt_of_mem_pretty {v : Json} (h : Legible asciiChar v) :
    ∀ c ∈ v.pretty.toList, c.toNat < 128 := by
  rw [pretty, String.toList_ofList]
  refine h.forall_mem_indented (fun c _ hc => by omega) (by decide) (fun c d hd => ?_) 0
  have hd := (printable_asciiChar c d hd).2
  omega

end BeanForge.Json

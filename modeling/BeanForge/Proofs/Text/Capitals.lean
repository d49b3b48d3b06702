import BeanForge.Proofs.Text.SmallLetters

/-!
# Capitals of small letters

The capital form of most small letters has the letter as its small form, so that the letter comes
back. The others take several capitals, or share their capital with another letter. They are listed
with the texts in small letters that come to the same capitals, and no other texts do.
-/

namespace BeanForge.Text

/-! Letters that do not come back -/

/-- Small letters with one capital that belongs to another small letter. -/
def astrayCapitals : List (Nat × List Nat) := [
  (0xB5, [0x39C]), (0x131, [0x49]), (0x17F, [0x53]), (0x345, [0x399]), (0x3C2, [0x3A3]),
  (0x3D0, [0x392]), (0x3D1, [0x398]), (0x3D5, [0x3A6]), (0x3D6, [0x3A0]), (0x3F0, [0x39A]),
  (0x3F1, [0x3A1]), (0x3F5, [0x395]), (0x1C80, [0x412]), (0x1C81, [0x414]), (0x1C82, [0x41E]),
  (0x1C83, [0x421]), (0x1C84, [0x422]), (0x1C85, [0x422]), (0x1C86, [0x42A]), (0x1C87, [0x462]),
  (0x1C88, [0xA64A]), (0x1E9B, [0x1E60]), (0x1FBE, [0x399])]

def oddCapitals : List (Nat × List Nat) :=
  upperExpansions ++ astrayCapitals

/-- Letters with the fronts of texts, all of small letters, that have the capitals of the letter
when the first of them is in its capital form. Each pair is told once. -/
def twinFronts : List (Nat × List Nat) := [
  (0x131, [0x69]), (0x17F, [0x73]), (0x1F0, [0x6A, 0x30C]), (0x390, [0x345, 0x308, 0x301]),
  (0x390, [0x3B9, 0x308, 0x301]), (0x390, [0x1FBE, 0x308, 0x301]),
  (0x3B0, [0x3C5, 0x308, 0x301]), (0x3B9, [0x345]), (0x3BC, [0xB5]), (0x3C3, [0x3C2]),
  (0x3D0, [0x3B2]), (0x3D1, [0x3B8]), (0x3D5, [0x3C6]), (0x3D6, [0x3C0]), (0x3F0, [0x3BA]),
  (0x3F1, [0x3C1]), (0x3F5, [0x3B5]), (0x1C80, [0x432]), (0x1C81, [0x434]), (0x1C82, [0x43E]),
  (0x1C83, [0x441]), (0x1C84, [0x442]), (0x1C85, [0x442]), (0x1C85, [0x1C84]), (0x1C86, [0x44A]),
  (0x1C87, [0x463]), (0x1E96, [0x68, 0x331]), (0x1E97, [0x74, 0x308]), (0x1E98, [0x77, 0x30A]),
  (0x1E99, [0x79, 0x30A]), (0x1E9A, [0x61, 0x2BE]), (0x1E9B, [0x1E61]), (0x1F50, [0x3C5, 0x313]),
  (0x1F52, [0x3C5, 0x313, 0x300]), (0x1F52, [0x1F50, 0x300]), (0x1F54, [0x3C5, 0x313, 0x301]),
  (0x1F54, [0x1F50, 0x301]), (0x1F56, [0x3C5, 0x313, 0x342]), (0x1F56, [0x1F50, 0x342]),
  (0x1FB6, [0x3B1, 0x342]), (0x1FBE, [0x345]), (0x1FBE, [0x3B9]), (0x1FC6, [0x3B7, 0x342]),
  (0x1FD2, [0x345, 0x308, 0x300]), (0x1FD2, [0x3B9, 0x308, 0x300]),
  (0x1FD2, [0x1FBE, 0x308, 0x300]), (0x1FD3, [0x345, 0x308, 0x301]),
  (0x1FD3, [0x3B9, 0x308, 0x301]), (0x1FD3, [0x1FBE, 0x308, 0x301]), (0x1FD3, [0x390]),
  (0x1FD6, [0x345, 0x342]), (0x1FD6, [0x3B9, 0x342]), (0x1FD6, [0x1FBE, 0x342]),
  (0x1FD7, [0x345, 0x308, 0x342]), (0x1FD7, [0x3B9, 0x308, 0x342]),
  (0x1FD7, [0x1FBE, 0x308, 0x342]), (0x1FE2, [0x3C5, 0x308, 0x300]),
  (0x1FE3, [0x3C5, 0x308, 0x301]), (0x1FE3, [0x3B0]), (0x1FE4, [0x3C1, 0x313]),
  (0x1FE4, [0x3F1, 0x313]), (0x1FE6, [0x3C5, 0x342]), (0x1FE7, [0x3C5, 0x308, 0x342]),
  (0x1FF6, [0x3C9, 0x342]), (0xA64B, [0x1C88]), (0xFB06, [0xFB05])]

/-- Texts that differ in a front with the same capitals. -/
inductive Twins : List Char → List Char → Prop where
  | letter {d : Nat} {front : List Nat} (h : (d, front) ∈ twinFronts) (rest : List Char) :
      Twins (Char.ofNat d :: rest) (front.map Char.ofNat ++ rest)
  | front {d : Nat} {front : List Nat} (h : (d, front) ∈ twinFronts) (rest : List Char) :
      Twins (front.map Char.ofNat ++ rest) (Char.ofNat d :: rest)

def capitalFront : List Char → List Char
  | [] => []
  | c :: rest => upperChar c ++ rest

theorem capitalized_eq (s : String) : capitalized s = String.ofList (capitalFront s.toList) := by
  rw [capitalized]
  cases s.toList <;> rfl

theorem mem_of_lookup {n : Nat} {expansion : List Nat} {expansions : List (Nat × List Nat)}
    (h : expansions.lookup n = some expansion) : (n, expansion) ∈ expansions := by
  obtain ⟨before, behind, hexpansions, _⟩ := List.lookup_eq_some_iff.1 h
  rw [hexpansions]
  exact List.mem_append_right before List.mem_cons_self

theorem ne_nil_of_mem_oddCapitals : ∀ e ∈ oddCapitals, e.2 ≠ [] := by
  decide +kernel

theorem upperChar_ne_nil (c : Char) : upperChar c ≠ [] := by
  rw [upperChar]
  split
  · exact List.cons_ne_nil _ _
  · split
    · rename_i expansion hlookup
      have hmem := List.mem_append_left astrayCapitals (mem_of_lookup hlookup)
      exact fun h => ne_nil_of_mem_oddCapitals _ hmem (List.map_eq_nil_iff.1 h)
    · exact List.cons_ne_nil _ _

/-! Letters that come back -/

namespace Shift

def returns (s : Shift) : Bool :=
  Nat.ble 128 (s.target s.first) && s.isApart dottedRun &&
    lowerShifts.all (fun t => s.isApart t || t.distance == -s.distance) &&
    lowerShifts.any fun t =>
      Nat.ble (s.target s.last) t.last && Nat.ble t.first (s.target s.first) &&
      (s.target s.first - t.first) % t.step == 0 && (s.first == s.last || s.step % t.step == 0)

/-- A run of capitals covers the image of a member. -/
theorem exists_covers_of_returns {s : Shift} (hs : s.Sound) (h : s.returns = true) {n : Nat}
    (hn : s.covers n = true) : ∃ t ∈ lowerShifts, t.covers (s.target n) = true := by
  obtain ⟨_, hany⟩ := (Bool.and_eq_true _ _).mp h
  obtain ⟨t, ht, hcontains⟩ := List.any_eq_true.1 hany
  simp only [Bool.and_eq_true, Nat.ble_eq, Bool.or_eq_true, beq_iff_eq] at hcontains
  obtain ⟨⟨⟨hend, hbegin⟩, hmod'⟩, hstep⟩ := hcontains
  obtain ⟨hfirst, hlast, hmod⟩ := covers_iff.1 hn
  obtain ⟨hbound, hbound'⟩ := target_bounds hs hn
  refine ⟨t, ht, covers_iff.2 ⟨by omega, by omega, Nat.mod_eq_zero_of_dvd ?_⟩⟩
  have hback : s.target n - t.first = s.target s.first - t.first + (n - s.first) := by omega
  rw [hback]
  refine Nat.dvd_add (Nat.dvd_of_mod_eq_zero hmod') ?_
  rcases hstep with hsingle | hstep
  · have hzero : n - s.first = 0 := by omega
    rw [hzero]
    exact Nat.dvd_zero _
  · exact Nat.dvd_trans (Nat.dvd_of_mod_eq_zero hstep) (Nat.dvd_of_mod_eq_zero hmod)

/-- Whatever covers the image of a member goes the same way back. -/
theorem target_of_returns {s : Shift} (hs : s.Sound) (h : s.returns = true) {n : Nat}
    (hn : s.covers n = true) {t : Shift} (ht : t ∈ lowerShifts)
    (hcovers : t.covers (s.target n) = true) : t.target (s.target n) = n := by
  obtain ⟨hfront, _⟩ := (Bool.and_eq_true _ _).mp h
  obtain ⟨_, hall⟩ := (Bool.and_eq_true _ _).mp hfront
  have hdistance : t.distance = -s.distance := by
    have hcase := List.all_eq_true.1 hall t ht
    rw [Bool.or_eq_true, beq_iff_eq] at hcase
    refine hcase.resolve_left fun hapart => ?_
    cases hcovers.symm.trans (not_covers_of_isApart hs hapart hn)
  have heq := target_eq hs hn
  rw [target, hdistance]
  omega

theorem lowerChar_of_returns {s : Shift} (hs : s.Sound) (h : s.returns = true) {n : Nat}
    (hn : s.covers n = true) : lowerChar (Char.ofNat (s.target n)) = [Char.ofNat n] := by
  have hnat := toNat_ofNat (isValidChar_target hs hn)
  have hparts := h
  simp only [returns, Bool.and_eq_true, Nat.ble_eq] at hparts
  obtain ⟨⟨⟨hlow, hdotted⟩, _⟩, _⟩ := hparts
  have hascii : ¬s.target n < 128 := by
    have hfirst := (covers_iff.1 hn).1
    have hbound := (target_bounds hs hn).1
    omega
  have hne : s.target n ≠ 0x130 := fun e => by
    have hnot := not_covers_of_isApart hs hdotted hn
    rw [e] at hnot
    cases hnot
  obtain ⟨t, hfound⟩ : ∃ t, lowerShifts.find? (·.covers (s.target n)) = some t :=
    Option.isSome_iff_exists.1 (List.find?_isSome.2 (exists_covers_of_returns hs h hn))
  have hcovers := List.find?_some hfound
  have htarget := target_of_returns hs h hn (List.mem_of_find?_eq_some hfound) hcovers
  have hfind : lowerShifts.find? (·.covers (Char.ofNat (s.target n)).toNat) = some t := by
    rw [hnat]
    exact hfound
  rw [lowerChar, hnat, if_neg hascii, if_neg hne, shifted_of_find? hfind, hnat, htarget]

end Shift

theorem returns_upperShifts : ∀ s ∈ upperShifts, s.Sound ∧
    (s.returns = true ∨ (s.last ≤ s.first + 1 ∧ ∀ n ∈ [s.first, s.last],
      n ∈ astrayCapitals.map (·.1) ∨ ¬IsOwnSmall (Char.ofNat n))) := by
  decide +kernel

theorem upperChar_of_mem_astrayCapitals :
    ∀ e ∈ astrayCapitals, upperChar (Char.ofNat e.1) = e.2.map Char.ofNat := by
  decide +kernel

/-- A small letter comes back from its capital, or its capital form is listed. -/
theorem upperChar_cases {c : Char} (hc : IsOwnSmall c) :
    (∃ u, upperChar c = [u] ∧ lowerChar u = [c]) ∨
      ∃ e ∈ oddCapitals, c = Char.ofNat e.1 ∧ upperChar c = e.2.map Char.ofNat := by
  by_cases hascii : c.toNat < 128
  · have hupper := toLower_toUpper_of_ascii hascii
    refine .inl ⟨c.toUpper, by rw [upperChar, if_pos hascii], ?_⟩
    rw [IsOwnSmall, lowerChar, if_pos hascii] at hc
    rw [lowerChar, if_pos hupper.1, hupper.2, hc]
  cases hlookup : upperExpansions.lookup c.toNat with
  | some expansion =>
    refine .inr ⟨_, List.mem_append_left _ (mem_of_lookup hlookup), c.ofNat_toNat.symm, ?_⟩
    rw [upperChar, if_neg hascii, hlookup]
  | none =>
    have hupper : upperChar c = [shifted upperShifts c] := by
      rw [upperChar, if_neg hascii, hlookup]
    cases hfound : upperShifts.find? (·.covers c.toNat) with
    | none =>
      have hsame : shifted upperShifts c = c := by rw [shifted, hfound]
      exact .inl ⟨c, by rw [hupper, hsame], hc⟩
    | some s =>
      have hcovers := List.find?_some hfound
      obtain ⟨hsound, hcase⟩ := returns_upperShifts s (List.mem_of_find?_eq_some hfound)
      rcases hcase with hreturns | ⟨hshort, hastray⟩
      · refine .inl ⟨_, hupper, ?_⟩
        rw [shifted_of_find? hfound, Shift.lowerChar_of_returns hsound hreturns hcovers,
          c.ofNat_toNat]
      · obtain ⟨hfirst, hlast, _⟩ := Shift.covers_iff.1 hcovers
        have hend : c.toNat ∈ [s.first, s.last] := by
          simp only [List.mem_cons, List.not_mem_nil, or_false]
          omega
        have hmem := (hastray c.toNat hend).resolve_right fun hnot => hnot (by rwa [c.ofNat_toNat])
        obtain ⟨e, he, hn⟩ := List.mem_map.1 hmem
        have hchar : c = Char.ofNat e.1 := by rw [hn, c.ofNat_toNat]
        refine .inr ⟨e, List.mem_append_right _ he, hchar, ?_⟩
        rw [hchar]
        exact upperChar_of_mem_astrayCapitals e he

/-! Twins -/

/-- Whether a letter is listed with another one in front of a text, either way round. -/
def AreListed (d c : Nat) (rest : List Nat) : Prop :=
  (d, c :: rest) ∈ twinFronts ∨ (rest = [] ∧ (c, [d]) ∈ twinFronts)

instance (d c : Nat) (rest : List Nat) : Decidable (AreListed d c rest) :=
  inferInstanceAs (Decidable (_ ∨ _))

theorem isValidChar_of_mem_oddCapitals : ∀ e ∈ oddCapitals, ∀ n ∈ e.2, n.isValidChar := by
  decide +kernel

/-- A letter that does not come back is listed with the one that its first capital belongs to. -/
theorem areListed_of_head : ∀ e ∈ oddCapitals, ∀ u ∈ e.2.head?,
    ∀ c ∈ (lowerChar (Char.ofNat u)).map Char.toNat,
      AreListed e.1 c e.2.tail ∨ (∃ n ∈ e.2.tail, ¬IsOwnSmall (Char.ofNat n)) ∨
        ¬IsOwnSmall (Char.ofNat e.1) := by
  decide +kernel

/-- Two letters that do not come back are listed if one has the capitals of the other in front. -/
theorem areListed_of_prefix : ∀ e ∈ oddCapitals, ∀ f ∈ oddCapitals.filter (·.2.isPrefixOf e.2),
    (e.1 = f.1 ∨ AreListed e.1 f.1 (e.2.drop f.2.length)) ∨
      (∃ n ∈ e.2.drop f.2.length, ¬IsOwnSmall (Char.ofNat n)) ∨
      ¬IsOwnSmall (Char.ofNat e.1) ∨ ¬IsOwnSmall (Char.ofNat f.1) := by
  decide +kernel

theorem twins_of_areListed {d c : Nat} {more : List Nat} (h : AreListed d c more)
    (rest : List Char) :
    Twins (Char.ofNat d :: rest) (Char.ofNat c :: (more.map Char.ofNat ++ rest)) := by
  rcases h with h | ⟨rfl, h⟩
  · exact .letter h rest
  · exact .front h rest

theorem Twins.symm {cs ds : List Char} (h : Twins cs ds) : Twins ds cs := by
  cases h with
  | letter h rest => exact .front h rest
  | front h rest => exact .letter h rest

theorem Twins.ne {cs ds : List Char} (h : Twins cs ds) : cs ≠ ds := by
  have hall : ∀ e ∈ twinFronts, [Char.ofNat e.1] ≠ e.2.map Char.ofNat := by decide +kernel
  cases h with
  | letter h rest => exact fun e => hall _ h (List.append_cancel_right e)
  | front h rest => exact fun e => hall _ h (List.append_cancel_right e.symm)

theorem map_toNat_map_ofNat {ns : List Nat} (h : ∀ n ∈ ns, n.isValidChar) :
    (ns.map Char.ofNat).map Char.toNat = ns := by
  rw [List.map_map]
  exact (List.map_congr_left fun n hn => toNat_ofNat (h n hn)).trans (List.map_id' ns)

theorem map_ofNat_map_toNat (cs : List Char) : (cs.map Char.toNat).map Char.ofNat = cs := by
  rw [List.map_map]
  exact (List.map_congr_left fun c _ => c.ofNat_toNat).trans (List.map_id' cs)

/-- The letter of a listed capital form stands beside the one that its first capital belongs to. -/
theorem areListed_of_cons {e : Nat × List Nat} (he : e ∈ oddCapitals)
    (hsmall : IsOwnSmall (Char.ofNat e.1)) {c u : Char} (hu : lowerChar u = [c]) {more : List Char}
    (hmore : ∀ d ∈ more, IsOwnSmall d) (h : e.2.map Char.ofNat = u :: more) :
    AreListed e.1 c.toNat (more.map Char.toNat) := by
  have hcodes := map_toNat_map_ofNat (isValidChar_of_mem_oddCapitals e he)
  rw [h, List.map_cons] at hcodes
  have hlisted := areListed_of_head e he u.toNat (by rw [← hcodes]; rfl) c.toNat
    (by rw [u.ofNat_toNat, hu]; exact List.mem_cons_self)
  rw [← hcodes, List.tail_cons] at hlisted
  refine hlisted.resolve_right fun hnot => hnot.elim ?_ fun hnot => hnot hsmall
  rintro ⟨n, hn, hnot⟩
  obtain ⟨d, hd, rfl⟩ := List.mem_map.1 hn
  exact hnot (by rw [d.ofNat_toNat]; exact hmore d hd)

/-- Two letters of listed capital forms are one, or stand beside each other. -/
theorem areListed_of_append {e f : Nat × List Nat} (he : e ∈ oddCapitals) (hf : f ∈ oddCapitals)
    (hsmall : IsOwnSmall (Char.ofNat e.1)) (hsmall' : IsOwnSmall (Char.ofNat f.1))
    {more : List Char} (hmore : ∀ d ∈ more, IsOwnSmall d)
    (h : e.2.map Char.ofNat = f.2.map Char.ofNat ++ more) :
    e.1 = f.1 ∨ AreListed e.1 f.1 (more.map Char.toNat) := by
  have hcodes : e.2 = f.2 ++ more.map Char.toNat := by
    have hmap := congrArg (List.map Char.toNat) h
    rwa [List.map_append, map_toNat_map_ofNat (isValidChar_of_mem_oddCapitals e he),
      map_toNat_map_ofNat (isValidChar_of_mem_oddCapitals f hf)] at hmap
  have hprefix : f.2.isPrefixOf e.2 = true :=
    List.isPrefixOf_iff_prefix.2 (hcodes ▸ List.prefix_append _ _)
  have hdrop : e.2.drop f.2.length = more.map Char.toNat := by
    rw [hcodes, List.drop_left]
  have hcase := areListed_of_prefix e he f (List.mem_filter.2 ⟨hf, hprefix⟩)
  rw [hdrop] at hcase
  refine hcase.resolve_right fun hnot => ?_
  rcases hnot with ⟨n, hn, hnot⟩ | hnot | hnot
  · obtain ⟨d, hd, rfl⟩ := List.mem_map.1 hn
    exact hnot (by rw [d.ofNat_toNat]; exact hmore d hd)
  · exact hnot hsmall
  · exact hnot hsmall'

/-- Of two small letters, one has the capitals of the other in front of small letters only if they
are twins. -/
theorem twins_of_upperChar {c d : Char} (hc : IsOwnSmall c) (hd : IsOwnSmall d) {more : List Char}
    (hmore : ∀ b ∈ more, IsOwnSmall b) (h : upperChar d = upperChar c ++ more) (rest : List Char) :
    d :: rest = c :: (more ++ rest) ∨ Twins (d :: rest) (c :: (more ++ rest)) := by
  rcases upperChar_cases hc with ⟨u, hcapital, hu⟩ | ⟨f, hf, hcf, hcapital⟩
  · rcases upperChar_cases hd with ⟨v, hcapital', hv⟩ | ⟨e, he, rfl, hcapital'⟩
    · rw [hcapital, hcapital'] at h
      obtain ⟨rfl, rfl⟩ := List.cons.inj h
      cases hu.symm.trans hv
      exact .inl rfl
    · rw [hcapital, hcapital'] at h
      have hlisted := areListed_of_cons he hd hu hmore h
      have htwins := twins_of_areListed hlisted rest
      rw [c.ofNat_toNat, map_ofNat_map_toNat] at htwins
      exact .inr htwins
  · subst hcf
    rcases upperChar_cases hd with ⟨v, hcapital', hv⟩ | ⟨e, he, rfl, hcapital'⟩
    · rw [hcapital, hcapital'] at h
      -- One capital leaves nothing behind the capitals of the other letter.
      obtain ⟨hfront, rfl⟩ : f.2.map Char.ofNat = [v] ∧ more = [] := by
        cases hcodes : f.2 with
        | nil => exact absurd hcodes (ne_nil_of_mem_oddCapitals f hf)
        | cons n ns =>
          rw [hcodes, List.map_cons, List.cons_append] at h
          obtain ⟨rfl, hnil⟩ := List.cons.inj h
          obtain ⟨hns, rfl⟩ := List.append_eq_nil_iff.1 hnil.symm
          exact ⟨by rw [List.map_cons, hns], rfl⟩
      have hlisted := areListed_of_cons hf hc hv hmore hfront
      have htwins := (twins_of_areListed hlisted rest).symm
      rw [d.ofNat_toNat] at htwins
      exact .inr htwins
    · rw [hcapital, hcapital'] at h
      have hlisted := areListed_of_append he hf hd hc hmore h
      rcases hlisted with hsame | hlisted
      · rw [hsame, hcapital] at hcapital'
        rw [← hcapital'] at h
        rw [List.self_eq_append_right.1 h, hsame]
        exact .inl rfl
      · have htwins := twins_of_areListed hlisted rest
        rw [map_ofNat_map_toNat] at htwins
        exact .inr htwins

theorem capitalFront_twinFronts : ∀ e ∈ twinFronts, e.2 ≠ [] ∧
    upperChar (Char.ofNat e.1) = capitalFront (e.2.map Char.ofNat) := by
  decide +kernel

theorem capitalFront_eq_of_twins {cs ds : List Char} (h : Twins cs ds) :
    capitalFront cs = capitalFront ds := by
  have hfront {d : Nat} {front : List Nat} (hmem : (d, front) ∈ twinFronts) (rest : List Char) :
      capitalFront (Char.ofNat d :: rest) = capitalFront (front.map Char.ofNat ++ rest) := by
    obtain ⟨hne, heq⟩ := capitalFront_twinFronts _ hmem
    obtain ⟨n, ns, rfl⟩ := List.exists_cons_of_ne_nil hne
    simp only [capitalFront, List.map_cons, List.cons_append] at heq ⊢
    rw [heq, List.append_assoc]
  cases h with
  | letter h rest => exact hfront h rest
  | front h rest => exact (hfront h rest).symm

/-- Texts in small letters come to the same capitals in front only if they are the same, or
twins. -/
theorem capitalFront_eq_iff {cs ds : List Char} (hcs : ∀ c ∈ cs, IsOwnSmall c)
    (hds : ∀ d ∈ ds, IsOwnSmall d) :
    capitalFront cs = capitalFront ds ↔ cs = ds ∨ Twins cs ds := by
  refine ⟨fun h => ?_, fun h => h.elim (fun e => e ▸ rfl) capitalFront_eq_of_twins⟩
  cases cs with
  | nil =>
    cases ds with
    | nil => exact .inl rfl
    | cons d rest => exact absurd (List.append_eq_nil_iff.1 h.symm).1 (upperChar_ne_nil d)
  | cons c rest =>
    cases ds with
    | nil => exact absurd (List.append_eq_nil_iff.1 h).1 (upperChar_ne_nil c)
    | cons d rest' =>
      obtain ⟨hc, hrest⟩ := List.forall_mem_cons.1 hcs
      obtain ⟨hd, hrest'⟩ := List.forall_mem_cons.1 hds
      rcases List.append_eq_append_iff.1 h with ⟨more, hfront, rfl⟩ | ⟨more, hfront, rfl⟩
      · have hmore : ∀ b ∈ more, IsOwnSmall b := fun b hb =>
          hrest b (List.mem_append_left _ hb)
        exact (twins_of_upperChar hc hd hmore hfront rest').imp Eq.symm Twins.symm
      · have hmore : ∀ b ∈ more, IsOwnSmall b := fun b hb =>
          hrest' b (List.mem_append_left _ hb)
        exact twins_of_upperChar hd hc hmore hfront rest

theorem capitalized_eq_iff {s t : String} (hs : ∀ c ∈ s.toList, IsOwnSmall c)
    (ht : ∀ c ∈ t.toList, IsOwnSmall c) :
    capitalized s = capitalized t ↔ s = t ∨ Twins s.toList t.toList := by
  rw [capitalized_eq, capitalized_eq, ← String.toList_inj, String.toList_ofList,
    String.toList_ofList, capitalFront_eq_iff hs ht, String.toList_inj]

end BeanForge.Text

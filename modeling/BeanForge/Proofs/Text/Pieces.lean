import BeanForge.Text.Blank

/-!
# Pieces of a text

The pieces between separators hold no separator, and what follows a text without a separator in
it joins its last piece.
-/

namespace BeanForge.Text

theorem splitAt_of_not_mem {separator : Char} {cs : List Char} (h : separator ∉ cs) :
    splitAt separator cs = [cs] := by
  induction cs with
  | nil => rfl
  | cons c rest ih =>
    simp only [List.mem_cons, not_or] at h
    have hc : ¬c = separator := fun e => h.1 e.symm
    simp [splitAt, hc, ih h.2]

theorem splitAt_cons_separator (separator : Char) (rest : List Char) :
    splitAt separator (separator :: rest) = [] :: splitAt separator rest := by
  simp [splitAt]

theorem splitAt_cons_of_ne {separator c : Char} {rest piece : List Char} {more : List (List Char)}
    (hc : c ≠ separator) (h : splitAt separator rest = piece :: more) :
    splitAt separator (c :: rest) = (c :: piece) :: more := by
  simp [splitAt, hc, h]

/-- A separator ends a piece. -/
theorem splitAt_append_separator (separator : Char) (cs ds : List Char) :
    splitAt separator (cs ++ separator :: ds) =
      splitAt separator cs ++ splitAt separator ds := by
  induction cs with
  | nil => simp [splitAt]
  | cons c rest ih =>
    by_cases hc : c = separator
    · subst hc
      simp [splitAt, ih]
    · obtain ⟨piece, more, hp⟩ := List.exists_cons_of_ne_nil (splitAt_ne_nil separator rest)
      rw [splitAt_cons_of_ne hc hp, List.cons_append,
        splitAt_cons_of_ne hc (ih.trans (by rw [hp]; rfl))]
      rfl

/-- The last piece of a text and the first of what follows it become one. -/
theorem splitAt_append_splitAt {separator : Char} {ds first : List Char} {back : List (List Char)}
    (cs : List Char) (h : splitAt separator ds = first :: back) :
    ∃ pieces last, splitAt separator cs = pieces ++ [last] ∧
      splitAt separator (cs ++ ds) = pieces ++ (last ++ first) :: back := by
  induction cs with
  | nil => exact ⟨[], [], rfl, h⟩
  | cons c rest ih =>
    obtain ⟨pieces, last, hrest, happend⟩ := ih
    by_cases hc : c = separator
    · subst hc
      exact ⟨[] :: pieces, last, by simp [splitAt_cons_separator, hrest],
        by simp [splitAt_cons_separator, happend]⟩
    · cases pieces with
      | nil =>
        exact ⟨[], c :: last, splitAt_cons_of_ne hc hrest, splitAt_cons_of_ne hc happend⟩
      | cons piece more =>
        exact ⟨(c :: piece) :: more, last, splitAt_cons_of_ne hc hrest,
          splitAt_cons_of_ne hc happend⟩

/-- A text without separators joins the last piece. -/
theorem splitAt_append {separator : Char} (cs : List Char) {ds : List Char} (h : separator ∉ ds) :
    ∃ pieces last, splitAt separator cs = pieces ++ [last] ∧
      splitAt separator (cs ++ ds) = pieces ++ [last ++ ds] :=
  splitAt_append_splitAt cs (splitAt_of_not_mem h)

theorem mem_of_mem_splitAt {separator c : Char} {cs piece : List Char}
    (hp : piece ∈ splitAt separator cs) (hc : c ∈ piece) : c ∈ cs := by
  induction cs generalizing piece with
  | nil =>
    simp only [splitAt, List.mem_singleton] at hp
    simp [hp] at hc
  | cons d rest ih =>
    by_cases hd : d = separator
    · subst hd
      rw [splitAt_cons_separator] at hp
      rcases List.mem_cons.1 hp with rfl | hp
      · cases hc
      · exact List.mem_cons_of_mem _ (ih hp hc)
    · obtain ⟨first, more, hs⟩ := List.exists_cons_of_ne_nil (splitAt_ne_nil separator rest)
      rw [splitAt_cons_of_ne hd hs] at hp
      rcases List.mem_cons.1 hp with rfl | hp
      · rcases List.mem_cons.1 hc with rfl | hc
        · exact List.mem_cons_self
        · exact List.mem_cons_of_mem _ (ih (hs ▸ List.mem_cons_self) hc)
      · exact List.mem_cons_of_mem _ (ih (hs ▸ List.mem_cons_of_mem _ hp) hc)

theorem not_mem_of_mem_splitAt {separator : Char} {cs piece : List Char}
    (hp : piece ∈ splitAt separator cs) : separator ∉ piece := by
  induction cs generalizing piece with
  | nil =>
    obtain rfl : piece = [] := by simpa [splitAt] using hp
    simp
  | cons d rest ih =>
    by_cases hd : d = separator
    · subst hd
      rw [splitAt_cons_separator] at hp
      rcases List.mem_cons.1 hp with rfl | hp
      · simp
      · exact ih hp
    · obtain ⟨first, more, hs⟩ := List.exists_cons_of_ne_nil (splitAt_ne_nil separator rest)
      rw [splitAt_cons_of_ne hd hs] at hp
      rcases List.mem_cons.1 hp with rfl | hp
      · have hfirst : separator ∉ first := ih (hs ▸ List.mem_cons_self)
        simp [hfirst, Ne.symm hd]
      · exact ih (hs ▸ List.mem_cons_of_mem _ hp)

theorem exists_mem_splitAt {separator c : Char} {cs : List Char} (hc : c ∈ cs)
    (hne : c ≠ separator) : ∃ piece ∈ splitAt separator cs, c ∈ piece := by
  induction cs with
  | nil => cases hc
  | cons d rest ih =>
    by_cases hd : d = separator
    · subst hd
      rcases List.mem_cons.1 hc with rfl | hc
      · exact absurd rfl hne
      · obtain ⟨piece, hp, hcp⟩ := ih hc
        exact ⟨piece, by rw [splitAt_cons_separator]; exact List.mem_cons_of_mem _ hp, hcp⟩
    · obtain ⟨first, more, hs⟩ := List.exists_cons_of_ne_nil (splitAt_ne_nil separator rest)
      rw [splitAt_cons_of_ne hd hs]
      rcases List.mem_cons.1 hc with rfl | hc
      · exact ⟨_, List.mem_cons_self, List.mem_cons_self⟩
      · obtain ⟨piece, hp, hcp⟩ := ih hc
        rw [hs] at hp
        rcases List.mem_cons.1 hp with rfl | hp
        · exact ⟨_, List.mem_cons_self, List.mem_cons_of_mem _ hcp⟩
        · exact ⟨piece, List.mem_cons_of_mem _ hp, hcp⟩

/-- A text whose separators are all replaced by one that it does not hold has the same pieces. -/
theorem splitAt_map {separator other : Char} {cs : List Char} (h : other ∉ cs) :
    splitAt other (cs.map fun c => if c = separator then other else c) = splitAt separator cs := by
  induction cs with
  | nil => rfl
  | cons c rest ih =>
    simp only [List.mem_cons, not_or] at h
    by_cases hc : c = separator
    · subst hc
      rw [List.map_cons, if_pos rfl, splitAt_cons_separator, splitAt_cons_separator, ih h.2]
    · obtain ⟨piece, more, hs⟩ := List.exists_cons_of_ne_nil (splitAt_ne_nil separator rest)
      rw [List.map_cons, if_neg hc, splitAt_cons_of_ne hc hs,
        splitAt_cons_of_ne (Ne.symm h.1) ((ih h.2).trans hs)]

def gathered (separator : Char) : List (List Char) → List Char
  | [] => []
  | [piece] => piece
  | piece :: next :: more => piece ++ separator :: gathered separator (next :: more)

theorem gathered_splitAt (separator : Char) (cs : List Char) :
    gathered separator (splitAt separator cs) = cs := by
  induction cs with
  | nil => rfl
  | cons c rest ih =>
    obtain ⟨piece, more, hs⟩ := List.exists_cons_of_ne_nil (splitAt_ne_nil separator rest)
    by_cases hc : c = separator
    · subst hc
      rw [splitAt_cons_separator, hs, gathered, ← hs, ih, List.nil_append]
    · rw [splitAt_cons_of_ne hc hs]
      rw [hs] at ih
      cases more with
      | nil => exact congrArg (c :: ·) ih
      | cons next more => exact congrArg (c :: ·) ih

theorem splitAt_injective {separator : Char} {cs ds : List Char}
    (h : splitAt separator cs = splitAt separator ds) : cs = ds := by
  rw [← gathered_splitAt separator cs, h, gathered_splitAt]

end BeanForge.Text

import BeanForge.Text.Blank

/-!
# Lines and blanks around a text

A text between blanks is what is left when they are trimmed, and lines written one after the other,
each with its end, are the lines of the whole. A carriage return takes a line feed after it along.
-/

namespace BeanForge.Text

/-! Blanks -/

def AllBlank (cs : List Char) : Prop :=
  ∀ c ∈ cs, isBlank c = true

instance (cs : List Char) : Decidable (AllBlank cs) :=
  List.decidableBAll _ cs

theorem allBlank_nil : AllBlank [] := by simp [AllBlank]

theorem allBlank_append {cs ds : List Char} (hcs : AllBlank cs) (hds : AllBlank ds) :
    AllBlank (cs ++ ds) := fun c hc => (List.mem_append.1 hc).elim (hcs c) (hds c)

/-- No blank stands at the front; a text without characters has no front. -/
def BeginsPlain (cs : List Char) : Prop :=
  ∀ c ∈ cs.head?, isBlank c = false

instance (cs : List Char) : Decidable (BeginsPlain cs) :=
  decidable_of_iff (cs.head?.all (fun c => !isBlank c) = true) (by
    unfold BeginsPlain
    cases cs.head? <;> simp)

def EndsPlain (cs : List Char) : Prop :=
  ∀ c ∈ cs.getLast?, isBlank c = false

instance (cs : List Char) : Decidable (EndsPlain cs) :=
  decidable_of_iff (cs.getLast?.all (fun c => !isBlank c) = true) (by
    unfold EndsPlain
    cases cs.getLast? <;> simp)

theorem beginsPlain_append {cs : List Char} (h : BeginsPlain cs) (hne : cs ≠ [])
    (ds : List Char) : BeginsPlain (cs ++ ds) := by
  obtain ⟨c, rest, rfl⟩ := List.exists_cons_of_ne_nil hne
  exact h

theorem endsPlain_append (cs : List Char) {ds : List Char} (h : EndsPlain ds) (hne : ds ≠ []) :
    EndsPlain (cs ++ ds) := by
  rwa [EndsPlain, List.getLast?_append, List.getLast?_eq_some_getLast hne, Option.some_or,
    ← List.getLast?_eq_some_getLast hne]

theorem trimLeft_append_blanks {blanks : List Char} (h : AllBlank blanks) (cs : List Char) :
    trimLeft (blanks ++ cs) = trimLeft cs :=
  List.dropWhile_append_of_pos h

theorem trimLeft_of_beginsPlain {cs : List Char} (h : BeginsPlain cs) : trimLeft cs = cs := by
  cases cs with
  | nil => rfl
  | cons c rest =>
    have hc : isBlank c = false := h c rfl
    rw [trimLeft, List.dropWhile_cons_of_neg (by simp [hc])]

theorem trimRight_eq (cs : List Char) : trimRight cs = (trimLeft cs.reverse).reverse := rfl

theorem trimRight_append_blanks (cs : List Char) {blanks : List Char} (h : AllBlank blanks) :
    trimRight (cs ++ blanks) = trimRight cs := by
  have hreverse : AllBlank blanks.reverse := fun c hc => h c (List.mem_reverse.1 hc)
  rw [trimRight_eq, List.reverse_append, trimLeft_append_blanks hreverse, ← trimRight_eq]

theorem trimRight_of_endsPlain {cs : List Char} (h : EndsPlain cs) : trimRight cs = cs := by
  have hreverse : BeginsPlain cs.reverse := by
    rwa [BeginsPlain, List.head?_reverse]
  rw [trimRight_eq, trimLeft_of_beginsPlain hreverse, List.reverse_reverse]

theorem exists_eq_trimRight_append (cs : List Char) :
    ∃ blanks, AllBlank blanks ∧ cs = trimRight cs ++ blanks := by
  refine ⟨(cs.reverse.takeWhile isBlank).reverse, fun c hc => ?_, ?_⟩
  · exact (List.all_eq_true.1 List.all_takeWhile) c (List.mem_reverse.1 hc)
  · rw [trimRight, ← List.reverse_append, List.takeWhile_append_dropWhile, List.reverse_reverse]

theorem trim_append_blanks (cs : List Char) {blanks : List Char} (h : AllBlank blanks) :
    trim (cs ++ blanks) = trim cs := by
  rw [trim, trim, trimLeft, trimLeft, List.dropWhile_append]
  split
  · rename_i hempty
    have hall : trimLeft blanks = [] := by simpa using trimLeft_append_blanks h []
    rw [List.isEmpty_iff.1 hempty, ← trimLeft, hall]
  · exact trimRight_append_blanks _ h

theorem exists_trimRight_cons {c : Char} (hc : isBlank c = false) (rest : List Char) :
    ∃ more, trimRight (c :: rest) = c :: more := by
  have hreverse : trimLeft (rest.reverse ++ [c]) = trimLeft rest.reverse ++ [c] := by
    rw [trimLeft, trimLeft, List.dropWhile_append]
    split
    · rename_i hempty
      rw [List.isEmpty_iff.1 hempty]
      exact List.dropWhile_cons_of_neg (by simp [hc])
    · rfl
  refine ⟨trimRight rest, ?_⟩
  rw [trimRight_eq, List.reverse_cons, hreverse, List.reverse_append, ← trimRight_eq]
  rfl

/-- A text without blanks at its ends is what is left of it between blanks. -/
theorem trim_padded {before cs after : List Char} (hbefore : AllBlank before)
    (hbegins : BeginsPlain cs) (hends : EndsPlain cs) (hafter : AllBlank after) :
    trim (before ++ (cs ++ after)) = cs := by
  rw [trim, trimLeft_append_blanks hbefore]
  by_cases hne : cs = []
  · have hall : trimLeft after = [] := by
      simpa using trimLeft_append_blanks hafter []
    rw [hne, List.nil_append, hall]
    rfl
  · rw [trimLeft_of_beginsPlain (beginsPlain_append hbegins hne after),
      trimRight_append_blanks cs hafter, trimRight_of_endsPlain hends]

/-! Lines -/

def OnOneLine (cs : List Char) : Prop :=
  ∀ c ∈ cs, endsLine c = false

instance (cs : List Char) : Decidable (OnOneLine cs) :=
  List.decidableBAll _ cs

inductive LineEnd : List Char → List Char → Prop where
  | pair (rest : List Char) : LineEnd ['\r', '\n'] rest
  | single {c : Char} {rest : List Char} (h : endsLine c = true)
      (hpair : c = '\r' → rest.head? ≠ some '\n') : LineEnd [c] rest

/-- A text that consists of these lines; the last one may lack its end. -/
inductive Lines : List (List Char) → List Char → Prop where
  | nil : Lines [] []
  | last {line : List Char} (h : OnOneLine line) (hne : line ≠ []) : Lines [line] line
  | cons {line ending rest : List Char} {more : List (List Char)} (h : OnOneLine line)
      (hending : LineEnd ending rest) (hmore : Lines more rest) :
      Lines (line :: more) (line ++ (ending ++ rest))

theorem lines_lineEnd {ending rest : List Char} (h : LineEnd ending rest) :
    lines (ending ++ rest) = [] :: lines rest := by
  cases h with
  | pair => rw [List.cons_append, List.cons_append, List.nil_append, lines]
  | @single c _ hc hpair =>
    rw [List.singleton_append, lines.eq_def]
    split
    · rename_i heq
      cases heq
    · rename_i more heq
      obtain ⟨rfl, rfl⟩ := List.cons.inj heq
      exact absurd rfl (hpair rfl)
    · rename_i heq
      obtain ⟨rfl, rfl⟩ := List.cons.inj heq
      rw [if_pos hc]

theorem lines_cons {c : Char} (hc : endsLine c = false) (rest : List Char) :
    lines (c :: rest) = match lines rest with
      | [] => [[c]]
      | line :: more => (c :: line) :: more := by
  rw [lines.eq_def]
  split
  · rename_i heq
    cases heq
  · rename_i more heq
    obtain ⟨rfl, rfl⟩ := List.cons.inj heq
    cases hc
  · rename_i heq
    obtain ⟨rfl, rfl⟩ := List.cons.inj heq
    exact if_neg (by simp [hc])

theorem lines_of_onOneLine {line : List Char} (h : OnOneLine line) (hne : line ≠ []) :
    lines line = [line] := by
  induction line with
  | nil => exact absurd rfl hne
  | cons c rest ih =>
    rw [lines_cons (h c List.mem_cons_self)]
    by_cases hrest : rest = []
    · rw [hrest, lines_nil]
    · rw [ih (fun d hd => h d (List.mem_cons_of_mem c hd)) hrest]

theorem lines_append {line following : List Char} {more : List (List Char)} (h : OnOneLine line)
    (hfollowing : lines following = [] :: more) : lines (line ++ following) = line :: more := by
  induction line with
  | nil => exact hfollowing
  | cons c rest ih =>
    rw [List.cons_append, lines_cons (h c List.mem_cons_self),
      ih fun d hd => h d (List.mem_cons_of_mem c hd)]

theorem lines_eq {ls : List (List Char)} {cs : List Char} (h : Lines ls cs) : lines cs = ls := by
  induction h with
  | nil => exact lines_nil
  | last h hne => exact lines_of_onOneLine h hne
  | cons h hending _ ih => rw [lines_append h (lines_lineEnd hending), ih]

end BeanForge.Text

import BeanForge.Proofs.Source.Cuts
import BeanForge.Proofs.Source.Layout
import BeanForge.Proofs.Source.Names
import Mathlib.Tactic.Common

/-!
# Tokens of a layout

Wherever its reading begins, a text that is written with some words and marks has them as its
tokens. A word ends where something else begins, and a mark is not read as part of a longer one,
because of what has to stand between the two.
-/

namespace BeanForge.Source

open Text

/-! Characters -/

def blankNumbers : List Nat :=
  [9, 10, 11, 12, 13, 28, 29, 30, 31, 32, 0x85, 0xA0, 0x1680, 0x2000, 0x2001, 0x2002, 0x2003,
    0x2004, 0x2005, 0x2006, 0x2007, 0x2008, 0x2009, 0x200A, 0x2028, 0x2029, 0x202F, 0x205F, 0x3000]

theorem toNat_of_isBlank {c : Char} (h : isBlank c = true) : c.toNat ∈ blankNumbers := by
  simp only [isBlank, Bool.or_eq_true, Bool.and_eq_true, decide_eq_true_eq, beq_iff_eq] at h
  simp only [blankNumbers, List.mem_cons, List.not_mem_nil, or_false]
  omega

theorem not_continuesIdentifier_of_isBlank {c : Char} (h : isBlank c = true) :
    continuesIdentifier c = false := by
  have hall : ∀ n ∈ blankNumbers, continuesIdentifier (Char.ofNat n) = false := by
    decide +kernel
  simpa using hall c.toNat (toNat_of_isBlank h)

theorem not_isBlank_of_continues {c : Char} (h : continuesIdentifier c = true) :
    isBlank c = false := by
  cases hc : isBlank c with
  | false => rfl
  | true => rw [not_continuesIdentifier_of_isBlank hc] at h; cases h

theorem not_isDigit_of_begins {c : Char} (h : beginsIdentifier c = true) : c.isDigit = false := by
  cases hc : c.isDigit with
  | false => rfl
  | true =>
    have hdigits : ∀ n < 58, 48 ≤ n → beginsIdentifier (Char.ofNat n) = false := by decide
    have hnat : 48 ≤ c.toNat ∧ c.toNat < 58 := by
      simp only [Char.isDigit, Bool.and_eq_true, decide_eq_true_eq] at hc
      have h0 : 48 ≤ c.val.toNat := hc.1
      have h9 : c.val.toNat ≤ 57 := hc.2
      exact ⟨h0, Nat.lt_succ_of_le h9⟩
    have hbegins := hdigits c.toNat hnat.2 hnat.1
    rw [Char.ofNat_toNat, h] at hbegins
    cases hbegins

/-! Pieces -/

/-- A character that begins no other piece begins a word or an operator. -/
theorem pieceAt_of_plain {c : Char} (rest : List Char) (hblank : isBlank c = false)
    (hmark : c ∉ ['/', '.', '@', '\'', '"']) (hseparator : separators.contains c = false)
    (hdigit : c.isDigit = false) :
    pieceAt c rest =
      if begins : beginsIdentifier c then .ok (wordPiece c rest begins)
      else match operatorAt? (c :: rest) with
        | some op => piece (some .operator) (.ok (op.toList, (c :: rest).drop op.length))
        | none => .error (.strange c) := by
  have hne (d : Char) (hd : d ∈ ['/', '.', '@', '\'', '"']) : c ≠ d := fun e => hmark (e ▸ hd)
  unfold pieceAt
  rw [if_neg (by simp [hblank])]
  split
  · exact absurd rfl (hne '/' (by decide))
  · exact absurd rfl (hne '/' (by decide))
  · exact absurd rfl (hne '.' (by decide))
  · exact absurd rfl (hne '@' (by decide))
  · rw [if_neg (by simp [hne '.' (by decide)]), if_neg (by rw [hseparator]; decide),
      if_neg (by simp [hne '\'' (by decide), hne '"' (by decide)])]
    exact if_neg (by simp [hdigit])

theorem pieceAt_word {c : Char} (rest : List Char) (h : beginsIdentifier c = true) :
    pieceAt c rest = .ok (wordPiece c rest h) := by
  have hnot {chars : List Char} (hall : chars.all (fun d => !beginsIdentifier d) = true) :
      c ∉ chars := by
    intro hc
    have hstops := List.all_eq_true.1 hall c hc
    rw [h] at hstops
    cases hstops
  have hseparator : separators.contains c = false := by
    rw [List.contains_eq_mem, decide_eq_false_iff_not]
    exact hnot (by decide)
  rw [pieceAt_of_plain rest (not_isBlank_of_continues (continuesIdentifier_of_begins h))
    (hnot (by decide)) hseparator (not_isDigit_of_begins h), dif_pos h]

/-- A mark that what follows does not make part of a longer one. -/
def Mark.Clear : Mark → List Char → Prop
  | dot, cs => ∀ c ∈ cs.head?, c ≠ '.' ∧ c.isDigit = false
  | less, cs => ∀ c ∈ cs.head?, c ≠ '<' ∧ c ≠ '='
  | greater, cs => ∀ c ∈ (cs.dropWhile (· = '>')).head?, c ≠ '='
  | equals, cs => ∀ c ∈ cs.head?, c ≠ '='
  | _, _ => True

theorem operatorAt?_less {cs : List Char} (h : Mark.less.Clear cs) :
    operatorAt? ('<' :: cs) = some "<" := by
  cases cs with
  | nil => rfl
  | cons c rest =>
    obtain ⟨hless, hequals⟩ := h c rfl
    simp [operatorAt?, operators, List.isPrefixOf, Ne.symm hless, Ne.symm hequals]

theorem operatorAt?_equals {cs : List Char} (h : Mark.equals.Clear cs) :
    operatorAt? ('=' :: cs) = some "=" := by
  cases cs with
  | nil => rfl
  | cons c rest =>
    have hequals := h c rfl
    simp [operatorAt?, operators, List.isPrefixOf, Ne.symm hequals]

theorem not_isPrefixOf_of_clear {cs : List Char} (h : Mark.greater.Clear cs) (n : Nat) :
    (List.replicate n '>' ++ ['=']).isPrefixOf cs = false := by
  induction n generalizing cs with
  | zero =>
    cases cs with
    | nil => rfl
    | cons c rest =>
      cases hc : c == '=' with
      | false => simpa [List.isPrefixOf] using fun e => by simp [← e] at hc
      | true => exact absurd (beq_iff_eq.1 hc) (h c (by simp [beq_iff_eq.1 hc]))
  | succ n ih =>
    cases cs with
    | nil => rfl
    | cons c rest =>
      by_cases hc : c = '>'
      · have hrest : Mark.greater.Clear rest := by
          rw [Mark.Clear, hc, List.dropWhile_cons_of_pos (by decide)] at h
          exact h
        rw [List.replicate_succ, List.cons_append, List.isPrefixOf, ih hrest, Bool.and_false]
      · have hne : ('>' == c) = false := by simpa using Ne.symm hc
        rw [List.replicate_succ, List.cons_append, List.isPrefixOf, hne, Bool.false_and]

theorem operatorAt?_greater {cs : List Char} (h : Mark.greater.Clear cs) :
    operatorAt? ('>' :: cs) = some ">" := by
  have h0 := not_isPrefixOf_of_clear h 0
  have h1 := not_isPrefixOf_of_clear h 1
  have h2 := not_isPrefixOf_of_clear h 2
  simp only [List.replicate, List.nil_append, List.cons_append] at h0 h1 h2
  simp [operatorAt?, operators, List.isPrefixOf, h0, h1, h2]

/-- These characters begin nothing but operators. -/
theorem pieceAt_operator {c : Char} (hc : c ∈ ['<', '>', '=']) {rest : List Char} {op : String}
    (h : operatorAt? (c :: rest) = some op) :
    pieceAt c rest = piece (some .operator) (.ok (op.toList, (c :: rest).drop op.length)) := by
  have hall : ['<', '>', '='].all (fun d => !isBlank d && !separators.contains d &&
      !d.isDigit && !beginsIdentifier d && !(['/', '.', '@', '\'', '"'].contains d)) = true := by
    decide
  have hplain := List.all_eq_true.1 hall c hc
  simp only [Bool.and_eq_true, Bool.not_eq_true'] at hplain
  obtain ⟨⟨⟨⟨hblank, hseparator⟩, hdigit⟩, hbegins⟩, hmark⟩ := hplain
  rw [pieceAt_of_plain rest hblank (by simpa using hmark) hseparator hdigit,
    dif_neg (by simp [hbegins]), h]

theorem pieceAt_dot {cs : List Char} (h : Mark.dot.Clear cs) :
    pieceAt '.' cs = piece (some .separator) (.ok (['.'], cs)) := by
  cases cs with
  | nil => rfl
  | cons c rest =>
    obtain ⟨hdot, hdigit⟩ := h c rfl
    unfold pieceAt
    rw [if_neg (by decide)]
    split
    · rename_i heq _
      cases heq
    · rename_i heq _
      cases heq
    · rename_i hrest
      exact absurd (List.cons.inj hrest).1 hdot
    · rename_i hat
      exact absurd hat (by decide)
    · rw [if_neg (by simp [hdigit]), if_pos (by decide)]

theorem exists_pieceAt_mark (m : Mark) {cs : List Char} (h : m.Clear cs) :
    ∃ c rest sound, m.text.toList ++ cs = c :: rest ∧
      pieceAt c rest = .ok ⟨some m.kind, m.text.toList, cs, sound⟩ := by
  have hsound : some m.kind = some .identifier →
      isIdentifier (String.ofList m.text.toList) = true := by
    cases m <;> exact fun h => absurd h (by decide)
  cases m with
  | openParenthesis => exact ⟨'(', cs, hsound, rfl, rfl⟩
  | closeParenthesis => exact ⟨')', cs, hsound, rfl, rfl⟩
  | openBrace => exact ⟨'\x7b', cs, hsound, rfl, rfl⟩
  | closeBrace => exact ⟨'\x7d', cs, hsound, rfl, rfl⟩
  | openBracket => exact ⟨'[', cs, hsound, rfl, rfl⟩
  | closeBracket => exact ⟨']', cs, hsound, rfl, rfl⟩
  | semicolon => exact ⟨';', cs, hsound, rfl, rfl⟩
  | comma => exact ⟨',', cs, hsound, rfl, rfl⟩
  | dot => exact ⟨'.', cs, hsound, rfl, pieceAt_dot h⟩
  | dots => exact ⟨'.', '.' :: '.' :: cs, hsound, rfl, rfl⟩
  | less =>
    refine ⟨'<', cs, hsound, rfl, ?_⟩
    rw [pieceAt_operator (by simp) (operatorAt?_less h)]
    rfl
  | greater =>
    refine ⟨'>', cs, hsound, rfl, ?_⟩
    rw [pieceAt_operator (by simp) (operatorAt?_greater h)]
    rfl
  | question => exact ⟨'?', cs, hsound, rfl, rfl⟩
  | equals =>
    refine ⟨'=', cs, hsound, rfl, ?_⟩
    rw [pieceAt_operator (by simp) (operatorAt?_equals h)]
    rfl
  | atSign => exact ⟨'@', cs, hsound, rfl, rfl⟩

theorem lineComment_append {text : List Char} (h : '\n' ∉ text) (rest : List Char) :
    lineComment (text ++ '\n' :: rest) = (text ++ ['\n'], rest) := by
  induction text with
  | nil => rfl
  | cons c text ih =>
    simp only [List.mem_cons, not_or] at h
    rw [List.cons_append, lineComment, if_neg (Ne.symm h.1), ih h.2]
    rfl

theorem lineComment_of_not_mem {text : List Char} (h : '\n' ∉ text) :
    lineComment text = (text, []) := by
  induction text with
  | nil => rfl
  | cons c text ih =>
    simp only [List.mem_cons, not_or] at h
    rw [lineComment, if_neg (Ne.symm h.1), ih h.2]

theorem blockComment_append {text : List Char} (h : ¬['*', '/'] <:+: text) (rest : List Char) :
    blockComment (text ++ '*' :: '/' :: rest) = .ok (text ++ ['*', '/'], rest) := by
  induction text with
  | nil => rfl
  | cons c text ih =>
    have hrest := ih fun hpart => h (hpart.trans (List.suffix_cons c text).isInfix)
    rw [List.cons_append, blockComment.eq_def]
    split
    · -- a star and a slash in front would be inside the comment
      rename_i more heq
      obtain ⟨rfl, hmore⟩ := List.cons.inj heq
      cases text with
      | nil => cases hmore
      | cons d text =>
        obtain ⟨rfl, _⟩ := List.cons.inj hmore
        exact absurd (List.IsPrefix.isInfix ⟨text, rfl⟩) h
    · rename_i heq
      obtain ⟨rfl, rfl⟩ := List.cons.inj heq
      rw [hrest]
      rfl
    · rename_i heq
      cases heq

theorem clear_greater_of_head {cs : List Char} (hstart : ∀ c ∈ cs.head?, c ≠ '>')
    (hne : ∀ c ∈ cs.head?, c ≠ '=') : Mark.greater.Clear cs := by
  cases cs with
  | nil => exact fun c hc => by cases hc
  | cons c rest =>
    rw [Mark.Clear, List.dropWhile_cons_of_neg (by simpa using hstart c rfl)]
    exact hne

/-! Tokens -/

/-- A text with these lexemes, wherever its reading begins. -/
def Lexes (cs : List Char) (ls : List Lexeme) : Prop :=
  ∀ fuel place, cs.length ≤ fuel → ∃ ts, tokensFrom fuel place cs = .ok ts ∧ Spells ts ls

theorem lexes_nil : Lexes [] [] := by
  intro fuel place _
  refine ⟨[], ?_, rfl⟩
  cases fuel <;> rfl

/-- What is left after a piece that is no token. -/
theorem lexes_skipped {c : Char} {rest text after : List Char} {ls : List Lexeme}
    {sound : (none : Option TokenKind) = some .identifier →
      isIdentifier (String.ofList text) = true}
    (hpiece : pieceAt c rest = .ok ⟨none, text, after, sound⟩) (hafter : Lexes after ls) :
    Lexes (c :: rest) ls := by
  intro fuel place hfuel
  cases fuel with
  | zero => simp at hfuel
  | succ fuel =>
    have hle : after.length ≤ fuel :=
      Nat.le_trans (length_le_of_taken hpiece) (Nat.le_of_succ_le_succ hfuel)
    conv => enter [1, ts, 1, 1]; unfold tokensFrom
    simp only [hpiece]
    exact hafter fuel _ hle

theorem lexes_token {c : Char} {rest text after : List Char} {kind : TokenKind} {l : Lexeme}
    {ls : List Lexeme}
    {sound : some kind = some .identifier → isIdentifier (String.ofList text) = true}
    (hpiece : pieceAt c rest = .ok ⟨some kind, text, after, sound⟩) (hkind : kind = l.kind)
    (htext : String.ofList text = l.text) (hafter : Lexes after ls) :
    Lexes (c :: rest) (l :: ls) := by
  intro fuel place hfuel
  cases fuel with
  | zero => simp at hfuel
  | succ fuel =>
    have hle : after.length ≤ fuel :=
      Nat.le_trans (length_le_of_taken hpiece) (Nat.le_of_succ_le_succ hfuel)
    obtain ⟨ts, hts, hspells⟩ := hafter fuel
      { place with passed := text.reverse ++ place.passed, sinceToken := after } hle
    conv => enter [1, ts, 1, 1]; unfold tokensFrom
    simp only [hpiece, hts]
    refine ⟨_, rfl, ?_⟩
    rw [Spells, List.map_cons, List.map_cons, hspells, ← hkind, ← htext]

theorem lexes_of_dropWhile {cs : List Char} {ls : List Lexeme}
    (h : Lexes (cs.dropWhile isBlank) ls) : Lexes cs ls := by
  cases cs with
  | nil => exact h
  | cons c rest =>
    cases hc : isBlank c with
    | false =>
      rw [List.dropWhile_cons_of_neg (by simp [hc])] at h
      exact h
    | true =>
      rw [List.dropWhile_cons_of_pos hc] at h
      have hpiece : pieceAt c rest = piece none (.ok (c :: rest.takeWhile isBlank,
          rest.dropWhile isBlank)) := by
        unfold pieceAt
        rw [if_pos hc]
      exact lexes_skipped hpiece h

/-- Blanks and comments in front make no tokens. -/
theorem lexes_gap {gap cs : List Char} {ls : List Lexeme} (hgap : Gap gap)
    (h : Lexes (cs.dropWhile isBlank) ls) : Lexes ((gap ++ cs).dropWhile isBlank) ls := by
  induction hgap with
  | nil => exact h
  | blank hc _ ih =>
    rw [List.cons_append, List.dropWhile_cons_of_pos hc]
    exact ih
  | @line text more htext _ ih =>
    rw [List.cons_append, List.dropWhile_cons_of_neg (by decide), List.cons_append,
      List.append_assoc, List.cons_append]
    have hpiece : pieceAt '/' ('/' :: (text ++ '\n' :: (more ++ cs))) =
        skipping ['/', '/'] (.ok (text ++ ['\n'], more ++ cs)) := by
      rw [← lineComment_append htext]
      rfl
    exact lexes_skipped hpiece (lexes_of_dropWhile ih)
  | @block text more htext _ ih =>
    rw [List.cons_append, List.dropWhile_cons_of_neg (by decide), List.cons_append,
      List.append_assoc, List.cons_append, List.cons_append]
    have hpiece : pieceAt '/' ('*' :: (text ++ '*' :: '/' :: (more ++ cs))) =
        skipping ['/', '*'] (.ok (text ++ ['*', '/'], more ++ cs)) := by
      rw [← blockComment_append htext]
      rfl
    exact lexes_skipped hpiece (lexes_of_dropWhile ih)

theorem lexes_ending {cs : List Char} (h : Ending cs) : Lexes (cs.dropWhile isBlank) [] := by
  cases h with
  | gap hgap =>
    have hlexes : Lexes ((_ ++ []).dropWhile isBlank) [] := lexes_gap hgap lexes_nil
    rwa [List.append_nil] at hlexes
  | @comment gap text hgap htext =>
    refine lexes_gap hgap ?_
    have hpiece : pieceAt '/' ('/' :: text) = skipping ['/', '/'] (.ok (text, [])) := by
      rw [← lineComment_of_not_mem htext]
      rfl
    exact lexes_skipped hpiece lexes_nil

/-! What follows a lexeme -/

def Parts (c : Char) : Prop :=
  isBlank c = true ∨ c = '/'

instance (c : Char) : Decidable (Parts c) :=
  inferInstanceAs (Decidable (_ ∨ _))

theorem Parts.not_continues {c : Char} (h : Parts c) : continuesIdentifier c = false := by
  cases h with
  | inl hblank => exact not_continuesIdentifier_of_isBlank hblank
  | inr hslash =>
    subst hslash
    decide

theorem Parts.ne {c d : Char} (h : Parts c) (hd : ¬Parts d) : c ≠ d := by
  rintro rfl
  exact hd h

theorem not_isDigit_of_not_continues {c : Char} (h : continuesIdentifier c = false) :
    c.isDigit = false := by
  cases hc : c.isDigit with
  | false => rfl
  | true =>
    have hascii : c.toNat < 128 := by
      simp only [Char.isDigit, Bool.and_eq_true, decide_eq_true_eq] at hc
      have h9 : c.val.toNat ≤ 57 := hc.2
      exact Nat.lt_of_le_of_lt h9 (by decide)
    simp [continuesIdentifier, hascii, Char.isAlphanum, hc] at h

theorem Gap.parts {gap : List Char} (h : Gap gap) {c : Char} (hc : c ∈ gap.head?) : Parts c := by
  cases h with
  | nil => cases hc
  | blank hblank _ =>
    cases hc
    exact .inl hblank
  | line _ _ =>
    cases hc
    exact .inr rfl
  | block _ _ =>
    cases hc
    exact .inr rfl

theorem Ending.parts {cs : List Char} (h : Ending cs) {c : Char} (hc : c ∈ cs.head?) :
    Parts c := by
  cases h with
  | gap hgap => exact hgap.parts hc
  | @comment gap text hgap _ =>
    cases gap with
    | nil =>
      cases hc
      exact .inr rfl
    | cons d more => exact hgap.parts hc

theorem Mark.exists_head (m : Mark) : ∃ c rest, m.text.toList = c :: rest ∧
    isBlank c = false ∧ continuesIdentifier c = false := by
  have hall : (m.text.toList.head?.any fun c => !isBlank c && !continuesIdentifier c) = true := by
    cases m <;> decide
  cases htext : m.text.toList with
  | nil => simp [htext] at hall
  | cons c rest =>
    simp only [htext, List.head?_cons, Option.any_some, Bool.and_eq_true,
      Bool.not_eq_true'] at hall
    exact ⟨c, rest, rfl, hall⟩

theorem Lexeme.exists_head (l : Lexeme) : ∃ c rest, l.text.toList = c :: rest ∧
    isBlank c = false ∧ (l.isWord = true → beginsIdentifier c = true) ∧
      (l.isWord = false → continuesIdentifier c = false) := by
  cases l with
  | word text sound =>
    rw [Source.isWord] at sound
    cases htext : text.toList with
    | nil => simp [htext] at sound
    | cons c rest =>
      simp only [htext, Bool.and_eq_true] at sound
      exact ⟨c, rest, htext, not_isBlank_of_continues (continuesIdentifier_of_begins sound.1),
        fun _ => sound.1, fun h => by cases h⟩
  | mark m =>
    obtain ⟨c, rest, htext, hblank, hcontinues⟩ := m.exists_head
    exact ⟨c, rest, htext, hblank, fun h => (by cases h), fun _ => hcontinues⟩

/-- What a text begins with whose first part is a gap. -/
theorem head_gap_append {gap cs : List Char} {ls : List Lexeme} (hgap : Gap gap)
    (hlays : Lays ls cs) {c : Char} (hc : c ∈ (gap ++ cs).head?) :
    Parts c ∨ gap = [] ∧ ∃ l ∈ ls.head?, l.text.toList.head? = some c := by
  cases gap with
  | cons d more => exact .inl (hgap.parts hc)
  | nil =>
    cases hlays with
    | nil hending => exact .inl (hending.parts hc)
    | @cons l ls gap cs _ _ _ =>
      refine .inr ⟨rfl, l, rfl, ?_⟩
      obtain ⟨d, rest, htext, _⟩ := l.exists_head
      rw [htext] at hc ⊢
      exact hc

theorem begins_or_mark {l : Lexeme} {c : Char} (h : l.text.toList.head? = some c) :
    (l.isWord = true ∧ beginsIdentifier c = true) ∨
      (continuesIdentifier c = false ∧ ∃ m, l = .mark m ∧ m.text.toList.head? = some c) := by
  obtain ⟨d, rest, htext, _, hword, hmark⟩ := l.exists_head
  have hd : d = c := by
    rw [htext] at h
    exact Option.some.inj h
  subst hd
  cases l with
  | word text sound => exact .inl ⟨rfl, hword rfl⟩
  | mark m => exact .inr ⟨hmark rfl, m, rfl, h⟩

/-- A word ends where a gap or a mark begins. -/
theorem not_continues_head {l : Lexeme} {ls : List Lexeme} {gap cs : List Char}
    (hword : l.isWord = true) (hgap : Gap gap) (hlays : Lays ls cs)
    (hparted : ∀ next ∈ ls.head?, joins l next = true → gap ≠ []) {c : Char}
    (hc : c ∈ (gap ++ cs).head?) : continuesIdentifier c = false := by
  cases head_gap_append hgap hlays hc with
  | inl hparts => exact hparts.not_continues
  | inr hnext =>
    obtain ⟨hnil, next, hmem, hhead⟩ := hnext
    cases begins_or_mark hhead with
    | inl hbegins =>
      have hjoins : joins l next = true := by
        cases l with
        | mark m => cases hword
        | word text sound =>
          cases next with
          | mark m => cases hbegins.1
          | word other sound => rfl
      exact absurd hnil (hparted next hmem hjoins)
    | inr hmark => exact hmark.1

/-- What follows a mark without a gap does not begin with a character that it would join. -/
theorem head_ne_of_mark {m : Mark} {ls : List Lexeme} {gap cs : List Char} (hgap : Gap gap)
    (hlays : Lays ls cs) (hparted : ∀ next ∈ ls.head?, joins (.mark m) next = true → gap ≠ [])
    {d : Char} (hd : ¬Parts d) (hcontinues : continuesIdentifier d = false)
    (hjoins : ∀ n : Mark, n.text.toList.head? = some d → joins (.mark m) (.mark n) = true)
    {c : Char} (hc : c ∈ (gap ++ cs).head?) : c ≠ d := by
  rintro rfl
  cases head_gap_append hgap hlays hc with
  | inl hparts => exact hd hparts
  | inr hnext =>
    obtain ⟨hnil, next, hmem, hhead⟩ := hnext
    cases begins_or_mark hhead with
    | inl hbegins =>
      rw [continuesIdentifier_of_begins hbegins.2] at hcontinues
      cases hcontinues
    | inr hmark =>
      obtain ⟨_, n, rfl, hn⟩ := hmark
      exact hparted _ hmem (hjoins n hn) hnil

theorem not_isDigit_head {gap cs : List Char} {ls : List Lexeme} (hgap : Gap gap)
    (hlays : Lays ls cs) {c : Char} (hc : c ∈ (gap ++ cs).head?) : c.isDigit = false := by
  cases head_gap_append hgap hlays hc with
  | inl hparts => exact not_isDigit_of_not_continues hparts.not_continues
  | inr hnext =>
    obtain ⟨_, next, _, hhead⟩ := hnext
    cases begins_or_mark hhead with
    | inl hbegins => exact not_isDigit_of_begins hbegins.2
    | inr hmark => exact not_isDigit_of_not_continues hmark.1

/-- However many marks of this kind stand together, no `=` makes them another operator. -/
theorem clear_greater {ls : List Lexeme} {gap cs : List Char} (hgap : Gap gap) (hlays : Lays ls cs)
    (hparted : ∀ next ∈ ls.head?, joins (.mark .greater) next = true → gap ≠ []) :
    Mark.greater.Clear (gap ++ cs) := by
  induction hlays generalizing gap with
  | @nil cs hending =>
    have hne : ∀ c ∈ (gap ++ cs).head?, c ≠ '=' := fun c hc =>
      head_ne_of_mark hgap (.nil hending) hparted (by decide) (by decide)
        (fun n => by cases n <;> decide) hc
    have hstart : ∀ c ∈ (gap ++ cs).head?, c ≠ '>' := fun c hc => by
      cases head_gap_append hgap (.nil hending) hc with
      | inl hparts => exact hparts.ne (by decide)
      | inr hnext =>
        obtain ⟨_, _, hmem, _⟩ := hnext
        cases hmem
    exact clear_greater_of_head hstart hne
  | @cons l ls inner cs hinner hjoin hmore ih =>
    have hlays := Lays.cons hinner hjoin hmore
    have hne : ∀ c ∈ (gap ++ (l.text.toList ++ (inner ++ cs))).head?, c ≠ '=' := fun c hc =>
      head_ne_of_mark hgap hlays hparted (by decide) (by decide) (fun n => by cases n <;> decide) hc
    by_cases hstart : (gap ++ (l.text.toList ++ (inner ++ cs))).head? = some '>'
    · -- another of these marks follows at once
      cases head_gap_append hgap hlays hstart with
      | inl hparts => exact absurd hparts (by decide)
      | inr hnext =>
        obtain ⟨rfl, next, hmem, hhead⟩ := hnext
        cases hmem
        cases begins_or_mark hhead with
        | inl hbegins => exact absurd hbegins.2 (by decide)
        | inr hmark =>
          obtain ⟨_, n, rfl, hn⟩ := hmark
          have hgreater : n = .greater := by
            revert hn
            cases n <;> decide
          subst hgreater
          exact ih hinner hjoin
    · exact clear_greater_of_head (fun c hc e => hstart (e ▸ hc)) hne

theorem clear_of_lays {m : Mark} {ls : List Lexeme} {gap cs : List Char} (hgap : Gap gap)
    (hlays : Lays ls cs) (hparted : ∀ next ∈ ls.head?, joins (.mark m) next = true → gap ≠ []) :
    m.Clear (gap ++ cs) := by
  cases m with
  | dot =>
    intro c hc
    have hdot : c ≠ '.' := head_ne_of_mark hgap hlays hparted (by decide) (by decide)
      (fun n => by cases n <;> decide) hc
    exact ⟨hdot, not_isDigit_head hgap hlays hc⟩
  | less =>
    intro c hc
    have hless : c ≠ '<' := head_ne_of_mark hgap hlays hparted (by decide) (by decide)
      (fun n => by cases n <;> decide) hc
    have hequals : c ≠ '=' := head_ne_of_mark hgap hlays hparted (by decide) (by decide)
      (fun n => by cases n <;> decide) hc
    exact ⟨hless, hequals⟩
  | equals =>
    exact fun c hc => head_ne_of_mark hgap hlays hparted (by decide) (by decide)
      (fun n => by cases n <;> decide) hc
  | greater => exact clear_greater hgap hlays hparted
  | _ => trivial

/-! Texts -/

theorem lexes_word {text : String} {sound : isWord text = true} {after : List Char}
    {ls : List Lexeme} (hstop : ∀ c ∈ after.head?, continuesIdentifier c = false)
    (hafter : Lexes after ls) :
    Lexes (text.toList ++ after) (.word text sound :: ls) := by
  have hword := sound
  rw [isWord] at hword
  cases htext : text.toList with
  | nil => simp [htext] at hword
  | cons c rest =>
    simp only [htext, Bool.and_eq_true, List.all_eq_true] at hword
    obtain ⟨hbegins, hrest⟩ := hword
    have htake : after.takeWhile continuesIdentifier = [] := by
      cases after with
      | nil => rfl
      | cons d more => exact List.takeWhile_cons_of_neg (by simp [hstop d rfl])
    have hdrop : after.dropWhile continuesIdentifier = after := by
      cases after with
      | nil => rfl
      | cons d more => exact List.dropWhile_cons_of_neg (by simp [hstop d rfl])
    have hpiece := pieceAt_word (rest ++ after) hbegins
    simp only [wordPiece, List.takeWhile_append_of_pos hrest, List.dropWhile_append_of_pos hrest,
      htake, hdrop, List.append_nil] at hpiece
    have hofList : String.ofList (c :: rest) = text := by rw [← htext, String.ofList_toList]
    have hkind : wordKind (String.ofList (c :: rest)) = (Lexeme.word text sound).kind := by
      rw [hofList]
      rfl
    exact lexes_token hpiece hkind hofList hafter

theorem lexes_mark {m : Mark} {after : List Char} {ls : List Lexeme} (hclear : m.Clear after)
    (hafter : Lexes after ls) : Lexes (m.text.toList ++ after) (.mark m :: ls) := by
  obtain ⟨c, rest, sound, hcs, hpiece⟩ := exists_pieceAt_mark m hclear
  rw [hcs]
  exact lexes_token hpiece rfl String.ofList_toList hafter

theorem lexes_of_lays {ls : List Lexeme} {cs : List Char} (h : Lays ls cs) :
    Lexes (cs.dropWhile isBlank) ls := by
  induction h with
  | nil hending => exact lexes_ending hending
  | @cons l ls gap cs hgap hparted hlays ih =>
    have hafter : Lexes (gap ++ cs) ls := lexes_of_dropWhile (lexes_gap hgap ih)
    have hstart : (l.text.toList ++ (gap ++ cs)).dropWhile isBlank =
        l.text.toList ++ (gap ++ cs) := by
      obtain ⟨c, rest, htext, hblank, _⟩ := l.exists_head
      rw [htext, List.cons_append, List.dropWhile_cons_of_neg (by simp [hblank])]
    rw [hstart]
    cases l with
    | word text sound =>
      exact lexes_word (fun c hc => not_continues_head rfl hgap hlays hparted hc) hafter
    | mark m => exact lexes_mark (clear_of_lays hgap hlays hparted) hafter

/-- Escapes are undone before anything else: the layout is that of the text without them. -/
theorem tokens_of_laidOut {text : String} {cs : List Char} {ls : List Lexeme}
    (hcs : undoEscapes [] text.toList = .ok cs) (h : LaidOut ls cs) :
    ∃ ts, tokens text = .ok ts ∧ Spells ts ls := by
  obtain ⟨gap, body, hgap, hlays, rfl⟩ := h
  have hlexes : Lexes (gap ++ body) ls :=
    lexes_of_dropWhile (lexes_gap hgap (lexes_of_lays hlays))
  obtain ⟨ts, hts, hspells⟩ := hlexes _ { sinceToken := gap ++ body } (Nat.le_refl _)
  refine ⟨ts, ?_, hspells⟩
  rw [tokens, hcs]
  exact hts

/-- A text without escapes stays as it is. -/
theorem undoEscapes_of_not_infix {kept cs : List Char} (h : ¬['\\', 'u'] <:+: cs) :
    undoEscapes kept cs = .ok (kept.reverse ++ cs) := by
  fun_induction undoEscapes kept cs with
  | case1 kept => rw [List.append_nil]
  | case2 kept rest _ => exact absurd ⟨[], rest, rfl⟩ h
  | case3 kept rest _ _ _ _ _ => exact absurd ⟨[], rest, rfl⟩ h
  | case4 kept rest _ _ _ _ _ _ _ => exact absurd ⟨[], rest, rfl⟩ h
  | case5 kept rest _ _ _ _ _ _ _ _ => exact absurd ⟨[], rest, rfl⟩ h
  | case6 kept c rest _ ih =>
    have hrest : rest <:+ '\\' :: c :: rest := ⟨['\\', c], rfl⟩
    rw [ih fun hpart => h (hpart.trans hrest.isInfix), List.reverse_cons, List.reverse_cons]
    simp
  | case7 kept c rest _ _ ih =>
    rw [ih fun hpart => h (hpart.trans (List.suffix_cons c rest).isInfix), List.reverse_cons]
    simp

theorem undoEscapes_of_not_mem {cs : List Char} (h : '\\' ∉ cs) :
    undoEscapes [] cs = .ok cs :=
  undoEscapes_of_not_infix fun hpart => h (hpart.mem List.mem_cons_self)

end BeanForge.Source

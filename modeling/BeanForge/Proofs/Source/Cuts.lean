import BeanForge.Source.Lexer

/-!
# Cuts of a source text

A piece and what is left after it make up the text that it was found in, so no character is read
twice and none is lost. Only a number can be cut off by the end of the text without an account of
it, and then all that is left belongs to the number.
-/

namespace BeanForge.Source

open Text

/-! Numbers -/

def isNumeric (c : Char) : Bool :=
  isHexDigit c || "_.+-xXbBeEpPfFdDlL".toList.contains c

/-- A flaw that gives no account: a number stops at the end of the text. -/
def Flaw.isCutOff : Flaw → Bool
  | .cutOff => true
  | .noPower none => true
  | _ => false

/-- After `read`, a number goes on with the front of a text. If the text ends too early, all of it
is numeric. -/
def Numeral (read cs : List Char) : Except Flaw Cut → Prop
  | .ok (text, rest) =>
    ∃ more, text = read ++ more ∧ more ++ rest = cs ∧ ∀ c ∈ more, isNumeric c = true
  | .error flaw => flaw.isCutOff = true → ∀ c ∈ cs, isNumeric c = true

/-- The last characters that were read may count as characters to be read. -/
theorem Numeral.back {read front cs : List Char} {cut : Except Flaw Cut}
    (h : Numeral (read ++ front) cs cut) (hfront : ∀ c ∈ front, isNumeric c = true) :
    Numeral read (front ++ cs) cut := by
  cases cut with
  | error flaw => exact fun hflaw => List.forall_mem_append.2 ⟨hfront, h hflaw⟩
  | ok found =>
    obtain ⟨more, htext, hcs, hmore⟩ := h
    refine ⟨front ++ more, ?_, ?_, List.forall_mem_append.2 ⟨hfront, hmore⟩⟩
    · rw [htext, List.append_assoc]
    · rw [List.append_assoc, hcs]

theorem isNumeric_of_isHexDigit {c : Char} (h : isHexDigit c = true) : isNumeric c = true := by
  rw [isNumeric, h, Bool.true_or]

def Digital (isDigit : Char → Bool) : Prop :=
  ∀ c, isDigit c = true → isHexDigit c = true

theorem digital_decimal : Digital Char.isDigit := by
  intro c h
  simp only [Char.isDigit, Bool.and_eq_true, decide_eq_true_eq] at h
  have h0 : 48 ≤ c.toNat := h.1
  have h9 : c.toNat ≤ 57 := h.2
  simp [isHexDigit, hexValue?, h0, h9]

theorem digital_octal : Digital isOctalDigit := by
  intro c h
  simp only [isOctalDigit, Bool.and_eq_true, decide_eq_true_eq] at h
  have h9 : c.toNat ≤ 57 := by omega
  simp [isHexDigit, hexValue?, h.1, h9]

theorem digital_binary : Digital isBinaryDigit := by
  intro c h
  simp only [isBinaryDigit, Bool.or_eq_true, decide_eq_true_eq] at h
  cases h with
  | inl h0 =>
    subst h0
    decide
  | inr h1 =>
    subst h1
    decide

theorem digitRun_append (isDigit : Char → Bool) (cs : List Char) :
    (digitRun isDigit cs).1 ++ (digitRun isDigit cs).2 = cs := by
  induction cs with
  | nil => rfl
  | cons c rest ih =>
    simp only [digitRun]
    split
    · rw [List.cons_append, ih]
    · split
      · rw [List.cons_append, ih]
      · rfl

theorem isNumeric_digitRun {isDigit : Char → Bool} (h : Digital isDigit) (cs : List Char) :
    ∀ c ∈ (digitRun isDigit cs).1, isNumeric c = true := by
  induction cs with
  | nil => exact fun c hc => nomatch hc
  | cons d rest ih =>
    simp only [digitRun]
    split
    · rename_i hd
      exact List.forall_mem_cons.2 ⟨isNumeric_of_isHexDigit (h d hd), ih⟩
    · split
      · rename_i hd
        simp only [Bool.and_eq_true, decide_eq_true_eq] at hd
        refine List.forall_mem_cons.2 ⟨?_, ih⟩
        rw [hd.1]
        decide
      · exact fun c hc => nomatch hc

/-- The mark of a long number, or an underscore before it. -/
theorem isNumeric_of_marksLong {after : List Char} (h : marksLong after = true) :
    ∀ c ∈ after.take 1, isNumeric c = true := by
  cases after with
  | nil => exact fun c hc => nomatch hc
  | cons d rest =>
    refine List.forall_mem_singleton.2 ?_
    by_cases hd : d = '_'
    · subst hd
      decide
    · unfold marksLong at h
      rw [List.dropWhile_cons_of_neg (by simpa using hd)] at h
      simp only [Bool.or_eq_true, decide_eq_true_eq] at h
      cases h with
      | inl hsmall =>
        subst hsmall
        decide
      | inr hlarge =>
        subst hlarge
        decide

theorem numeral_digits {isDigit : Char → Bool} (h : Digital isDigit) (cs : List Char) :
    Numeral [] cs (digits isDigit cs) := by
  cases cs with
  | nil => exact fun _ c hc => nomatch hc
  | cons c rest =>
    have hrun := digitRun_append isDigit (c :: rest)
    have hnumeric := isNumeric_digitRun h (c :: rest)
    simp only [digits]
    split
    · rename_i hlong
      have hall := List.forall_mem_append.2 ⟨hnumeric, isNumeric_of_marksLong hlong⟩
      refine ⟨_, (List.nil_append _).symm, ?_, hall⟩
      rw [List.append_assoc, List.take_append_drop, hrun]
    · exact ⟨_, rfl, hrun, hnumeric⟩

/-- A character of a kind that numbers may hold. -/
theorem optionalChar_numeric {ok : Char → Bool} (h : ∀ c, ok c = true → isNumeric c = true)
    (cs : List Char) : (optionalChar ok cs).1 ++ (optionalChar ok cs).2 = cs ∧
      ∀ c ∈ (optionalChar ok cs).1, isNumeric c = true := by
  cases cs with
  | nil => exact ⟨rfl, fun c hc => nomatch hc⟩
  | cons c rest =>
    simp only [optionalChar]
    split
    · rename_i hc
      exact ⟨rfl, List.forall_mem_singleton.2 (h c hc)⟩
    · exact ⟨rfl, fun d hd => nomatch hd⟩

theorem isNumeric_of_isSign (c : Char) (h : isSign c = true) : isNumeric c = true := by
  simp only [isSign, Bool.or_eq_true, decide_eq_true_eq] at h
  obtain rfl | rfl := h <;> decide

theorem isNumeric_of_marksFloat (c : Char) (h : marksFloat c = true) : isNumeric c = true := by
  simp only [marksFloat, Bool.or_eq_true, decide_eq_true_eq] at h
  obtain ((rfl | rfl) | rfl) | rfl := h <;> decide

theorem numeral_power (cs : List Char) : Numeral [] cs (power cs) := by
  obtain ⟨happend, hsign⟩ := optionalChar_numeric isNumeric_of_isSign cs
  have hdigits := numeral_digits digital_decimal (optionalChar isSign cs).2
  unfold power
  cases hcut : digits Char.isDigit (optionalChar isSign cs).2 with
  | error flaw =>
    rw [hcut] at hdigits
    simp only [bind, Except.bind, hcut]
    intro hflaw
    rw [← happend]
    exact List.forall_mem_append.2 ⟨hsign, hdigits hflaw⟩
  | ok found =>
    obtain ⟨run, after⟩ := found
    rw [hcut] at hdigits
    obtain ⟨more, rfl, hafter, hmore⟩ := hdigits
    simp only [bind, Except.bind, hcut, pure, Except.pure]
    refine ⟨_, (List.nil_append _).symm, ?_, List.forall_mem_append.2 ⟨hsign, hmore⟩⟩
    rw [List.append_assoc, hafter, happend]

theorem numeral_withFloatMark (read cs : List Char) :
    Numeral read cs (.ok (withFloatMark read cs)) := by
  obtain ⟨happend, hmark⟩ := optionalChar_numeric isNumeric_of_marksFloat cs
  exact ⟨_, rfl, happend, hmark⟩

/-- The mark of a power and the power. -/
theorem numeral_powered (read : List Char) {mark : Char} (hmark : isNumeric mark = true)
    (more : List Char) :
    Numeral read (mark :: more) (do
      let (tail, after) ← power more
      pure (withFloatMark (read ++ mark :: tail) after)) := by
  have hpower := numeral_power more
  cases hcut : power more with
  | error flaw =>
    rw [hcut] at hpower
    exact fun hflaw => List.forall_mem_cons.2 ⟨hmark, hpower hflaw⟩
  | ok found =>
    obtain ⟨tail, after⟩ := found
    rw [hcut] at hpower
    obtain ⟨_, rfl, rfl, htail⟩ := hpower
    exact (numeral_withFloatMark (read ++ mark :: _) after).back
      (List.forall_mem_cons.2 ⟨hmark, htail⟩)

/-- What may follow the digits of a number, and its fraction. -/
theorem numeral_exponent (read after : List Char) :
    Numeral read after (match after with
      | 'e' :: more => do
        let (tail, after) ← power more
        pure (withFloatMark (read ++ 'e' :: tail) after)
      | 'E' :: more => do
        let (tail, after) ← power more
        pure (withFloatMark (read ++ 'E' :: tail) after)
      | after => pure (withFloatMark read after)) := by
  split
  · exact numeral_powered read (by decide) _
  · exact numeral_powered read (by decide) _
  · exact numeral_withFloatMark read _

/-- A number with a point. -/
theorem numeral_point {cs whole rest : List Char}
    (hcut : digits Char.isDigit cs = .ok (whole, '.' :: rest)) :
    Numeral (whole ++ ['.']) rest (decimalNumber cs) := by
  have hfraction := numeral_digits digital_decimal rest
  unfold decimalNumber
  simp only [hcut, bind, Except.bind, pure, Except.pure]
  cases hrest : digits Char.isDigit rest with
  | error flaw =>
    rw [hrest] at hfraction
    exact hfraction
  | ok found =>
    obtain ⟨run, after⟩ := found
    rw [hrest] at hfraction
    obtain ⟨_, rfl, rfl, hrun⟩ := hfraction
    have hall := (numeral_exponent (whole ++ ['.'] ++ run) after).back hrun
    rw [List.append_assoc whole] at hall
    exact hall

theorem numeral_decimal {cs whole after : List Char}
    (hcut : digits Char.isDigit cs = .ok (whole, after)) :
    Numeral whole after (decimalNumber cs) := by
  cases after with
  | nil =>
    unfold decimalNumber
    simp only [hcut, bind, Except.bind, pure, Except.pure]
    exact ⟨[], (List.append_nil _).symm, rfl, fun c hc => nomatch hc⟩
  | cons c rest =>
    by_cases hdot : c = '.'
    · subst hdot
      exact (numeral_point hcut).back (List.forall_mem_singleton.2 (by decide))
    · unfold decimalNumber
      simp only [hcut, bind, Except.bind, pure, Except.pure]
      split
      · have hall := numeral_exponent (whole ++ []) (c :: rest)
        exact hall.back (fun d hd => nomatch hd)
      · exact ⟨[], (List.append_nil _).symm, rfl, fun c hc => nomatch hc⟩

theorem numeral_decimalNumber (cs : List Char) : Numeral [] cs (decimalNumber cs) := by
  have hdigits := numeral_digits digital_decimal cs
  cases hcut : digits Char.isDigit cs with
  | error flaw =>
    rw [hcut] at hdigits
    unfold decimalNumber
    simp only [hcut, bind, Except.bind]
    exact hdigits
  | ok found =>
    obtain ⟨whole, after⟩ := found
    have hafter := numeral_decimal hcut
    rw [hcut] at hdigits
    obtain ⟨_, rfl, rfl, hwhole⟩ := hdigits
    exact @Numeral.back [] whole after _ hafter hwhole

theorem numeral_hexPower (read after : List Char) : Numeral read after (hexPower read after) := by
  cases after with
  | nil => exact fun _ c hc => nomatch hc
  | cons p rest =>
    rw [hexPower]
    split
    · rename_i hp
      simp only [Bool.or_eq_true, decide_eq_true_eq] at hp
      have hmark : isNumeric p = true := by
        obtain rfl | rfl := hp <;> decide
      exact numeral_powered read hmark rest
    · exact fun hflaw => nomatch hflaw

theorem numeral_hexadecimalNumber (cs : List Char) : Numeral [] cs (hexadecimalNumber cs) := by
  have hexadecimal : Digital isHexDigit := fun _ h => h
  have hdigits := numeral_digits hexadecimal cs
  unfold hexadecimalNumber
  cases hcut : digits isHexDigit cs with
  | error flaw =>
    rw [hcut] at hdigits
    exact hdigits
  | ok found =>
    obtain ⟨whole, after⟩ := found
    rw [hcut] at hdigits
    obtain ⟨_, rfl, rfl, hwhole⟩ := hdigits
    refine Numeral.back ?_ hwhole
    simp only [bind, Except.bind, pure, Except.pure]
    split
    · rename_i rest
      have hfraction := numeral_digits hexadecimal rest
      cases hrest : digits isHexDigit rest with
      | error flaw =>
        rw [hrest] at hfraction
        exact fun hflaw => List.forall_mem_cons.2 ⟨by decide, hfraction hflaw⟩
      | ok found =>
        obtain ⟨run, after⟩ := found
        rw [hrest] at hfraction
        obtain ⟨_, rfl, rfl, hrun⟩ := hfraction
        exact (numeral_hexPower (whole ++ '.' :: run) after).back
          (List.forall_mem_cons.2 ⟨by decide, hrun⟩)
    · exact numeral_hexPower whole _
    · exact numeral_hexPower whole _
    · exact ⟨[], (List.append_nil _).symm, rfl, fun c hc => nomatch hc⟩

theorem Numeral.afterMark {cs : List Char} {cut : Except Flaw Cut} (h : Numeral [] cs cut)
    (mark : List Char) : Numeral mark cs (afterMark mark cut) := by
  cases cut with
  | error flaw => exact h
  | ok found =>
    obtain ⟨more, htext, hcs, hmore⟩ := h
    exact ⟨more, congrArg (mark ++ ·) htext, hcs, hmore⟩

theorem numeral_number (cs : List Char) : Numeral [] cs (number cs) := by
  have hzero : ∀ c ∈ ['0'], isNumeric c = true := List.forall_mem_singleton.2 (by decide)
  unfold number
  split
  · exact fun _ => hzero
  · rename_i c rest
    split
    · rename_i hx
      simp only [Bool.or_eq_true, decide_eq_true_eq] at hx
      have hmark : ∀ d ∈ ['0', c], isNumeric d = true := by
        obtain rfl | rfl := hx <;> exact List.all_eq_true.1 (by decide)
      exact ((numeral_hexadecimalNumber rest).afterMark ['0', c]).back hmark
    · split
      · rename_i hb
        simp only [Bool.or_eq_true, decide_eq_true_eq] at hb
        have hmark : ∀ d ∈ ['0', c], isNumeric d = true := by
          obtain rfl | rfl := hb <;> exact List.all_eq_true.1 (by decide)
        exact ((numeral_digits digital_binary rest).afterMark ['0', c]).back hmark
      · split
        · exact ((numeral_digits digital_octal (c :: rest)).afterMark ['0']).back hzero
        · exact numeral_decimalNumber _
  · exact numeral_decimalNumber _

/-! Progress -/

def Takes (cut : Except Flaw Cut) : Prop :=
  ∀ text rest, cut = .ok (text, rest) → text ≠ []

theorem Numeral.takes {read cs : List Char} {cut : Except Flaw Cut} (h : Numeral read cs cut)
    (hread : read ≠ []) : Takes cut := by
  rintro text rest rfl
  obtain ⟨more, rfl, _⟩ := h
  exact List.append_ne_nil_of_left_ne_nil hread more

theorem digits_ne_nil {c : Char} (hc : c.isDigit = true) {cs whole after : List Char}
    (h : digits Char.isDigit (c :: cs) = .ok (whole, after)) : whole ≠ [] := by
  rintro rfl
  simp only [digits, digitRun, hc, if_true] at h
  split at h <;> cases h

theorem digits_point (cs : List Char) : digits Char.isDigit ('.' :: cs) = .ok ([], '.' :: cs) := by
  have hrun : digitRun Char.isDigit ('.' :: cs) = ([], '.' :: cs) := by
    simp [digitRun]
  have hlong : marksLong ('.' :: cs) = false := by
    simp [marksLong]
  simp only [digits, hrun, hlong]
  rfl

theorem takes_decimalNumber {c : Char} (hc : c.isDigit = true ∨ c = '.') (cs : List Char) :
    Takes (decimalNumber (c :: cs)) := by
  cases hc with
  | inl hdigit =>
    cases hcut : digits Char.isDigit (c :: cs) with
    | error flaw =>
      unfold decimalNumber
      simp only [hcut, bind, Except.bind]
      exact fun _ _ h => nomatch h
    | ok found => exact (numeral_decimal hcut).takes (digits_ne_nil hdigit hcut)
  | inr hdot =>
    subst hdot
    exact (numeral_point (digits_point cs)).takes (by simp)

theorem takes_number {c : Char} (hc : c.isDigit = true) (cs : List Char) :
    Takes (number (c :: cs)) := by
  unfold number
  split
  · exact fun _ _ h => nomatch h
  · rename_i d rest
    split
    · exact ((numeral_hexadecimalNumber _).afterMark _).takes (List.cons_ne_nil _ _)
    · split
      · exact ((numeral_digits digital_binary _).afterMark _).takes (List.cons_ne_nil _ _)
      · split
        · exact ((numeral_digits digital_octal _).afterMark _).takes (List.cons_ne_nil _ _)
        · exact takes_decimalNumber (.inl (by decide)) _
  · exact takes_decimalNumber (.inl hc) _

/-! Quotations and comments -/

/-- A cut that gives an account of whatever is wrong. -/
def Accounted (cs : List Char) : Except Flaw Cut → Prop
  | .ok (text, rest) => text ++ rest = cs
  | .error flaw => flaw.isCutOff = false

theorem Accounted.front {cs front : List Char} {cut : Except Flaw Cut} (h : Accounted cs cut) :
    Accounted (front ++ cs) (afterMark front cut) := by
  cases cut with
  | error flaw => exact h
  | ok found =>
    show front ++ found.1 ++ found.2 = front ++ cs
    rw [List.append_assoc, h]

theorem accounted_quotation (quote : Char) (cs : List Char) :
    Accounted cs (quotation quote cs) := by
  fun_induction quotation quote cs with
  | case1 => rfl
  | case2 => rfl
  | case3 c rest _ ih => exact @Accounted.front rest ['\\', c] _ ih
  | case4 c rest _ => rfl
  | case5 => rfl
  | case6 c rest _ _ _ ih => exact @Accounted.front rest [c] _ ih

theorem accounted_blockComment (cs : List Char) : Accounted cs (blockComment cs) := by
  fun_induction blockComment cs with
  | case1 rest => rfl
  | case2 c rest _ ih => exact @Accounted.front rest [c] _ ih
  | case3 => rfl

theorem lineComment_parts (cs : List Char) : (lineComment cs).1 ++ (lineComment cs).2 = cs := by
  fun_induction lineComment cs with
  | case1 => rfl
  | case2 => rfl
  | case3 c rest _ text after hcut ih =>
    rw [hcut] at ih
    exact congrArg (c :: ·) ih

/-! Pieces -/

/-- A piece is the front of the text that it is found in. One that the end of the text cuts off is
a number, up to there. -/
def Fronts (cs : List Char) : Except Flaw Piece → Prop
  | .ok p => p.text ++ p.rest = cs ∧ p.text ≠ []
  | .error flaw => flaw.isCutOff = true → ∀ c ∈ cs, isNumeric c = true

theorem Numeral.fronts {cs : List Char} {cut : Except Flaw Cut} (h : Numeral [] cs cut)
    (htakes : Takes cut) : Fronts cs (piece (some .literal) cut) := by
  cases cut with
  | error flaw => exact h
  | ok found =>
    obtain ⟨_, rfl, hcs, _⟩ := h
    exact ⟨hcs, htakes _ _ rfl⟩

theorem Accounted.fronts {cs : List Char} {cut : Except Flaw Cut} (h : Accounted cs cut)
    {c : Char} {front : List Char} {kind : Option TokenKind} {free : kind ≠ some .identifier} :
    Fronts (c :: (front ++ cs)) (piece kind (afterMark (c :: front) cut) free) := by
  cases cut with
  | error flaw => exact fun hflaw => absurd hflaw (by rw [h]; decide)
  | ok found =>
    refine ⟨?_, List.cons_ne_nil _ _⟩
    show c :: (front ++ found.1) ++ found.2 = c :: (front ++ cs)
    rw [List.cons_append, List.append_assoc, h]

/-- A piece that is a mark of its own. -/
theorem fronts_mark {kind : Option TokenKind} {free : kind ≠ some .identifier} (c : Char)
    (mark rest : List Char) :
    Fronts (c :: mark ++ rest) (piece kind (.ok (c :: mark, rest)) free) :=
  ⟨rfl, List.cons_ne_nil _ _⟩

theorem operatorAt?_prefix {cs : List Char} {op : String} (h : operatorAt? cs = some op) :
    op.toList ++ cs.drop op.length = cs ∧ op.toList ≠ [] := by
  have hfront := List.find?_some h
  have hmem : op ∈ operators := List.mem_of_find?_eq_some h
  obtain ⟨after, rfl⟩ := List.isPrefixOf_iff_prefix.1 hfront
  refine ⟨?_, ?_⟩
  · rw [← String.length_toList, List.drop_left]
  · intro hempty
    obtain rfl : op = "" := String.toList_inj.1 hempty
    exact absurd hmem (by decide)

theorem fronts_pieceAt (c : Char) (rest : List Char) : Fronts (c :: rest) (pieceAt c rest) := by
  unfold pieceAt
  split
  · exact ⟨congrArg (c :: ·) List.takeWhile_append_dropWhile, List.cons_ne_nil _ _⟩
  · split
    · rename_i more _
      refine ⟨?_, List.cons_ne_nil _ _⟩
      exact congrArg (['/', '/'] ++ ·) (lineComment_parts more)
    · rename_i more _
      exact @Accounted.fronts more _ (accounted_blockComment more) '/' ['*'] _ _
    · exact fronts_mark '.' ['.', '.'] _
    · exact fronts_mark '@' [] _
    · split
      · rename_i hpoint
        simp only [Bool.and_eq_true, decide_eq_true_eq] at hpoint
        exact (numeral_decimalNumber _).fronts (takes_decimalNumber (.inr hpoint.1) rest)
      · split
        · exact fronts_mark c [] rest
        · split
          · exact @Accounted.fronts rest _ (accounted_quotation c rest) c [] _ _
          · split
            · rename_i hdigit
              exact (numeral_number _).fronts (takes_number hdigit rest)
            · split
              · exact ⟨congrArg (c :: ·) List.takeWhile_append_dropWhile, List.cons_ne_nil _ _⟩
              · split
                · rename_i op hop
                  exact operatorAt?_prefix hop
                · exact fun hflaw => nomatch hflaw

/-- What is left of a text gets shorter. -/
theorem length_le_of_taken {c : Char} {rest : List Char} {p : Piece} (h : pieceAt c rest = .ok p) :
    p.rest.length ≤ rest.length := by
  have hfront := fronts_pieceAt c rest
  rw [h] at hfront
  obtain ⟨happend, htext⟩ := hfront
  have hpositive : 0 < p.text.length := List.length_pos_iff.2 htext
  have hlength : p.text.length + p.rest.length = rest.length + 1 := by
    rw [← List.length_append, happend, List.length_cons]
  omega

/-! Whole texts -/

/-- What may be left of a text when pieces are taken from its front. -/
inductive LeftOver : List Char → List Char → Prop
  | all (cs : List Char) : LeftOver cs cs
  | after {c : Char} {rest left : List Char} {p : Piece} (taken : pieceAt c rest = .ok p)
      (more : LeftOver p.rest left) : LeftOver (c :: rest) left

theorem LeftOver.isSuffix {cs left : List Char} (h : LeftOver cs left) : left <:+ cs := by
  induction h with
  | all cs => exact List.suffix_refl cs
  | @after c rest left p taken _ ih =>
    have hfront := fronts_pieceAt c rest
    rw [taken] at hfront
    exact ih.trans ⟨p.text, hfront.1⟩

/-- The text ends within a number, at a place where its reader looks for one character more. -/
def CutOff (cs : List Char) : Prop :=
  ∃ c rest flaw, LeftOver cs (c :: rest) ∧ pieceAt c rest = .error flaw ∧ flaw.isCutOff = true

theorem CutOff.ends_in_number {cs : List Char} (h : CutOff cs) :
    ∃ number, number <:+ cs ∧ number ≠ [] ∧ ∀ c ∈ number, isNumeric c = true := by
  obtain ⟨c, rest, flaw, hleft, hpiece, hflaw⟩ := h
  have hnumeric := fronts_pieceAt c rest
  rw [hpiece] at hnumeric
  exact ⟨c :: rest, hleft.isSuffix, List.cons_ne_nil c rest, hnumeric hflaw⟩

theorem not_cutOff_nil : ¬CutOff [] := by
  intro h
  obtain ⟨number, hsuffix, hne, _⟩ := h.ends_in_number
  exact hne (List.suffix_nil.1 hsuffix)

theorem cutOff_of_taken {c : Char} {rest : List Char} {p : Piece} (h : pieceAt c rest = .ok p) :
    CutOff (c :: rest) ↔ CutOff p.rest := by
  constructor
  · rintro ⟨d, left, flaw, hleft, hpiece, hflaw⟩
    cases hleft with
    | all =>
      rw [h] at hpiece
      cases hpiece
    | after taken more =>
      obtain rfl := Except.ok.inj (h.symm.trans taken)
      exact ⟨d, left, flaw, more, hpiece, hflaw⟩
  · rintro ⟨d, left, flaw, hleft, hpiece, hflaw⟩
    exact ⟨d, left, flaw, .after h hleft, hpiece, hflaw⟩

theorem cutOff_of_flawed {c : Char} {rest : List Char} {flaw : Flaw}
    (h : pieceAt c rest = .error flaw) : CutOff (c :: rest) ↔ flaw.isCutOff = true := by
  constructor
  · rintro ⟨d, left, other, hleft, hpiece, hflaw⟩
    cases hleft with
    | all =>
      obtain rfl := Except.error.inj (h.symm.trans hpiece)
      exact hflaw
    | after taken _ =>
      rw [h] at taken
      cases taken
  · exact fun hflaw => ⟨c, rest, flaw, .all _, h, hflaw⟩

/-- A text has no tokens and no account of it is given. -/
def Untokened (outcome : Except LexFault (List Token)) : Prop :=
  ∃ fault, outcome = .error fault ∧ ∀ account, fault ≠ .unreadable account

theorem not_untokened_ok (ts : List Token) : ¬Untokened (.ok ts) := by
  rintro ⟨fault, heq, _⟩
  cases heq

theorem untokened_error {fault : LexFault} :
    Untokened (.error fault) ↔ ∀ account, fault ≠ .unreadable account := by
  constructor
  · rintro ⟨other, heq, hother⟩
    obtain rfl := Except.error.inj heq
    exact hother
  · exact fun hfault => ⟨fault, rfl, hfault⟩

theorem untokened_faultAt (place : Place) (cs : List Char) (flaw : Flaw) :
    Untokened (.error (faultAt place cs flaw)) ↔ flaw.isCutOff = true := by
  rw [untokened_error]
  cases flaw with
  | noPower found => cases found <;> simp [faultAt, account, Flaw.isCutOff]
  | _ => simp [faultAt, account, Flaw.isCutOff]

theorem untokened_cons (t : Token) (outcome : Except LexFault (List Token)) :
    Untokened (do
      let tokens ← outcome
      pure (t :: tokens)) ↔ Untokened outcome := by
  cases outcome with
  | error fault => exact Iff.rfl
  | ok ts => simp [Untokened, bind, Except.bind, pure, Except.pure]

/-- Only the end of a text within a number leaves it without tokens and without an account. -/
theorem untokened_tokensFrom_iff {fuel : Nat} {cs : List Char} (h : cs.length ≤ fuel)
    (place : Place) : Untokened (tokensFrom fuel place cs) ↔ CutOff cs := by
  induction fuel generalizing place cs with
  | zero =>
    obtain rfl := List.length_eq_zero_iff.1 (Nat.le_zero.1 h)
    exact iff_of_false (not_untokened_ok []) not_cutOff_nil
  | succ fuel ih =>
    cases cs with
    | nil => exact iff_of_false (not_untokened_ok []) not_cutOff_nil
    | cons c rest =>
      unfold tokensFrom
      cases hpiece : pieceAt c rest with
      | error flaw => rw [untokened_faultAt, cutOff_of_flawed hpiece]
      | ok p =>
        have hroom : p.rest.length ≤ fuel :=
          Nat.le_trans (length_le_of_taken hpiece) (Nat.le_of_succ_le_succ h)
        rw [cutOff_of_taken hpiece]
        obtain ⟨kind, text, after, sound⟩ := p
        cases kind with
        | none => exact ih hroom _
        | some kind => exact (untokened_cons _ _).trans (ih hroom _)

end BeanForge.Source

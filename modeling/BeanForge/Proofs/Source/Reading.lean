import BeanForge.Proofs.Source.Writing
import BeanForge.Source.Parse

/-!
# Readers on lexemes

A reader sees kinds and texts of tokens only, so what it yields is known from the lexemes that the
tokens spell. One law for each way to make readers; a repetition is followed round by round.
-/

namespace BeanForge.Source

/-! Tokens that spell lexemes -/

theorem Spells.length_eq {ts : List Token} {ls : List Lexeme} (h : Spells ts ls) :
    ts.length = ls.length := by
  have hlength := congrArg List.length h
  simpa only [List.length_map] using hlength

theorem Spells.drop {ts : List Token} {ls : List Lexeme} (h : Spells ts ls) (n : Nat) :
    Spells (ts.drop n) (ls.drop n) := by
  unfold Spells at h ⊢
  rw [List.map_drop, List.map_drop, h]

theorem Spells.cons_inv {ts : List Token} {l : Lexeme} {ls : List Lexeme}
    (h : Spells ts (l :: ls)) :
    ∃ t rest, ts = t :: rest ∧ t.kind = l.kind ∧ t.text = l.text ∧ Spells rest ls := by
  cases ts with
  | nil => cases h
  | cons t rest =>
    obtain ⟨hfirst, hrest⟩ := List.cons.inj h
    obtain ⟨hkind, htext⟩ := Prod.mk.inj hfirst
    exact ⟨t, rest, rfl, hkind, htext, hrest⟩

theorem Spells.nil_inv {ts : List Token} (h : Spells ts []) : ts = [] :=
  List.map_eq_nil_iff.1 h

namespace Parse

def Want.suits (l : Lexeme) : Want → Bool
  | .word text => l.text == text
  | .kind k => l.kind == k

def suitAll : List Want → List Lexeme → Bool
  | [], _ => true
  | _ :: _, [] => false
  | want :: wants, l :: ls => Want.suits l want && suitAll wants ls

theorem fits_of_spells {t : Token} {l : Lexeme} (hkind : t.kind = l.kind) (htext : t.text = l.text)
    (want : Want) : Want.fits t want = Want.suits l want := by
  cases want with
  | word text => rw [Want.fits, Want.suits, htext]
  | kind k => rw [Want.fits, Want.suits, hkind]

theorem fitAll_of_spells {ts : List Token} {ls : List Lexeme} (h : Spells ts ls)
    (wants : List Want) : fitAll wants ts = suitAll wants ls := by
  induction wants generalizing ts ls with
  | nil => cases ts <;> cases ls <;> rfl
  | cons want wants ih =>
    cases ls with
    | nil =>
      rw [h.nil_inv]
      rfl
    | cons l ls =>
      obtain ⟨t, rest, rfl, hkind, htext, hrest⟩ := h.cons_inv
      rw [fitAll, suitAll, fits_of_spells hkind htext, ih hrest]

/-! Readers -/

variable {α β : Type} {p : Parse α} {f : α → Parse β} {a : α} {b : β}
  {before between after : List Lexeme}

/-- From tokens with some lexemes a reader yields a value and leaves tokens with others. -/
def Reads (p : Parse α) (before : List Lexeme) (a : α) (after : List Lexeme) : Prop :=
  ∀ r, Spells r.left before → ∃ ts, p r = .ok (a, ⟨ts, r.mark⟩) ∧ Spells ts after

theorem reads_pure (a : α) (ls : List Lexeme) : Reads (pure a) ls a ls :=
  fun r h => ⟨r.left, rfl, h⟩

theorem Reads.bind (hp : Reads p before a between) (hf : Reads (f a) between b after) :
    Reads (p >>= f) before b after := by
  intro r hr
  obtain ⟨ts, hts, hspells⟩ := hp r hr
  obtain ⟨rest, hrest, hafter⟩ := hf ⟨ts, r.mark⟩ hspells
  refine ⟨rest, ?_, hafter⟩
  simp only [Bind.bind, hts]
  exact hrest

theorem Reads.map (g : α → β) (hp : Reads p before a after) : Reads (g <$> p) before (g a) after :=
  hp.bind (reads_pure _ _)

theorem Reads.discard (hp : Reads p before a after) : Reads (discard p) before () after :=
  hp.bind (reads_pure _ _)

/-! Marks -/

/-- As before, but the tokens that a failure would give back may be others afterwards. -/
def Leaves (p : Parse α) (before : List Lexeme) (a : α) (after : List Lexeme) : Prop :=
  ∀ r, Spells r.left before → ∃ s, p r = .ok (a, s) ∧ Spells s.left after

theorem Reads.leaves (hp : Reads p before a after) : Leaves p before a after := by
  intro r hr
  obtain ⟨ts, hts, hafter⟩ := hp r hr
  exact ⟨_, hts, hafter⟩

theorem Leaves.bind (hp : Leaves p before a between) (hf : Leaves (f a) between b after) :
    Leaves (p >>= f) before b after := by
  intro r hr
  obtain ⟨s, hs, hspells⟩ := hp r hr
  obtain ⟨t, ht, hafter⟩ := hf s hspells
  refine ⟨t, ?_, hafter⟩
  simp only [Bind.bind, hs]
  exact ht

theorem Leaves.run (hp : Leaves p before a after) {ts : List Token} (h : Spells ts before) :
    ∃ rest, p.run ts = .ok (a, rest) ∧ Spells rest after := by
  obtain ⟨s, hs, hafter⟩ := hp ⟨ts, ts⟩ h
  refine ⟨s.left, ?_, hafter⟩
  rw [Parse.run, hs]

theorem Reads.marked (hp : Reads p before a after) : Leaves (marked p) before a after := by
  intro r hr
  obtain ⟨ts, hts, hafter⟩ := hp { r with mark := r.left } hr
  exact ⟨_, hts, hafter⟩

/-- A reader that goes back to the mark in the end. -/
def Restores (p : Parse α) (before : List Lexeme) (a : α) : Prop :=
  ∀ r, Spells r.left before → p r = .ok (a, ⟨r.mark, r.mark⟩)

theorem restores_goBack (a : α) (ls : List Lexeme) : Restores (do goBack; pure a) ls a :=
  fun _ _ => rfl

theorem Reads.restores (hp : Reads p before a between) (hf : Restores (f a) between b) :
    Restores (p >>= f) before b := by
  intro r hr
  obtain ⟨ts, hts, hspells⟩ := hp r hr
  simp only [Bind.bind, hts]
  exact hf ⟨ts, r.mark⟩ hspells

theorem Restores.marked (hp : Restores p before a) : Leaves (marked p) before a before :=
  fun r hr => ⟨_, hp { r with mark := r.left } hr, hr⟩

/-! Looking ahead -/

theorem reads_looking (look : List Token → α) (h : ∀ ts, Spells ts before → look ts = a) :
    Reads (fun r => .ok (look r.left, r)) before a before := by
  intro r hr
  refine ⟨r.left, ?_, hr⟩
  show Except.ok (look r.left, r) = _
  rw [h r.left hr]

theorem reads_sees {wants : List Want} {ls : List Lexeme} {b : Bool} (h : suitAll wants ls = b) :
    Reads (sees wants) ls b ls :=
  reads_looking (fitAll wants) fun _ hts => (fitAll_of_spells hts wants).trans h

theorem reads_seesWord {text : String} {ls : List Lexeme} {b : Bool}
    (h : suitAll [.word text] ls = b) : Reads (seesWord text) ls b ls :=
  reads_sees h

theorem reads_seesKind {k : TokenKind} {ls : List Lexeme} {b : Bool}
    (h : suitAll [.kind k] ls = b) : Reads (seesKind k) ls b ls :=
  reads_sees h

def headText? (ls : List Lexeme) : Option String :=
  ls.head?.map Lexeme.text

theorem headText_of_spells {ts : List Token} {ls : List Lexeme} (h : Spells ts ls) :
    ts.head?.map Token.text = headText? ls := by
  cases ls with
  | nil =>
    rw [h.nil_inv]
    rfl
  | cons l ls =>
    obtain ⟨t, rest, rfl, _, htext, _⟩ := h.cons_inv
    exact congrArg some htext

theorem reads_word (ls : List Lexeme) : Reads word ls ((headText? ls).getD "") ls :=
  reads_looking (fun ts => (ts.head?.map Token.text).getD "") fun _ h => by
    rw [headText_of_spells h]

def beginsUse : List Lexeme → Bool
  | l :: ls => l.kind == .atSign && headText? ls != some "interface"
  | [] => false

theorem reads_seesAnnotationUse {ls : List Lexeme} {b : Bool} (hb : beginsUse ls = b) :
    Reads seesAnnotationUse ls b ls := by
  refine reads_looking isAnnotationAt fun ts h => ?_
  rw [← hb]
  cases ls with
  | nil =>
    rw [h.nil_inv]
    rfl
  | cons l ls =>
    obtain ⟨t, rest, rfl, hkind, _, hrest⟩ := h.cons_inv
    rw [isAnnotationAt, beginsUse, hkind, headText_of_spells hrest]

/-- How many tokens are left is known. -/
theorem reads_ahead {f : List Token → Parse β}
    (h : ∀ ts, ts.length = before.length → Reads (f ts) before b after) :
    Reads (ahead >>= f) before b after :=
  fun r hr => h r.left hr.length_eq r hr

/-! Taking -/

theorem reads_take {want : Want} {l : Lexeme} (ls : List Lexeme) (h : Want.suits l want = true) :
    Reads (take want) (l :: ls) l.text ls := by
  intro r hr
  obtain ⟨t, rest, hleft, hkind, htext, hrest⟩ := hr.cons_inv
  refine ⟨rest, ?_, hrest⟩
  have hfits : Want.fits t want = true := (fits_of_spells hkind htext want).trans h
  simp only [take, hleft, hfits, if_pos, htext]

theorem reads_expect (l : Lexeme) (ls : List Lexeme) : Reads (expect l.text) (l :: ls) () ls := by
  have hsuits : Want.suits l (.word l.text) = true := beq_self_eq_true l.text
  exact (reads_take ls hsuits).discard

theorem reads_accepts {wants : List Want} {ls : List Lexeme} (h : suitAll wants ls = true) :
    Reads (accepts wants) ls true (ls.drop wants.length) := by
  intro r hr
  refine ⟨r.left.drop wants.length, ?_, hr.drop _⟩
  rw [accepts, fitAll_of_spells hr, if_pos h]

theorem reads_refuses {wants : List Want} {ls : List Lexeme} (h : suitAll wants ls = false) :
    Reads (accepts wants) ls false ls := by
  intro r hr
  refine ⟨r.left, ?_, hr⟩
  rw [accepts, fitAll_of_spells hr, h]
  rfl

/-! Repetitions -/

inductive Rounds (more : Parse Bool) (p : Parse α) :
    List Lexeme → List α → List Lexeme → Prop where
  | stop {ls after : List Lexeme} (hstop : Reads more ls false after)
      (hlength : after.length ≤ ls.length) : Rounds more p ls [] after
  | round {ls inner rest after : List Lexeme} {a : α} {as : List α}
      (hmore : Reads more ls true inner) (hitem : Reads p inner a rest)
      (hlength : rest.length < ls.length) (hrest : Rounds more p rest as after) : Rounds more p ls (a :: as) after

theorem Rounds.length_le {more : Parse Bool} {ls : List Lexeme} {as : List α}
    (h : Rounds more p ls as after) : as.length + after.length ≤ ls.length := by
  induction h with
  | stop _ hlength => simpa using hlength
  | round _ _ hlength _ ih =>
    rw [List.length_cons]
    omega

theorem Rounds.repeatFrom {more : Parse Bool} {ls : List Lexeme} {as : List α}
    (h : Rounds more p ls as after) {bound : Nat} (hbound : as.length < bound) :
    Reads (repeatFrom bound more p) ls as after := by
  induction h generalizing bound with
  | stop hstop _ =>
    cases bound with
    | zero => cases hbound
    | succ bound => exact hstop.bind (reads_pure _ _)
  | round hmore hitem _ _ ih =>
    cases bound with
    | zero => cases hbound
    | succ bound =>
      rw [List.length_cons] at hbound
      exact hmore.bind (hitem.bind ((ih (by omega)).bind (reads_pure _ _)))

theorem Rounds.repeatWhile {more : Parse Bool} {ls : List Lexeme} {as : List α}
    (h : Rounds more p ls as after) : Reads (repeatWhile more p) ls as after := by
  intro r hr
  have hlength := h.length_le
  have hbound : as.length < r.left.length + 1 := by
    rw [hr.length_eq]
    omega
  exact h.repeatFrom hbound r hr

theorem reads_none {more : Parse Bool} {ls : List Lexeme} (h : Reads more ls false ls) :
    Reads (repeatWhile more p) ls [] ls :=
  (Rounds.stop h (Nat.le_refl _)).repeatWhile

/-! Lists of items -/

variable {γ : Type} {item : γ → List Lexeme} {value : γ → α} {next : List Lexeme → Prop}

def ReadsItem (next : List Lexeme → Prop) (p : Parse α) (item : List Lexeme) (a : α) : Prop :=
  ∀ after, next after → Reads p (item ++ after) a after

open Written

/-- What follows an item of a parted list: a mark, or what follows the list. -/
theorem next_of_parted {separator : Mark} (hmark : ∀ ls, next (.mark separator :: ls))
    (items : List (List Lexeme)) (hafter : next after) :
    next (items.flatMap (.mark separator :: ·) ++ after) := by
  cases items with
  | nil => exact hafter
  | cons item rest => exact hmark _

theorem rounds_parted (separator : Mark) (hmark : ∀ ls, next (.mark separator :: ls))
    {xs : List γ} (hitems : ∀ x ∈ xs, ReadsItem next p (item x) (value x)) (hafter : next after)
    (hstop : suitAll [.word separator.text] after = false) :
    Rounds (acceptsWord separator.text) p ((xs.map item).flatMap (.mark separator :: ·) ++ after)
      (xs.map value) after := by
  induction xs with
  | nil => exact .stop (reads_refuses hstop) (Nat.le_refl _)
  | cons x xs ih =>
    obtain ⟨hfirst, hrest⟩ := List.forall_mem_cons.1 hitems
    rw [List.map_cons, List.map_cons, List.flatMap_cons, List.cons_append, List.cons_append,
      List.append_assoc]
    have hmore : suitAll [.word separator.text] (.mark separator ::
        (item x ++ ((xs.map item).flatMap (.mark separator :: ·) ++ after))) = true := by
      simp [suitAll, Want.suits, Lexeme.text]
    refine .round (reads_accepts hmore) (hfirst _ (next_of_parted hmark _ hafter)) ?_ (ih hrest)
    simp only [List.length_cons, List.length_append]
    omega

theorem reads_separated (separator : Mark) (hmark : ∀ ls, next (.mark separator :: ls))
    {xs : List γ} (hne : xs ≠ []) (hitems : ∀ x ∈ xs, ReadsItem next p (item x) (value x))
    (hafter : next after) (hstop : suitAll [.word separator.text] after = false) :
    Reads (separated separator.text p) (parted separator (xs.map item) ++ after) (xs.map value)
      after := by
  cases xs with
  | nil => exact absurd rfl hne
  | cons x xs =>
    obtain ⟨hfirst, hrest⟩ := List.forall_mem_cons.1 hitems
    rw [List.map_cons, parted, List.append_assoc]
    refine (hfirst _ (next_of_parted hmark _ hafter)).bind ?_
    exact (rounds_parted separator hmark hrest hafter hstop).repeatWhile.bind (reads_pure _ _)

/-- Items one after the other, each of which is told by its beginning. -/
theorem rounds_flatten (next : List Lexeme → Prop) {more : Parse Bool} {xs : List γ}
    (hmore : ∀ x ∈ xs, ∀ ls, Reads more (item x ++ ls) true (item x ++ ls))
    (hne : ∀ x ∈ xs, item x ≠ []) (hnext : ∀ x ∈ xs, ∀ ls, next (item x ++ ls))
    (hitems : ∀ x ∈ xs, ReadsItem next p (item x) (value x)) (hafter : next after)
    (hstop : Reads more after false after) :
    Rounds more p ((xs.map item).flatten ++ after) (xs.map value) after := by
  induction xs with
  | nil => exact .stop hstop (Nat.le_refl _)
  | cons x xs ih =>
    rw [List.forall_mem_cons] at hmore hne hnext hitems
    rw [List.map_cons, List.map_cons, List.flatten_cons, List.append_assoc]
    have hrest : next ((xs.map item).flatten ++ after) := by
      cases xs with
      | nil => exact hafter
      | cons y ys =>
        rw [List.map_cons, List.flatten_cons, List.append_assoc]
        exact hnext.2 y List.mem_cons_self _
    refine .round (hmore.1 _) (hitems.1 _ hrest) ?_ (ih hmore.2 hne.2 hnext.2 hitems.2)
    have hpositive : 0 < (item x).length := List.length_pos_iff.2 hne.1
    simp only [List.length_append]
    omega

/-! Readings beyond the end -/

/-- From tokens with some lexemes a reader comes to ask for a token after the last. -/
def Exhausts (p : Parse α) (before : List Lexeme) : Prop :=
  ∀ r, Spells r.left before → ∃ stopped, p r = .error stopped ∧ stopped.halt = .exhausted none

/-- A reader that takes all tokens, and may ask for more. -/
def Drains (p : Parse α) (before : List Lexeme) : Prop :=
  ∀ r, Spells r.left before →
    (∃ stopped, p r = .error stopped ∧ stopped.halt = .exhausted none) ∨
      ∃ a s, p r = .ok (a, s) ∧ Spells s.left []

theorem exhausts_take (want : Want) : Exhausts (take want) [] := by
  intro r hr
  exact ⟨⟨.exhausted none, r.mark⟩, by simp only [take, hr.nil_inv], rfl⟩

theorem Exhausts.bind (hp : Exhausts p before) : Exhausts (p >>= f) before := by
  intro r hr
  obtain ⟨stopped, hstopped, hhalt⟩ := hp r hr
  exact ⟨stopped, by simp only [Bind.bind, hstopped], hhalt⟩

theorem Exhausts.marked (hp : Exhausts p before) : Exhausts (marked p) before :=
  fun r hr => hp { r with mark := r.left } hr

theorem Exhausts.drains (hp : Exhausts p before) : Drains p before :=
  fun r hr => .inl (hp r hr)

theorem Reads.exhausts (hp : Reads p before a between) (hf : Exhausts (f a) between) :
    Exhausts (p >>= f) before := by
  intro r hr
  obtain ⟨ts, hts, hspells⟩ := hp r hr
  simp only [Bind.bind, hts]
  exact hf ⟨ts, r.mark⟩ hspells

theorem Reads.drains (hp : Reads p before a between) (hf : Drains (f a) between) :
    Drains (p >>= f) before := by
  intro r hr
  obtain ⟨ts, hts, hspells⟩ := hp r hr
  simp only [Bind.bind, hts]
  exact hf ⟨ts, r.mark⟩ hspells

theorem drains_pure (a : α) : Drains (pure a) [] :=
  fun r hr => .inr ⟨a, r, rfl, hr⟩

theorem Drains.exhausts (hp : Drains p before) (hf : ∀ a, Exhausts (f a) []) :
    Exhausts (p >>= f) before := by
  intro r hr
  simp only [Bind.bind]
  obtain ⟨stopped, hstopped, hhalt⟩ | ⟨a, s, hs, hspells⟩ := hp r hr
  · exact ⟨stopped, by simp only [hstopped], hhalt⟩
  · simp only [hs]
    exact hf a s hspells

theorem Drains.bind (hp : Drains p before) (hf : ∀ a, Drains (f a) []) :
    Drains (p >>= f) before := by
  intro r hr
  simp only [Bind.bind]
  obtain ⟨stopped, hstopped, hhalt⟩ | ⟨a, s, hs, hspells⟩ := hp r hr
  · exact .inl ⟨stopped, by simp only [hstopped], hhalt⟩
  · simp only [hs]
    exact hf a s hspells

theorem Exhausts.run (hp : Exhausts p before) {ts : List Token} (h : Spells ts before) :
    p.run ts = .error (.exhausted none) := by
  obtain ⟨stopped, hstopped, hhalt⟩ := hp ⟨ts, ts⟩ h
  rw [Parse.run, hstopped, ← hhalt]

end Parse

end BeanForge.Source

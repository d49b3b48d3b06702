import BeanForge.Proofs.Text.Pieces
import BeanForge.Source.Grammar.Declarations

/-!
# Names in sources

What a reader yields wherever it succeeds. The declarations of a source have identifiers for names,
and its package is named by identifiers with dots between them, whatever else the source holds.
-/

namespace BeanForge.Source

open Text

/-! Identifiers -/

theorem continuesIdentifier_of_begins {c : Char} (h : beginsIdentifier c = true) :
    continuesIdentifier c = true := by
  simp only [beginsIdentifier, continuesIdentifier, Char.isAlphanum] at h ⊢
  split at h
  · rename_i hascii
    rw [if_pos hascii]
    simp only [Bool.or_eq_true] at h ⊢
    exact h.imp_left (Or.imp_left .inl)
  · rename_i hascii
    rw [if_neg hascii, if_neg hascii, h]
    rfl

theorem continues_of_isIdentifier {word : String} (h : isIdentifier word = true) {c : Char}
    (hc : c ∈ word.toList) : continuesIdentifier c = true := by
  rw [isIdentifier] at h
  cases hw : word.toList with
  | nil => simp [hw] at hc
  | cons first rest =>
    simp only [hw, Bool.and_eq_true, List.all_eq_true] at h hc
    rcases List.mem_cons.1 hc with rfl | hc
    · exact continuesIdentifier_of_begins h.1.1
    · exact h.1.2 c hc

theorem ne_empty_of_isIdentifier {word : String} (h : isIdentifier word = true) : word ≠ "" := by
  rintro rfl
  exact absurd h (by decide)

/-- Identifiers hold nothing that parts names or paths. -/
theorem not_mem_of_isIdentifier {word : String} (h : isIdentifier word = true) :
    '.' ∉ word.toList ∧ '/' ∉ word.toList ∧ Char.ofNat 0 ∉ word.toList := by
  refine ⟨fun hc => ?_, fun hc => ?_, fun hc => ?_⟩ <;>
    exact absurd (continues_of_isIdentifier h hc) (by decide)

/-! What readers yield -/

namespace Parse

variable {α β : Type} {P : α → Prop} {Q : β → Prop}

def Gives (P : α → Prop) (p : Parse α) : Prop :=
  ∀ r a r', p r = .ok (a, r') → P a

theorem gives_true (p : Parse α) : Gives (fun _ => True) p := fun _ _ _ _ => trivial

theorem gives_pure {a : α} (h : P a) : Gives P (pure a : Parse α) := by
  intro r b r' he
  obtain ⟨rfl, _⟩ := Prod.mk.inj (Except.ok.inj he)
  exact h

theorem Gives.bind {p : Parse α} {f : α → Parse β} (hp : Gives P p)
    (hf : ∀ a, P a → Gives Q (f a)) : Gives Q (p >>= f) := by
  intro r b r' he
  cases hr : p r with
  | error stopped => simp [Bind.bind, hr] at he
  | ok outcome =>
    obtain ⟨a, between⟩ := outcome
    simp only [Bind.bind, hr] at he
    exact hf a (hp r a between hr) between b r' he

/-- What is read before does not matter. -/
theorem Gives.after {p : Parse α} {f : α → Parse β} (hf : ∀ a, Gives Q (f a)) :
    Gives Q (p >>= f) :=
  (gives_true p).bind fun a _ => hf a

theorem Gives.map {p : Parse α} {f : α → β} (hp : Gives P p) (h : ∀ a, P a → Q (f a)) :
    Gives Q (f <$> p) :=
  hp.bind fun a ha => gives_pure (h a ha)

theorem gives_ite {c : Prop} [Decidable c] {p q : Parse α} (hp : Gives P p) (hq : Gives P q) :
    Gives P (if c then p else q) := by
  split
  · exact hp
  · exact hq

theorem Gives.marked {p : Parse α} (hp : Gives P p) : Gives P (marked p) :=
  fun _ a r' he => hp _ a r' he

theorem Gives.run {p : Parse α} (hp : Gives P p) {ts rest : List Token} {a : α}
    (h : p.run ts = .ok (a, rest)) : P a := by
  rw [Parse.run] at h
  split at h
  · cases h
  · rename_i b r he
    obtain ⟨rfl, _⟩ := Prod.mk.inj (Except.ok.inj h)
    exact hp _ b r he

theorem gives_halt (h : Halt) : Gives P (halt h : Parse α) := fun _ _ _ he => by cases he

theorem gives_illegal (description : String) : Gives P (illegal description : Parse α) :=
  .after fun _ => gives_halt _

theorem Gives.repeatFrom {p : Parse α} (hp : Gives P p) (more : Parse Bool) (bound : Nat) :
    Gives (fun all => ∀ a ∈ all, P a) (repeatFrom bound more p) := by
  induction bound with
  | zero => exact gives_pure (by simp)
  | succ bound ih =>
    refine .after fun goesOn => gives_ite ?_ (gives_pure (by simp))
    refine hp.bind fun a ha => ih.bind fun rest hrest => gives_pure ?_
    exact List.forall_mem_cons.2 ⟨ha, hrest⟩

theorem Gives.repeatWhile {p : Parse α} (hp : Gives P p) (more : Parse Bool) :
    Gives (fun all => ∀ a ∈ all, P a) (repeatWhile more p) :=
  fun r => hp.repeatFrom more _ r

theorem Gives.separated {p : Parse α} (hp : Gives P p) (separator : String) :
    Gives (fun all => all ≠ [] ∧ ∀ a ∈ all, P a) (separated separator p) :=
  hp.bind fun a ha => (hp.repeatWhile _).bind fun rest hrest =>
    gives_pure ⟨List.cons_ne_nil a rest, List.forall_mem_cons.2 ⟨ha, hrest⟩⟩

theorem gives_identifier : Gives (fun name => isIdentifier name = true) identifier := by
  intro r name r' he
  simp only [identifier, take] at he
  split at he
  · cases he
  · rename_i t rest _
    split at he
    · rename_i hfits
      obtain ⟨rfl, _⟩ := Prod.mk.inj (Except.ok.inj he)
      exact t.sound (beq_iff_eq.1 hfits)
    · cases he

end Parse

/-! Declarations -/

def IsDotted (name : String) : Prop :=
  ∃ parts : List String, parts ≠ [] ∧ (∀ part ∈ parts, isIdentifier part = true) ∧
    name = ".".intercalate parts

namespace Grammar

open Parse

theorem gives_qualifiedName : Gives IsDotted qualifiedName :=
  (gives_identifier.separated ".").bind fun parts h => gives_pure ⟨parts, h.1, h.2, rfl⟩

variable (b : Below)

def Named (d : Declaration) : Prop :=
  isIdentifier d.name = true

theorem gives_classType : Gives (fun name => isIdentifier name = true) (classType b) := by
  refine .after fun _ => gives_identifier.bind fun name hname => ?_
  exact .after fun _ => .after fun _ => .after fun _ => .after fun _ => gives_pure hname

theorem gives_enumType (member : Parse Unit) :
    Gives (fun name => isIdentifier name = true) (enumType b member) := by
  refine .after fun _ => gives_identifier.bind fun name hname => ?_
  -- Whether there are constants or not, what follows them is the same.
  have hrest : Gives (fun name => isIdentifier name = true) (do
      if ← acceptsWord ";" then
        discard (repeatWhile ((!·) <$> seesWord "\x7d") (classBodyDeclaration b member))
      expect "\x7d"
      pure name) :=
    .after fun _ => gives_ite (.after fun _ => .after fun _ => gives_pure hname)
      (.after fun _ => gives_pure hname)
  refine .after fun _ => .after fun _ => .after fun _ => gives_ite hrest ?_
  exact .after fun _ => .after fun _ => hrest

theorem gives_annotationType : Gives (fun name => isIdentifier name = true) (annotationType b) := by
  refine .after fun _ => .after fun _ => gives_identifier.bind fun name hname => ?_
  exact .after fun _ => .after fun _ => gives_pure hname

theorem gives_interfaceType :
    Gives (fun found => isIdentifier found.1 = true) (interfaceType b) := by
  refine .after fun _ => gives_identifier.bind fun name hname => ?_
  exact .after fun _ => .after fun _ => .after fun _ => .after fun _ => gives_pure hname

theorem gives_unmodified (member : Parse Unit) : Gives Named (unmodified b member) := by
  refine .after fun _ => gives_ite ((gives_classType b).bind fun _ h => gives_pure h) ?_
  refine .after fun _ => gives_ite ((gives_enumType b member).bind fun _ h => gives_pure h) ?_
  refine .after fun _ => gives_ite ((gives_interfaceType b).bind fun _ h => gives_pure h) ?_
  refine .after fun _ => gives_ite ((gives_annotationType b).bind fun _ h => gives_pure h) ?_
  exact gives_illegal _

theorem gives_declaration : Gives Named (declaration b) :=
  .after fun _ => (gives_unmodified b _).bind fun _ h => gives_pure h

theorem gives_topDeclaration :
    Gives (fun found => ∀ d, found = some d → Named d) (topDeclaration b) := by
  refine .after fun _ => gives_ite (gives_pure (by simp)) ((gives_declaration b).map ?_)
  rintro d hd _ ⟨⟩
  exact hd

theorem gives_declarations : Gives (fun all => ∀ d ∈ all, Named d) (declarations b) := by
  refine ((gives_topDeclaration b).repeatWhile _).bind fun found hfound => gives_pure ?_
  intro d hd
  obtain ⟨_, hmem, rfl⟩ := List.mem_filterMap.1 hd
  exact hfound _ hmem d rfl

theorem gives_packageName :
    Gives (fun package => ∀ name, package = some name → IsDotted name) (packageName b) := by
  have hrest : Gives (fun package => ∀ name, package = some name → IsDotted name) (do
      if ← acceptsWord "package" then
        let name ← qualifiedName
        expect ";"
        pure (some name)
      else
        goBack
        pure none) := by
    refine .after fun _ => gives_ite ?_ (.after fun _ => gives_pure (by simp))
    refine gives_qualifiedName.bind fun name hname => .after fun _ => gives_pure ?_
    rintro _ ⟨⟩
    exact hname
  exact .marked (.after fun _ => gives_ite (.after fun _ => hrest) hrest)

theorem gives_header :
    Gives (fun package => ∀ name, package = some name → IsDotted name) (header b) :=
  (gives_packageName b).bind fun _ h => .after fun _ => gives_pure h

end Grammar

end BeanForge.Source

import BeanForge.Proofs.Source.Types

/-!
# Annotations as they are read

A written annotation is read back with its name and the literal it is given, if any. Literals lie
two levels below the annotation.
-/

namespace BeanForge.Source

open Parse Written

namespace Written

def flagText : Bool → String
  | true => "true"
  | false => "false"

def Form.arguments : Form → Arguments
  | bare => .absent
  | named flag => .pairs [("id", .literal (flagText flag))]
  | alone flag => .single (.literal (flagText flag))

def Annotation.use (a : Annotation) : AnnotationUse :=
  ⟨dottedText (a.qualifiers ++ [a.name]), a.form.arguments⟩

end Written

namespace Grammar

theorem reads_qualifiedName {names : List Name} (hne : names ≠ []) {after : List Lexeme}
    (hdot : Lacks "." after) :
    Reads qualifiedName (dottedLexemes names ++ after) (dottedText names) after := by
  have hitems : ∀ name ∈ names,
      ReadsItem (fun _ => True) identifier [nameLexeme name] name.text :=
    fun name _ after _ => reads_identifier name after
  have hnames := reads_separated .dot (fun _ => trivial) hne hitems trivial hdot
  exact hnames.bind (reads_pure _ _)

/-! Literals -/

theorem reads_seesOneOf {words : List String} {ls : List Lexeme} {b : Bool}
    (h : words.contains ((headText? ls).getD "") = b) : Reads (seesOneOf words) ls b ls := by
  refine (reads_word ls).bind ?_
  rw [h]
  exact reads_pure b ls

theorem reads_seesSelector (l : Lexeme) (ls : List Lexeme) :
    Reads seesSelector (l :: ls) (l.text == "[" || l.text == ".") (l :: ls) := by
  rintro ⟨left, mark⟩ h
  obtain ⟨t, rest, hleft, _, htext, hrest⟩ := h.cons_inv
  obtain rfl : left = t :: rest := hleft
  refine ⟨t :: rest, ?_, h⟩
  rw [← htext]
  rfl

inductive Closes : List Lexeme → Prop where
  | parenthesis (ls : List Lexeme) : Closes (.mark .closeParenthesis :: ls)

theorem suitAll_flag {text : String} (htrue : "true" ≠ text) (hfalse : "false" ≠ text)
    (flag : Bool) (ls : List Lexeme) : suitAll [.word text] (flagLexeme flag :: ls) = false := by
  cases flag with
  | true => simp [suitAll, Want.suits, flagLexeme, Lexeme.text, htrue]
  | false => simp [suitAll, Want.suits, flagLexeme, Lexeme.text, hfalse]

theorem reads_primary (b : Below) (flag : Bool) :
    ReadsItem Closes (primary b) [flagLexeme flag] (.literal (flagText flag)) := by
  intro after _
  have hliteral : suitAll [.kind .literal] (flagLexeme flag :: after) = true := by
    cases flag <;> rfl
  have htext : (flagLexeme flag).text = flagText flag := by
    cases flag <;> rfl
  have hsuits : Want.suits (flagLexeme flag) (.kind .literal) = true := by
    cases flag <;> rfl
  have htake := reads_take after hsuits
  rw [htext] at htake
  exact (reads_seesKind hliteral).bind (htake.map Worth.literal)

theorem reads_plainOperand (b : Below) (flag : Bool) :
    ReadsItem Closes (plainOperand b) [flagLexeme flag] (.literal (flagText flag)) := by
  rintro _ ⟨after⟩
  refine (reads_primary b flag _ (.parenthesis after)).bind ?_
  refine (reads_none (reads_seesSelector _ after)).discard.bind ?_
  exact (reads_none (reads_seesOneOf rfl)).discard.bind (reads_pure _ _)

theorem reads_operand (b : Below) (flag : Bool) :
    ReadsItem Closes (operand b) [flagLexeme flag] (.literal (flagText flag)) := by
  intro after hafter
  have hleading : leadingOperators.contains
      ((headText? (flagLexeme flag :: after)).getD "") = false := by
    cases flag <;> rfl
  refine (reads_none (reads_seesOneOf hleading)).discard.bind ?_
  refine (reads_seesWord (suitAll_flag (by decide) (by decide) flag after)).bind ?_
  exact reads_plainOperand b flag after hafter

theorem reads_choice (b : Below) (flag : Bool) :
    ReadsItem Closes (choice b) [flagLexeme flag] (.literal (flagText flag)) := by
  rintro _ ⟨after⟩
  have hoperations : Reads (operations b) (flagLexeme flag :: .mark .closeParenthesis :: after)
      (.literal (flagText flag)) (.mark .closeParenthesis :: after) := by
    refine (reads_operand b flag _ (.parenthesis after)).bind ?_
    exact (reads_none (reads_seesOneOf rfl)).bind (reads_pure _ _)
  refine hoperations.bind ((reads_refuses rfl).bind ?_)
  refine Reads.bind (reads_seesWord (b := false) rfl) ?_
  exact (reads_refuses rfl).bind (reads_pure _ _)

theorem reads_elementValue (n : Nat) (flag : Bool) :
    ReadsItem Closes (elementValue (level (n + 1))) [flagLexeme flag]
      (.literal (flagText flag)) := by
  intro after hafter
  have huse : beginsUse (flagLexeme flag :: after) = false := by
    cases flag <;> rfl
  refine (reads_seesAnnotationUse huse).bind ?_
  refine (reads_refuses (suitAll_flag (by decide) (by decide) flag after)).bind ?_
  exact reads_choice (level n) flag after hafter

/-! Annotations -/

structure EndsAnnotation (after : List Lexeme) : Prop where
  parenthesis : Lacks "(" after
  dot : Lacks "." after

theorem reads_named (n : Nat) (flag : Bool) :
    ReadsItem Closes (annotationElement (level (n + 2)))
      [.word "id" (by decide), .mark .equals, flagLexeme flag]
      (.pairs [("id", .literal (flagText flag))]) := by
  rintro _ ⟨after⟩
  have hpair : suitAll [.kind .identifier, .word "="]
      (.word "id" (by decide) :: .mark .equals :: flagLexeme flag :: .mark .closeParenthesis ::
        after) = true := rfl
  have hname := reads_identifier ⟨"id", by decide⟩
    (.mark .equals :: flagLexeme flag :: .mark .closeParenthesis :: after)
  refine (reads_sees hpair).bind (Reads.map Arguments.pairs ?_)
  refine Reads.bind (a := ("id", .literal (flagText flag))) ?_
    ((reads_none (reads_refuses rfl)).bind (reads_pure _ _))
  refine hname.bind ((reads_expect (.mark .equals) _).bind ?_)
  exact (reads_elementValue n flag _ (.parenthesis after)).bind (reads_pure _ _)

theorem reads_alone (n : Nat) (flag : Bool) :
    ReadsItem Closes (annotationElement (level (n + 2))) [flagLexeme flag]
      (.single (.literal (flagText flag))) := by
  rintro _ ⟨after⟩
  have hpair : suitAll [.kind .identifier, .word "="]
      (flagLexeme flag :: .mark .closeParenthesis :: after) = false := by
    cases flag <;> rfl
  have hempty : suitAll [.word "\x7b", .word "\x7d"]
      (flagLexeme flag :: .mark .closeParenthesis :: after) = false := by
    cases flag <;> rfl
  refine (reads_sees hpair).bind ((reads_sees hempty).bind ?_)
  exact (reads_elementValue n flag _ (.parenthesis after)).map _

theorem reads_annotationUse (n : Nat) (a : Annotation) :
    ReadsItem EndsAnnotation (annotationUse (level (n + 2))) a.lexemes a.use := by
  intro after hafter
  obtain ⟨qualifiers, name, form⟩ := a
  have hne : qualifiers ++ [name] ≠ [] := by simp
  have hdot : Lacks "." (form.lexemes ++ after) := by
    cases form with
    | bare => exact hafter.dot
    | named flag => rfl
    | alone flag => rfl
  unfold Annotation.lexemes
  rw [List.cons_append, List.append_assoc]
  refine (reads_expect (.mark .atSign) _).bind ((reads_qualifiedName hne hdot).bind ?_)
  cases form with
  | bare => exact (reads_refuses hafter.parenthesis).bind (reads_pure _ _)
  | named flag =>
    refine Reads.bind (reads_accepts rfl) ?_
    refine Reads.bind (reads_seesWord (b := false) rfl) ?_
    refine (reads_named n flag _ (.parenthesis after)).bind ?_
    exact (reads_expect (.mark .closeParenthesis) after).bind (reads_pure _ _)
  | alone flag =>
    refine Reads.bind (reads_accepts rfl) ?_
    refine Reads.bind (reads_seesWord (suitAll_flag (by decide) (by decide) flag _)) ?_
    refine (reads_alone n flag _ (.parenthesis after)).bind ?_
    exact (reads_expect (.mark .closeParenthesis) after).bind (reads_pure _ _)

/-- What follows the annotations of a declaration is none of them, and no modifier. -/
structure EndsModifiers (after : List Lexeme) : Prop extends EndsAnnotation after where
  modifier : suitAll [.kind .modifier] after = false
  annotation : beginsUse after = false

theorem beginsUse_lexemes (a : Annotation) (ls : List Lexeme) :
    beginsUse (a.lexemes ++ ls) = true := by
  have hhead : ∃ name : Name, headText? (dottedLexemes (a.qualifiers ++ [a.name]) ++
      a.form.lexemes ++ ls) = some name.text := by
    cases hq : a.qualifiers with
    | nil => exact ⟨a.name, rfl⟩
    | cons first rest => exact ⟨first, rfl⟩
  obtain ⟨name, hname⟩ := hhead
  have hne : name.text ≠ "interface" := by
    intro h
    have hsound := name.sound
    rw [h] at hsound
    exact absurd hsound (by decide)
  unfold Annotation.lexemes
  rw [List.cons_append, beginsUse, hname]
  simp [Lexeme.kind, Mark.kind, hne]

/-- All annotations of a declaration. -/
theorem reads_declarationModifiers (n : Nat) (annotations : List Annotation) :
    ReadsItem EndsModifiers (declarationModifiers (level (n + 2)))
      (annotationsLexemes annotations) (annotations.map Annotation.use) := by
  intro after hafter
  have hsome : (annotations.map fun a => some a.use).filterMap id =
      annotations.map Annotation.use := by
    simp
  refine Reads.bind (a := annotations.map fun a => some a.use) (Rounds.repeatWhile
    (rounds_flatten EndsAnnotation ?more ?nonempty ?next ?items hafter.toEndsAnnotation ?stop)) ?_
  case more =>
    intro a _ ls
    refine Reads.bind (reads_seesKind (b := false) rfl) ?_
    exact (reads_seesAnnotationUse (beginsUse_lexemes a ls)).bind (reads_pure _ _)
  case nonempty => exact fun a _ => List.cons_ne_nil _ _
  case next => exact fun a _ ls => ⟨rfl, rfl⟩
  case items =>
    intro a _ ls hls
    refine Reads.bind (reads_seesKind (b := false) rfl) ?_
    exact (reads_annotationUse n a ls hls).map some
  case stop =>
    refine (reads_seesKind hafter.modifier).bind ?_
    exact (reads_seesAnnotationUse hafter.annotation).bind (reads_pure _ _)
  rw [hsome]
  exact reads_pure _ _

theorem annotationsLexemes_cons (a : Annotation) (rest : List Annotation) :
    annotationsLexemes (a :: rest) = a.lexemes ++ annotationsLexemes rest := rfl

/-- One annotation or more, and no modifiers. -/
theorem reads_annotations (n : Nat) {annotations : List Annotation} (hne : annotations ≠ [])
    {after : List Lexeme} (hafter : EndsModifiers after) :
    Reads (Grammar.annotations (level (n + 2))) (annotationsLexemes annotations ++ after)
      (annotations.map Annotation.use) after := by
  cases annotations with
  | nil => exact absurd rfl hne
  | cons a rest =>
    have hnext : EndsAnnotation (annotationsLexemes rest ++ after) := by
      cases rest with
      | nil => exact hafter.toEndsAnnotation
      | cons b more => exact ⟨rfl, rfl⟩
    rw [annotationsLexemes_cons, List.append_assoc]
    refine (reads_annotationUse n a _ hnext).bind ?_
    refine Reads.bind (a := rest.map Annotation.use) (Rounds.repeatWhile
      (rounds_flatten EndsAnnotation ?more ?nonempty ?next ?items hafter.toEndsAnnotation
        (reads_seesAnnotationUse hafter.annotation))) (reads_pure _ _)
    case more => exact fun b _ ls => reads_seesAnnotationUse (beginsUse_lexemes b ls)
    case nonempty => exact fun b _ => List.cons_ne_nil _ _
    case next => exact fun b _ ls => ⟨rfl, rfl⟩
    case items => exact fun b _ => reads_annotationUse n b

end Grammar

end BeanForge.Source

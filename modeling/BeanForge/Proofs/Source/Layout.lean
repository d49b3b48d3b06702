import BeanForge.Source.Lexer

/-!
# Layouts of a source

The words and marks of a source may be written with any blanks and comments around them. Only two
words, and marks that would make up a longer one, need something between them.
-/

namespace BeanForge.Source

open Text

/-! Words and marks -/

def isWord (text : String) : Bool :=
  match text.toList with
  | [] => false
  | c :: rest => beginsIdentifier c && rest.all continuesIdentifier

inductive Mark where
  | openParenthesis
  | closeParenthesis
  | openBrace
  | closeBrace
  | openBracket
  | closeBracket
  | semicolon
  | comma
  | dot
  | dots
  | less
  | greater
  | question
  | equals
  | atSign
  deriving Repr, DecidableEq

namespace Mark

def kind : Mark → TokenKind
  | dots | less | greater | question | equals => .operator
  | atSign => .atSign
  | _ => .separator

def text : Mark → String
  | openParenthesis => "("
  | closeParenthesis => ")"
  | openBrace => "\x7b"
  | closeBrace => "\x7d"
  | openBracket => "["
  | closeBracket => "]"
  | semicolon => ";"
  | comma => ","
  | dot => "."
  | dots => "..."
  | less => "<"
  | greater => ">"
  | question => "?"
  | equals => "="
  | atSign => "@"

end Mark

/-- What a source is written with, blanks and comments aside. -/
inductive Lexeme where
  | word (text : String) (sound : isWord text = true)
  | mark (m : Mark)
  deriving DecidableEq

namespace Lexeme

def kind : Lexeme → TokenKind
  | word text _ => wordKind text
  | mark m => m.kind

def text : Lexeme → String
  | word text _ => text
  | mark m => m.text

def isWord : Lexeme → Bool
  | word _ _ => true
  | mark _ => false

end Lexeme

def Spells (ts : List Token) (ls : List Lexeme) : Prop :=
  ts.map (fun t => (t.kind, t.text)) = ls.map fun l => (l.kind, l.text)

/-! Layouts -/

inductive Gap : List Char → Prop where
  | nil : Gap []
  | blank {c : Char} {cs : List Char} (hc : isBlank c = true) (hmore : Gap cs) : Gap (c :: cs)
  | line {text cs : List Char} (htext : '\n' ∉ text) (hmore : Gap cs) :
      Gap ('/' :: '/' :: (text ++ '\n' :: cs))
  | block {text cs : List Char} (htext : ¬['*', '/'] <:+: text) (hmore : Gap cs) :
      Gap ('/' :: '*' :: (text ++ '*' :: '/' :: cs))

/-- What may stand at the end of a source, where a comment needs no end of line. -/
inductive Ending : List Char → Prop where
  | gap {cs : List Char} (h : Gap cs) : Ending cs
  | comment {gap text : List Char} (h : Gap gap) (htext : '\n' ∉ text) :
      Ending (gap ++ '/' :: '/' :: text)

def joins : Lexeme → Lexeme → Bool
  | .word _ _, .word _ _ => true
  | .mark .dot, .mark .dot => true
  | .mark .dot, .mark .dots => true
  | .mark .less, .mark .less => true
  | .mark .less, .mark .equals => true
  | .mark .greater, .mark .equals => true
  | .mark .equals, .mark .equals => true
  | _, _ => false

/-- A text that is written with these lexemes and begins with the first of them. -/
inductive Lays : List Lexeme → List Char → Prop where
  | nil {cs : List Char} (h : Ending cs) : Lays [] cs
  | cons {l : Lexeme} {ls : List Lexeme} {gap cs : List Char} (hgap : Gap gap)
      (hparted : ∀ next ∈ ls.head?, joins l next = true → gap ≠ []) (hmore : Lays ls cs) :
      Lays (l :: ls) (l.text.toList ++ (gap ++ cs))

def LaidOut (ls : List Lexeme) (cs : List Char) : Prop :=
  ∃ gap body, Gap gap ∧ Lays ls body ∧ cs = gap ++ body

/-! Layouts with blanks -/

def spread : List Lexeme → List String → List Char
  | [], _ => []
  | l :: ls, gaps => l.text.toList ++ ((gaps.headD "").toList ++ spread ls gaps.tail)

/-- Whether only blanks stand there, and some wherever it matters. -/
def blanksPart : List Lexeme → List String → Bool
  | [], _ => true
  | l :: ls, gaps => (gaps.headD "").toList.all isBlank &&
    (!ls.head?.any (joins l) || gaps.headD "" != "") && blanksPart ls gaps.tail

theorem gap_of_blanks {cs : List Char} (h : cs.all isBlank = true) : Gap cs := by
  induction cs with
  | nil => exact .nil
  | cons c cs ih =>
    rw [List.all_cons, Bool.and_eq_true] at h
    exact .blank h.1 (ih h.2)

theorem lays_spread {ls : List Lexeme} {gaps : List String} (h : blanksPart ls gaps = true) :
    Lays ls (spread ls gaps) := by
  induction ls generalizing gaps with
  | nil => exact .nil (.gap .nil)
  | cons l ls ih =>
    simp only [blanksPart, Bool.and_eq_true, Bool.or_eq_true, Bool.not_eq_true', bne_iff_ne] at h
    obtain ⟨⟨hblank, hparted⟩, hmore⟩ := h
    refine .cons (gap_of_blanks hblank) (fun next hnext hjoins hempty => ?_) (ih hmore)
    cases hparted with
    | inl hnone =>
      rw [Option.mem_def] at hnext
      rw [hnext, Option.any_some, hjoins] at hnone
      cases hnone
    | inr hsome => exact hsome (String.toList_inj.1 hempty)

end BeanForge.Source

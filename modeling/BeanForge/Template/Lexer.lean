import BeanForge.Template.Number
import BeanForge.Template.Token
import BeanForge.Template.Unescape
import BeanForge.Text.Blank
import BeanForge.Text.CharClass
import BeanForge.Text.Decimal
import BeanForge.Text.Quoted

/-!
# Words of a template

A template is read in steps, each of which takes a piece off the text that is
left: text up to a tag, a tag's mark, or a word inside a tag. A minus sign at a
mark drops the blanks beside it, and a plus sign keeps those that the style
would drop.
-/

namespace BeanForge.Template

open Text

/-- Where the reading stands. -/
inductive Mode where
  | outside
  | comment
  | raw
  | block
  | print
  deriving Repr, DecidableEq

structure Reading where
  mode : Mode := .outside
  rest : List Char
  line : Nat := 1
  /-- The brackets that must be closed before the tag ends, innermost first. -/
  closers : List Char := []
  /-- Whether the piece read last ended its line. -/
  atLineStart : Bool := true
  /-- Whether the piece read last ended in a dot. -/
  afterDot : Bool := false

inductive Step where
  | finish
  | flaw (reason : String) (line : Nat)
  | next (tokens : List Token) (r : Reading)

def lineEnds (cs : List Char) : Nat :=
  cs.count '\n'

namespace Reading

/-- What is left to read once a piece is taken off. -/
def take (r : Reading) (cut : Cut) : Reading :=
  { r with
    rest := cut.2
    line := r.line + lineEnds cut.1
    atLineStart := cut.1.getLast? == some '\n'
    afterDot := cut.1.getLast? == some '.' }

def move (r : Reading) (mode : Mode) : Reading :=
  { r with mode }

end Reading

/-! Marks -/

def blanks (cs : List Char) : Cut :=
  (cs.takeWhile isBlank, cs.dropWhile isBlank)

/-- The sign that may follow the mark of a tag. -/
def sign : List Char → Cut
  | '-' :: rest => (['-'], rest)
  | '+' :: rest => (['+'], rest)
  | cs => ([], cs)

/-- A word with blanks around it. -/
def spacedWord? (word cs : List Char) : Option Cut :=
  let (before, cs) := blanks cs
  if word.isPrefixOf cs then
    let (after, rest) := blanks (cs.drop word.length)
    some (before ++ word ++ after, rest)
  else none

/-- The line end that goes with a block. -/
def trimmedEnd (style : Style) : List Char → Cut
  | '\n' :: rest => if style.trimBlocks then (['\n'], rest) else ([], '\n' :: rest)
  | cs => ([], cs)

/-- The end of a block or comment, whose mark is a percent or a number sign. -/
def close? (style : Style) (mark : Char) : List Char → Option Cut
  | '+' :: m :: '\x7d' :: rest =>
    if m = mark then some (['+', m, '\x7d'], rest) else none
  | '-' :: m :: '\x7d' :: rest =>
    if m = mark then some ((blanks rest).after ['-', m, '\x7d']) else none
  | m :: '\x7d' :: rest =>
    if m = mark then some ((trimmedEnd style rest).after [m, '\x7d']) else none
  | _ => none

def closePrint? : List Char → Option Cut
  | '-' :: '\x7d' :: '\x7d' :: rest => some ((blanks rest).after ['-', '\x7d', '\x7d'])
  | '\x7d' :: '\x7d' :: rest => some (['\x7d', '\x7d'], rest)
  | _ => none

/-- The beginning of a tag: what it opens, its sign, and the text it takes. -/
structure Opening where
  mode : Mode
  sign : List Char
  cut : Cut

/-- Raw text begins at once, so nothing but a plain end or one with a minus sign may follow. -/
def openRaw? : List Char → Option Opening
  | '\x7b' :: '%' :: rest => do
    let (sign, rest) := sign rest
    let (word, rest) ← spacedWord? ['r', 'a', 'w'] rest
    let front := '\x7b' :: '%' :: sign ++ word
    match rest with
    | '-' :: '%' :: '\x7d' :: rest =>
      pure ⟨.raw, sign, (blanks rest).after (front ++ ['-', '%', '\x7d'])⟩
    | '%' :: '\x7d' :: rest => pure ⟨.raw, sign, (front ++ ['%', '\x7d'], rest)⟩
    | _ => none
  | _ => none

def modeOf? (mark : Char) : Option Mode :=
  if mark = '%' then some .block
  else if mark = '\x7b' then some .print
  else if mark = '#' then some .comment
  else none

def open? (cs : List Char) : Option Opening :=
  match openRaw? cs with
  | some opening => some opening
  | none =>
    match cs with
    | '\x7b' :: mark :: rest =>
      (modeOf? mark).map fun mode => ⟨mode, (sign rest).1, (sign rest).after ['\x7b', mark]⟩
    | _ => none

/-- The text before the first tag, and the tag. -/
def findOpening : List Char → List Char × Option Opening
  | [] => ([], none)
  | c :: rest =>
    match open? (c :: rest) with
    | some opening => ([], some opening)
    | none => ((c :: (findOpening rest).1), (findOpening rest).2)

/-- The tag that ends raw text. -/
def closeRaw? (style : Style) : List Char → Option (List Char × Cut)
  | '\x7b' :: '%' :: rest => do
    let (sign, rest) := sign rest
    let (word, rest) ← spacedWord? ['e', 'n', 'd', 'r', 'a', 'w'] rest
    let cut ← close? style '%' rest
    pure (sign, cut.after ('\x7b' :: '%' :: sign ++ word))
  | _ => none

/-- The text before the first place where something is found. -/
def find {α : Type} (at? : List Char → Option α) : List Char → Option (List Char × α)
  | [] => none
  | c :: rest =>
    match at? (c :: rest) with
    | some a => some ([], a)
    | none => (find at? rest).map fun (before, a) => (c :: before, a)

/-- The text without the blanks after its last line end, if there are only blanks. -/
def dropIndent (atLineStart : Bool) (text : List Char) : List Char :=
  let last := text.reverse.takeWhile (· ≠ '\n')
  let before := (text.reverse.dropWhile (· ≠ '\n')).reverse
  if (atLineStart || !before.isEmpty) && last.all isBlank then before else text

/-- The text that is kept before a tag. -/
def kept (style : Style) (r : Reading) (mode : Mode) (sign text : List Char) : List Char :=
  if sign = ['-'] then trimRight text
  else if sign = ['+'] then text
  else if style.stripLines && mode ≠ .print then dropIndent r.atLineStart text
  else text

def data (text : List Char) (line : Nat) : List Token :=
  if text.isEmpty then [] else [⟨.data, String.ofList text, line⟩]

/-! Steps outside of tags -/

def stepOutside (style : Style) (r : Reading) : Step :=
  match r.rest with
  | [] => .finish
  | _ =>
    match findOpening r.rest with
    | (text, none) => .next (data text r.line) (r.take (text, []))
    | (text, some opening) =>
      let tokens := data (kept style r opening.mode opening.sign text) r.line
      let atTag := r.take (text, opening.cut.1 ++ opening.cut.2)
      let inside := (atTag.take opening.cut).move opening.mode
      match opening.mode with
      | .block => .next (tokens ++ [⟨.blockBegin, "", atTag.line⟩]) inside
      | .print => .next (tokens ++ [⟨.variableBegin, "", atTag.line⟩]) inside
      | _ => .next tokens inside

def stepComment (style : Style) (r : Reading) : Step :=
  match r.rest with
  | [] => .finish
  | _ =>
    match find (close? style '#') r.rest with
    | none => .flaw "Missing end of comment tag" r.line
    | some (text, cut) => .next [] ((r.take (cut.after text)).move .outside)

def stepRaw (style : Style) (r : Reading) : Step :=
  match r.rest with
  | [] => .finish
  | _ =>
    match find (closeRaw? style) r.rest with
    | none => .flaw "Missing end of raw directive" r.line
    | some (text, sign, cut) =>
      .next (data (kept style r .raw sign text) r.line) ((r.take (cut.after text)).move .outside)

/-! Words inside tags -/

/-- What a word is and the text it takes. -/
structure Word where
  kind : TokenKind
  cut : Cut

/-- A text up to its closing quote; a backslash takes the next character with it. -/
def quotation (quote : Char) : List Char → Option Cut
  | [] => none
  | ['\\'] => none
  | '\\' :: c :: rest => (quotation quote rest).map (Cut.after ['\\', c])
  | c :: rest =>
    if c = quote then some ([c], rest) else (quotation quote rest).map (Cut.after [c])

/-- Operators of two characters come first. -/
def operators : List (List Char) :=
  [['/', '/'], ['*', '*'], ['=', '='], ['!', '='], ['>', '='], ['<', '='], ['+'], ['-'], ['/'],
    ['*'], ['%'], ['~'], ['['], [']'], ['('], [')'], ['\x7b'], ['\x7d'], ['>'], ['<'], ['='],
    ['.'], [':'], ['|'], [','], [';']]

def operator? (cs : List Char) : Option Cut :=
  (operators.find? (·.isPrefixOf cs)).map fun op => (op, cs.drop op.length)

def decimalWord? (afterDot : Bool) (cs : List Char) : Option Word :=
  if afterDot then none else (decimal? cs).map (⟨.float, ·⟩)

def nameWord? (cs : List Char) : Option Word :=
  (nonempty? (cs.takeWhile isWordChar, cs.dropWhile isWordChar)).map (⟨.name, ·⟩)

def stringWord? : List Char → Option Word
  | c :: rest =>
    if c = '\'' || c = '"' then (quotation c rest).map fun cut => ⟨.string, cut.after [c]⟩ else none
  | [] => none

/-- The word at the front of a text. -/
def word? (afterDot : Bool) (cs : List Char) : Option Word :=
  (decimalWord? afterDot cs).or <| ((integer? cs).map (⟨.integer, ·⟩)).or <|
    (nameWord? cs).or <| (stringWord? cs).or <| (operator? cs).map (⟨.operator, ·⟩)

def closerOf? (c : Char) : Option Char :=
  if c = '(' then some ')'
  else if c = '[' then some ']'
  else if c = '\x7b' then some '\x7d'
  else none

/-- The brackets left open after an operator, or why it cannot stand here. -/
def balance (closers : List Char) (op : List Char) : Except String (List Char) :=
  match op with
  | [c] =>
    match closerOf? c with
    | some closer => .ok (closer :: closers)
    | none =>
      if c = ')' || c = ']' || c = '\x7d' then
        match closers with
        | [] => .error ("unexpected '" ++ String.singleton c ++ "'")
        | closer :: outer =>
          if closer = c then .ok outer
          else .error ("unexpected '" ++ String.singleton c ++ "', expected '" ++
            String.singleton closer ++ "'")
      else .ok closers
  | _ => .ok closers

/-- The value of a string between its quotes, with escapes undone. -/
def stringValue (text : List Char) : Except EscapeFault String :=
  (unescape (text.drop 1).dropLast).map String.ofList

def isName : List Char → Bool
  | c :: rest => beginsName c && rest.all continuesName
  | [] => false

def plainDigits (text : List Char) : String :=
  String.ofList (text.filter (· ≠ '_'))

def stepWord (r : Reading) (w : Word) : Step :=
  let text := w.cut.1
  let token (text : String) : Step := .next [⟨w.kind, text, r.line⟩] (r.take w.cut)
  match w.kind with
  | .name =>
    if isName text then token (String.ofList text)
    else .flaw "Invalid character in identifier" r.line
  | .string =>
    match stringValue text with
    | .ok value => token value
    | .error e => .flaw e.message r.line
  | .operator =>
    match balance r.closers text with
    | .ok closers =>
      .next [⟨.operator, String.ofList text, r.line⟩] { r.take w.cut with closers }
    | .error reason => .flaw reason r.line
  | .integer =>
    let digits := plainDigits text
    if (integerFault? digits.toList).isSome then .next [⟨.badInteger, digits, r.line⟩] (r.take w.cut)
    else token digits
  | _ =>
    let digits := plainDigits text
    if (fractionFault? none digits.toList).isSome then
      .next [⟨.badFloat, digits, r.line⟩] (r.take w.cut)
    else token digits

/-- The end of a tag, which does not count while brackets are open. -/
def closeTag? (style : Style) (r : Reading) : Option Cut :=
  if r.closers.isEmpty then
    if r.mode = .print then closePrint? r.rest else close? style '%' r.rest
  else none

def endKind (mode : Mode) : TokenKind :=
  if mode = .print then .variableEnd else .blockEnd

/-- `total` is the length of the whole text. -/
def stepTag (style : Style) (total : Nat) (r : Reading) : Step :=
  match r.rest with
  | [] => .finish
  | c :: rest =>
    match closeTag? style r with
    | some cut => .next [⟨endKind r.mode, "", r.line⟩] ((r.take cut).move .outside)
    | none =>
      if isBlank c then .next [] (r.take (blanks (c :: rest)))
      else match word? r.afterDot (c :: rest) with
        | some w => stepWord r w
        | none =>
          .flaw ("unexpected char " ++ quoted (String.singleton c) ++ " at " ++
            String.ofList (natDigits (total - (rest.length + 1)))) r.line

def step (style : Style) (total : Nat) (r : Reading) : Step :=
  match r.mode with
  | .outside => stepOutside style r
  | .comment => stepComment style r
  | .raw => stepRaw style r
  | .block | .print => stepTag style total r

/-- Each step but the last takes a character, so `bound` counts characters. The end stands on the
line of the last token. -/
def tokensFrom (style : Style) (total : Nat) : Nat → Reading → Nat → List Token
  | 0, _, last => [⟨.finish, "", last⟩]
  | bound + 1, r, last =>
    match step style total r with
    | .finish => [⟨.finish, "", last⟩]
    | .flaw reason line => [⟨.flaw, reason, line⟩]
    | .next tokens r =>
      tokens ++ tokensFrom style total bound r ((tokens.getLast?.map (·.line)).getD last)

def tokens (style : Style) (text : String) : List Token :=
  let cs := unifyNewlines text.toList
  tokensFrom style cs.length (cs.length + 1) { rest := cs } 1

end BeanForge.Template

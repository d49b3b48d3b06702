import BeanForge.Source.Token
import BeanForge.Text.Blank
import BeanForge.Text.CharClass
import BeanForge.Text.Half
import BeanForge.Text.Hex

/-!
# Words of a source text

Escapes of characters are undone first; then the text falls into blanks,
comments and tokens. Each piece is found from the text that is left, and lines
are counted in blanks and comments only.
-/

namespace BeanForge.Source

open Text

/-- Why a text has no tokens. -/
inductive LexFault where
  /-- The account of a character that no token begins with, or of an unfinished token. -/
  | unreadable (account : String)
  /-- A number stops where a digit must follow. -/
  | numberCutOff
  /-- A number with a fraction stops where its power must follow. -/
  | powerMissing
  /-- An escape asks for a character with a number below zero. -/
  | noCharacter
  deriving Repr, DecidableEq

/-! Character escapes -/

/-- Digits that may be parted by single underscores. -/
def partedDigits : List Char → Option (List Char)
  | [] => none
  | [c] => if isHexDigit c then some [c] else none
  | c :: '_' :: rest => if isHexDigit c then (c :: ·) <$> partedDigits rest else none
  | c :: rest => if isHexDigit c then (c :: ·) <$> partedDigits rest else none

/-- The digits after a base mark, which one underscore may follow. -/
def markedDigits : List Char → Option (List Char)
  | '_' :: rest => partedDigits rest
  | rest => partedDigits rest

def unsignedNumber? : List Char → Option Nat
  | '0' :: 'x' :: rest => (markedDigits rest).map hexNumber
  | '0' :: 'X' :: rest => (markedDigits rest).map hexNumber
  | rest => (partedDigits rest).map hexNumber

/-- Blanks and digits outside ASCII count as those inside. -/
def asciiForm (c : Char) : Char :=
  if c.toNat < 128 then c
  else if isBlank c then ' '
  else match decimalValue? c with
    | some n => Char.ofNat (48 + n)
    | none => '?'

def isAsciiBlank (c : Char) : Bool :=
  c = ' ' || (9 ≤ c.toNat && c.toNat ≤ 13)

/-- The number written by up to four characters, which may have a sign. -/
def escapeNumber? (code : List Char) : Option Int :=
  let cs := (code.map asciiForm).dropWhile isAsciiBlank
  match (cs.reverse.dropWhile isAsciiBlank).reverse with
  | '+' :: rest => (unsignedNumber? rest).map Int.ofNat
  | '-' :: rest => (unsignedNumber? rest).map fun n => -Int.ofNat n
  | rest => (unsignedNumber? rest).map Int.ofNat

/-- Why the escapes of a text cannot be undone. -/
inductive EscapeFault where
  | noNumber (code : List Char)
  | belowZero
  deriving Repr, DecidableEq

/-- The text with its escapes undone. `kept` holds the characters since the last escape in reverse;
an escape that the end cuts off gives them twice. -/
def undoEscapes (kept : List Char) : List Char → Except EscapeFault (List Char)
  | [] => .ok kept.reverse
  | '\\' :: 'u' :: rest =>
    match h : rest.dropWhile (· = 'u') with
    | [] => .ok (kept.reverse ++ kept.reverse ++ '\\' :: 'u' :: rest)
    | c :: more =>
      have : more.length < rest.length := by
        have hle := (List.dropWhile_sublist (· = 'u') (l := rest)).length_le
        rw [h, List.length_cons] at hle
        omega
      match escapeNumber? (c :: more.take 3) with
      | none => .error (.noNumber (c :: more.take 3))
      | some n =>
        if n < 0 then .error .belowZero
        else do
          let tail ← undoEscapes [] (more.drop 3)
          pure (kept.reverse ++ charOf n.toNat :: tail)
  | '\\' :: c :: rest => undoEscapes (c :: '\\' :: kept) rest
  | c :: rest => undoEscapes (c :: kept) rest
termination_by cs => cs.length
decreasing_by
  all_goals simp_wf
  all_goals omega

/-! Pieces -/

/-- Why no piece begins here. -/
inductive Flaw where
  | strange (c : Char)
  | openComment
  | openQuote
  | badEscape (c : Char)
  | noPower (found : Option Char)
  | cutOff
  deriving Repr, DecidableEq

/-- A piece of the text: `none` for blanks and comments. -/
structure Piece where
  kind : Option TokenKind
  text : List Char
  rest : List Char
  sound : kind = some .identifier → isIdentifier (String.ofList text) = true

/-- A part of the text and what follows it. -/
abbrev Cut := List Char × List Char

/-- Digits, with underscores between them. -/
def digitRun (isDigit : Char → Bool) : List Char → Cut
  | [] => ([], [])
  | c :: rest =>
    let (digits, after) := digitRun isDigit rest
    if isDigit c then (c :: digits, after)
    else if c = '_' && !digits.isEmpty then (c :: digits, after)
    else ([], c :: rest)

/-- Whether the digits end in the mark of a long number, underscores left aside. -/
def marksLong (after : List Char) : Bool :=
  match after.dropWhile (· = '_') with
  | c :: _ => c = 'l' || c = 'L'
  | [] => false

/-- Digits with the mark of a long number, where a character must be left to look at. -/
def digits (isDigit : Char → Bool) : List Char → Except Flaw Cut
  | [] => .error .cutOff
  | cs =>
    let (run, after) := digitRun isDigit cs
    .ok (if marksLong after then (run ++ after.take 1, after.drop 1) else (run, after))

def isSign (c : Char) : Bool :=
  c = '-' || c = '+'

def marksFloat (c : Char) : Bool :=
  c = 'f' || c = 'F' || c = 'd' || c = 'D'

/-- One character if it is of a kind. -/
def optionalChar (ok : Char → Bool) : List Char → Cut
  | c :: rest => if ok c then ([c], rest) else ([], c :: rest)
  | [] => ([], [])

/-- The power of a number: sign, digits and mark. -/
def power (cs : List Char) : Except Flaw Cut := do
  let (sign, cs) := optionalChar isSign cs
  let (run, cs) ← digits Char.isDigit cs
  pure (sign ++ run, cs)

def withFloatMark (read : List Char) (cs : List Char) : Cut :=
  let (mark, cs) := optionalChar marksFloat cs
  (read ++ mark, cs)

def decimalNumber (cs : List Char) : Except Flaw Cut := do
  let (whole, after) ← digits Char.isDigit cs
  match after with
  | [] => pure (whole, [])
  | c :: rest =>
    if c = '.' || c = 'e' || c = 'E' || marksFloat c then
      let (fraction, after) ←
        if c = '.' then (fun (run, cs) => ('.' :: run, cs)) <$> digits Char.isDigit rest
        else pure ([], after)
      match after with
      | 'e' :: more => do
        let (tail, after) ← power more
        pure (withFloatMark (whole ++ fraction ++ 'e' :: tail) after)
      | 'E' :: more => do
        let (tail, after) ← power more
        pure (withFloatMark (whole ++ fraction ++ 'E' :: tail) after)
      | after => pure (withFloatMark (whole ++ fraction) after)
    else pure (whole, after)

def hexPower (read : List Char) : List Char → Except Flaw Cut
  | [] => .error (.noPower none)
  | p :: rest =>
    if p = 'p' || p = 'P' then do
      let (tail, after) ← power rest
      pure (withFloatMark (read ++ p :: tail) after)
    else .error (.noPower (some p))

/-- What follows the mark of a hexadecimal number. -/
def hexadecimalNumber (cs : List Char) : Except Flaw Cut := do
  let (whole, after) ← digits isHexDigit cs
  match after with
  | '.' :: rest => do
    let (fraction, after) ← digits isHexDigit rest
    hexPower (whole ++ '.' :: fraction) after
  | 'p' :: _ => hexPower whole after
  | 'P' :: _ => hexPower whole after
  | after => pure (whole, after)

def isBinaryDigit (c : Char) : Bool :=
  c = '0' || c = '1'

def isOctalDigit (c : Char) : Bool :=
  48 ≤ c.toNat && c.toNat ≤ 55

def afterMark (mark : List Char) (cut : Except Flaw Cut) : Except Flaw Cut :=
  cut.map fun (text, rest) => (mark ++ text, rest)

def number : List Char → Except Flaw Cut
  | ['0'] => .error .cutOff
  | '0' :: c :: rest =>
    if c = 'x' || c = 'X' then afterMark ['0', c] (hexadecimalNumber rest)
    else if c = 'b' || c = 'B' then afterMark ['0', c] (digits isBinaryDigit rest)
    else if isOctalDigit c then afterMark ['0'] (digits isOctalDigit (c :: rest))
    else decimalNumber ('0' :: c :: rest)
  | cs => decimalNumber cs

def isEscapable (c : Char) : Bool :=
  "btnfru\"'\\".toList.contains c || isOctalDigit c

/-- The rest of a quoted text after its opening quote. -/
def quotation (quote : Char) : List Char → Except Flaw Cut
  | [] => .error .openQuote
  | ['\\'] => .error .openQuote
  | '\\' :: c :: rest =>
    if isEscapable c then (fun (text, after) => ('\\' :: c :: text, after)) <$> quotation quote rest
    else .error (.badEscape c)
  | c :: rest =>
    if c = quote then .ok ([c], rest)
    else (fun (text, after) => (c :: text, after)) <$> quotation quote rest

/-- The rest of a comment up to its end mark. -/
def blockComment : List Char → Except Flaw Cut
  | '*' :: '/' :: rest => .ok (['*', '/'], rest)
  | c :: rest => (fun (text, after) => (c :: text, after)) <$> blockComment rest
  | [] => .error .openComment

def lineComment : List Char → Cut
  | [] => ([], [])
  | c :: rest =>
    if c = '\n' then ([c], rest)
    else let (text, after) := lineComment rest; (c :: text, after)

def operatorAt? (cs : List Char) : Option String :=
  operators.find? fun op => op.toList.isPrefixOf cs

/-- A piece of a kind without rules of its own. -/
def piece (kind : Option TokenKind) (cut : Except Flaw Cut)
    (free : kind ≠ some .identifier := by decide) : Except Flaw Piece :=
  cut.map fun (text, rest) => ⟨kind, text, rest, fun h => absurd h free⟩

/-- The piece of a word, which goes on as long as an identifier does. -/
def wordPiece (c : Char) (rest : List Char) (begins : beginsIdentifier c = true) : Piece where
  kind := some (wordKind (String.ofList (c :: rest.takeWhile continuesIdentifier)))
  text := c :: rest.takeWhile continuesIdentifier
  rest := rest.dropWhile continuesIdentifier
  sound h := isIdentifier_ofList begins List.all_takeWhile (Option.some.inj h)

def skipping (front : List Char) (cut : Except Flaw Cut) : Except Flaw Piece :=
  piece none (afterMark front cut)

/-- The piece that begins with a character. -/
def pieceAt (c : Char) (rest : List Char) : Except Flaw Piece :=
  if isBlank c then
    piece none (.ok (c :: rest.takeWhile isBlank, rest.dropWhile isBlank))
  else match c, rest with
    | '/', '/' :: more => skipping ['/', '/'] (.ok (lineComment more))
    | '/', '*' :: more => skipping ['/', '*'] (blockComment more)
    | '.', '.' :: '.' :: more => piece (some .operator) (.ok (['.', '.', '.'], more))
    | '@', more => piece (some .atSign) (.ok (['@'], more))
    | c, rest =>
      if c = '.' && (rest.head?.map Char.isDigit).getD false then
        piece (some .literal) (decimalNumber (c :: rest))
      else if separators.contains c then piece (some .separator) (.ok ([c], rest))
      else if c = '\'' || c = '"' then
        piece (some .literal) (afterMark [c] (quotation c rest))
      else if c.isDigit then piece (some .literal) (number (c :: rest))
      else if begins : beginsIdentifier c then .ok (wordPiece c rest begins)
      else match operatorAt? (c :: rest) with
        | some op => piece (some .operator) (.ok (op.toList, (c :: rest).drop op.length))
        | none => .error (.strange c)

/-! The whole text -/

/-- Where the reading is: the characters before in reverse, the line, and the text that follows
the last token. -/
structure Place where
  passed : List Char := []
  line : Nat := 1
  sinceToken : List Char

/-- The line on which a flaw lies, shown without its blanks. The last line of a text without a
line end is shown without its last character. -/
def lineShown (passed rest : List Char) : String :=
  let before := (passed.takeWhile (· ≠ '\n')).reverse
  let after := rest.takeWhile (· ≠ '\n')
  let whole := before ++ after
  String.ofList (trim (if rest.contains '\n' then whole else whole.dropLast))

def account (what : String) (found : List Char) (line : Nat) (shown : String) : LexFault :=
  .unreadable (what ++ " at \"" ++ String.ofList found ++ "\", line " ++ toString line ++ ": " ++
    shown)

def faultAt (place : Place) (rest : List Char) (flaw : Flaw) : LexFault :=
  let shown := lineShown place.passed rest
  match flaw with
  | .strange c => account "Could not process token" [c] place.line shown
  | .openComment =>
    account "Unterminated block comment" (place.sinceToken.take 1) place.line shown
  | .openQuote =>
    account "Unterminated character/string literal" (place.sinceToken.take 1) place.line shown
  | .badEscape c => account "Illegal escape character" [c] place.line shown
  | .noPower (some c) => account "Invalid hex float literal" [c] place.line shown
  | .noPower none => .powerMissing
  | .cutOff => .numberCutOff

def lineEnds (cs : List Char) : Nat :=
  cs.count '\n'

/-- The tokens of a text; every piece takes a character, so `fuel` counts characters. -/
def tokensFrom : Nat → Place → List Char → Except LexFault (List Token)
  | _, _, [] => .ok []
  | 0, _, _ => .ok []
  | fuel + 1, place, c :: rest =>
    match pieceAt c rest with
    | .error flaw => .error (faultAt place (c :: rest) flaw)
    | .ok ⟨none, text, after, _⟩ =>
      tokensFrom fuel
        { place with passed := text.reverse ++ place.passed, line := place.line + lineEnds text }
        after
    | .ok ⟨some kind, text, after, sound⟩ => do
      let tokens ← tokensFrom fuel
        { place with passed := text.reverse ++ place.passed, sinceToken := after } after
      pure (⟨kind, String.ofList text, place.line, fun h => sound (congrArg some h)⟩ :: tokens)

/-- The first line of a text as a bad escape shows it. -/
def firstLineShown (cs : List Char) : String :=
  match cs with
  | '\n' :: _ => ""
  | cs => lineShown [] cs

def tokens (text : String) : Except LexFault (List Token) :=
  let cs := text.toList
  match undoEscapes [] cs with
  | .error (.noNumber code) => .error (account "Invalid unicode escape" code 1 (firstLineShown cs))
  | .error .belowZero => .error .noCharacter
  | .ok cs => tokensFrom cs.length { sinceToken := cs } cs

end BeanForge.Source

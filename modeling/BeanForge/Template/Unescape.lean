import BeanForge.Text.CharName
import BeanForge.Text.Half
import BeanForge.Text.Hex

/-!
# Escapes in template strings

A backslash in a string stands for a control character, a character by its
number or name, or itself when nothing known follows it.
-/

namespace BeanForge.Template

open Text

/-- Why the escapes of a string cannot be undone. -/
inductive EscapeFault where
  | atEnd
  | truncated (shape : String)
  | illegal
  | named
  | unknownName
  deriving Repr, DecidableEq

def EscapeFault.message : EscapeFault → String
  | atEnd => "\\ at end of string"
  | truncated shape => "truncated \\" ++ shape ++ " escape"
  | illegal => "illegal Unicode character"
  | named => "malformed \\N character escape"
  | unknownName => "unknown Unicode character name"

/-- Characters outside ASCII count as written by number, so no escape can begin at one. -/
def asciiForm (c : Char) : List Char :=
  let n := c.toNat
  if n < 128 then [c]
  else if n < 0x100 then '\\' :: 'x' :: hexFixed 2 n
  else if n < 0x10000 then '\\' :: 'u' :: hexFixed 4 n
  else '\\' :: 'U' :: hexFixed 8 n

def simpleEscape? (c : Char) : Option (List Char) :=
  match c with
  | '\n' => some []
  | '\\' => some ['\\']
  | '\'' => some ['\'']
  | '"' => some ['"']
  | 'a' => some [Char.ofNat 7]
  | 'b' => some [Char.ofNat 8]
  | 'f' => some [Char.ofNat 12]
  | 'n' => some ['\n']
  | 'r' => some ['\r']
  | 't' => some ['\t']
  | 'v' => some [Char.ofNat 11]
  | _ => none

def isOctal (c : Char) : Bool :=
  48 ≤ c.toNat && c.toNat ≤ 55

def octalNumber (cs : List Char) : Nat :=
  cs.foldl (fun n c => 8 * n + (c.toNat - 48)) 0

/-- The character of an escape with a fixed number of digits. -/
def byNumber (shape : String) (width : Nat) (cs : List Char) :
    Except EscapeFault (Char × List Char) :=
  let digits := cs.take width
  if digits.length = width && digits.all isHexDigit then
    let n := hexNumber digits
    if 0x110000 ≤ n then .error .illegal else .ok (charOf n, cs.drop width)
  else .error (.truncated shape)

/-- The character of an escape with a name in braces. -/
def byName : List Char → Except EscapeFault (Char × List Char)
  | '\x7b' :: rest =>
    let name := rest.takeWhile (· ≠ '\x7d')
    match rest.drop name.length with
    | [] => .error .named
    | _ :: after =>
      if name.isEmpty then .error .named
      else match charNamed? name with
        | some c => .ok (c, after)
        | none => .error .unknownName
  | _ => .error .named

/-- The shape and the width of an escape with a number, by its letter. -/
def numbered? (c : Char) : Option (String × Nat) :=
  if c = 'x' then some ("xXX", 2)
  else if c = 'u' then some ("uXXXX", 4)
  else if c = 'U' then some ("UXXXXXXXX", 8)
  else none

/-- Undo the escapes; each round takes a character, so `fuel` counts characters. -/
def unescapeFrom : Nat → List Char → Except EscapeFault (List Char)
  | 0, _ => .ok []
  | _, [] => .ok []
  | _, ['\\'] => .error .atEnd
  | fuel + 1, '\\' :: c :: rest => do
    match simpleEscape? c, numbered? c with
    | some cs, _ => (cs ++ ·) <$> unescapeFrom fuel rest
    | none, some (shape, width) => do
      let (c, rest) ← byNumber shape width rest
      (c :: ·) <$> unescapeFrom fuel rest
    | none, none =>
      if c = 'N' then do
        let (c, rest) ← byName rest
        (c :: ·) <$> unescapeFrom fuel rest
      else if isOctal c then
        let digits := c :: (rest.take 2).takeWhile isOctal
        (Char.ofNat (octalNumber digits) :: ·) <$>
          unescapeFrom fuel ((c :: rest).drop digits.length)
      else (fun cs => '\\' :: c :: cs) <$> unescapeFrom fuel rest
  | fuel + 1, c :: rest => (c :: ·) <$> unescapeFrom fuel rest

def unescape (cs : List Char) : Except EscapeFault (List Char) :=
  let cs := cs.flatMap asciiForm
  unescapeFrom cs.length cs

end BeanForge.Template

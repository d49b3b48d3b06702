import BeanForge.Binary64.Text
import BeanForge.Json.Basic
import BeanForge.Text.Half
import BeanForge.Text.Hex

/-!
# JSON texts

A value is written on one line, with characters outside ASCII as they are or as
one or two UTF-16 units, or as an indented text of ASCII characters only. Numbers
that are infinite, and what is no number, have names.
-/

namespace BeanForge.Json

open Text

def unitEscape (n : Nat) : List Char :=
  '\\' :: 'u' :: hexFixed 4 n

/-- The escape of a character that has a short one. -/
def shortEscape? (c : Char) : Option (List Char) :=
  if c = '"' then some ['\\', '"']
  else if c = '\\' then some ['\\', '\\']
  else if c = '\n' then some ['\\', 'n']
  else if c = '\r' then some ['\\', 'r']
  else if c = '\t' then some ['\\', 't']
  else if c.toNat = 8 then some ['\\', 'b']
  else if c.toNat = 12 then some ['\\', 'f']
  else none

def plainChar (c : Char) : List Char :=
  match shortEscape? c with
  | some escape => escape
  | none => if c.toNat < 32 then unitEscape c.toNat else [c]

def asciiChar (c : Char) : List Char :=
  let n := numberOf c
  match shortEscape? c with
  | some escape => escape
  | none =>
    if 32 ≤ n && n < 127 then [c]
    else if n < 0x10000 then unitEscape n
    else unitEscape (0xD800 + (n - 0x10000) / 0x400) ++
      unitEscape (0xDC00 + (n - 0x10000) % 0x400)

def textOf (char : Char → List Char) (s : String) : List Char :=
  '"' :: s.toList.flatMap char ++ ['"']

def realDigits : Binary64 → List Char
  | .infinite negative => (if negative then ['-'] else []) ++ "Infinity".toList
  | .nan => "NaN".toList
  | x => x.digits

def scalar (char : Char → List Char) : Json → List Char
  | null => "null".toList
  | bool true => "true".toList
  | bool false => "false".toList
  | integer n => intDigits n
  | real x => realDigits x
  | string s => textOf char s
  | array _ => []
  | object _ => []

mutual

/-- The form on one line, with a blank after each comma and colon. -/
def line (char : Char → List Char) : Json → List Char
  | array items => '[' :: lineItems char items ++ [']']
  | object members => '\x7b' :: lineMembers char members ++ ['\x7d']
  | value => scalar char value

def lineItems (char : Char → List Char) : List Json → List Char
  | [] => []
  | [item] => line char item
  | item :: rest => line char item ++ ',' :: ' ' :: lineItems char rest

def lineMembers (char : Char → List Char) : List (String × Json) → List Char
  | [] => []
  | [(name, value)] => textOf char name ++ ':' :: ' ' :: line char value
  | (name, value) :: rest =>
    textOf char name ++ ':' :: ' ' :: line char value ++ ',' :: ' ' :: lineMembers char rest

end

def newline (depth : Nat) : List Char :=
  '\n' :: List.replicate (2 * depth) ' '

mutual

/-- The indented form at a depth; empty arrays and objects stay on their line. -/
def indented (depth : Nat) : Json → List Char
  | array [] => ['[', ']']
  | array items => '[' :: indentedItems (depth + 1) items ++ newline depth ++ [']']
  | object [] => ['\x7b', '\x7d']
  | object members => '\x7b' :: indentedMembers (depth + 1) members ++ newline depth ++ ['\x7d']
  | value => scalar asciiChar value

def indentedItems (depth : Nat) : List Json → List Char
  | [] => []
  | [item] => newline depth ++ indented depth item
  | item :: rest => newline depth ++ indented depth item ++ ',' :: indentedItems depth rest

def indentedMembers (depth : Nat) : List (String × Json) → List Char
  | [] => []
  | [(name, value)] =>
    newline depth ++ textOf asciiChar name ++ ':' :: ' ' :: indented depth value
  | (name, value) :: rest =>
    newline depth ++ textOf asciiChar name ++ ':' :: ' ' :: indented depth value ++
      ',' :: indentedMembers depth rest

end

def compact (value : Json) : String :=
  String.ofList (value.line plainChar)

/-- The form on one line, of ASCII characters only. -/
def ascii (value : Json) : String :=
  String.ofList (value.line asciiChar)

def pretty (value : Json) : String :=
  String.ofList (value.indented 0)

end BeanForge.Json

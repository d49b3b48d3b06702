import BeanForge.Text.CharClass

/-!
# Tokens of declaration sources

The words of a source text with the lines on which they begin. Comments and
blanks between the words are gone. A token that counts as an identifier is one.
-/

namespace BeanForge.Source

open Text

inductive TokenKind where
  | identifier
  | keyword
  | modifier
  | basicType
  | literal
  | separator
  | operator
  | atSign
  deriving Repr, DecidableEq

def modifiers : List String :=
  ["abstract", "default", "final", "native", "private", "protected", "public", "static",
    "strictfp", "synchronized", "transient", "volatile"]

def basicTypes : List String :=
  ["boolean", "byte", "char", "double", "float", "int", "long", "short"]

def keywords : List String :=
  ["assert", "break", "case", "catch", "class", "const", "continue", "do", "else", "enum",
    "extends", "finally", "for", "goto", "if", "implements", "import", "instanceof", "interface",
    "new", "package", "return", "super", "switch", "this", "throw", "throws", "try", "void",
    "while"]

/-- The words that stand for values. -/
def valueWords : List String := ["true", "false", "null"]

/-- What a word is; a word that is not reserved is an identifier. -/
def wordKind (word : String) : TokenKind :=
  if modifiers.contains word then .modifier
  else if basicTypes.contains word then .basicType
  else if keywords.contains word then .keyword
  else if valueWords.contains word then .literal
  else .identifier

/-- Whether a word can name something that is declared. -/
def isIdentifier (word : String) : Bool :=
  match word.toList with
  | [] => false
  | c :: rest =>
    beginsIdentifier c && rest.all continuesIdentifier && wordKind word == .identifier

theorem isIdentifier_ofList {c : Char} {rest : List Char} (hc : beginsIdentifier c = true)
    (hrest : rest.all continuesIdentifier = true)
    (hkind : wordKind (String.ofList (c :: rest)) = .identifier) :
    isIdentifier (String.ofList (c :: rest)) = true := by
  simp only [isIdentifier, String.toList_ofList, hc, hrest, hkind, Bool.and_self, beq_self_eq_true]

structure Token where
  kind : TokenKind
  text : String
  line : Nat
  sound : kind = .identifier → isIdentifier text = true
  deriving Repr, DecidableEq

def separators : List Char := ['(', ')', '\x7b', '\x7d', '[', ']', ';', ',', '.']

/-- The longer of two operators with one beginning comes first. A shift to the right is two
operators. -/
def operators : List String :=
  [">>>=", ">>=", "<<=", "...", "%=", "^=", "|=", "&=", "/=", "*=", "-=", "+=", "<<", "--", "++",
    "||", "&&", "!=", ">=", "<=", "==", "->", "::", "%", "^", "|", "&", "/", "*", "-", "+", ":",
    "?", "~", "!", "<", ">", "="]

/-- Operators between two operands. -/
def infixOperators : List String :=
  ["||", "&&", "|", "^", "&", "==", "!=", "<", ">", "<=", ">=", "<<", ">>", ">>>", "+", "-", "*",
    "/", "%"]

/-- Operators before an operand. -/
def leadingOperators : List String := ["++", "--", "!", "~", "+", "-"]

/-- Operators after an operand. -/
def trailingOperators : List String := ["++", "--"]

def assignmentOperators : List String :=
  ["=", "+=", "-=", "*=", "/=", "&=", "|=", "^=", "%=", "<<=", ">>=", ">>>="]

end BeanForge.Source

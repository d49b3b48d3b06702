import BeanForge.Text.Blank
import BeanForge.Text.FileName
import BeanForge.Text.Hex

/-!
# Paths

A path is where it starts and the names along it. Empty names and single dots
vanish when a path is read, so two texts may name one path.
-/

namespace BeanForge

/-- Where a path starts: in the working folder, or at one of the two roots. -/
inductive Anchor where
  | here
  | root
  | doubleRoot
  deriving Repr, DecidableEq

def Anchor.text : Anchor → String
  | here => ""
  | root => "/"
  | doubleRoot => "//"

structure Path where
  anchor : Anchor := .here
  names : List String := []
  deriving Repr, DecidableEq

namespace Path

open Text

def anchorOf : List Char → Anchor
  | '/' :: '/' :: '/' :: _ => .root
  | '/' :: '/' :: _ => .doubleRoot
  | '/' :: _ => .root
  | _ => .here

def namesOf (cs : List Char) : List String :=
  ((splitAt '/' cs).map String.ofList).filter fun name => name != "" && name != "."

def ofString (s : String) : Path :=
  ⟨anchorOf s.toList, namesOf s.toList⟩

def text (p : Path) : String :=
  if p.anchor = .here && p.names.isEmpty then "."
  else p.anchor.text ++ "/".intercalate p.names

/-- A path followed from another; one that starts at a root stands for itself. -/
def join (p q : Path) : Path :=
  if q.anchor = .here then ⟨p.anchor, p.names ++ q.names⟩ else q

def parent (p : Path) : Path :=
  { p with names := p.names.dropLast }

def child (p : Path) (name : String) : Path :=
  { p with names := p.names ++ [name] }

/-- The place of a name inside a folder. -/
def enter (folder : Path) (name : String) : Path :=
  folder.child (storedName name)

/-- The name that leads out of a folder. -/
def upName : String := ".."

/-- Whether a path leads nowhere but up. -/
def onlyUp (p : Path) : Bool :=
  p.names.all (· == upName)

/-- The folder around a place; the root is in itself. -/
def outer (p : Path) : Path :=
  if p.anchor = .here && p.onlyUp then p.child upName else p.parent

def isBelow (p root : Path) : Bool :=
  p.anchor == root.anchor && root.names.isPrefixOf p.names && root.names.length < p.names.length

/-- Bytes that stand for themselves in an address. -/
def isPlainByte (b : UInt8) : Bool :=
  let n := b.toNat
  (48 ≤ n && n ≤ 57) || (65 ≤ n && n ≤ 90) || (97 ≤ n && n ≤ 122) ||
    n == 95 || n == 46 || n == 45 || n == 126 || n == 47

def upperHex (n : Nat) : Char :=
  (hexDigit n).toUpper

def addressByte (b : UInt8) : List Char :=
  if isPlainByte b then [Char.ofNat b.toNat]
  else ['%', upperHex (b.toNat / 16), upperHex (b.toNat % 16)]

/-- The text inside an address; bytes other than letters, digits and a few signs are escaped. -/
def escaped (s : String) : String :=
  String.ofList ((fileBytes s.toList).flatMap addressByte)

/-- The address of the file, given the address of the working folder. -/
def address (p : Path) (workingFolder : String) : String :=
  match p.anchor with
  | .here =>
    "file://" ++ workingFolder ++
      String.join (p.names.map fun name => "/" ++ escaped name)
  | anchor => "file://" ++ anchor.text ++ escaped ("/".intercalate p.names)

/-- Paths are ordered name by name, and names by the numbers of their characters. -/
def le (p q : Path) : Bool :=
  let numbers (r : Path) : List (List Nat) := r.names.map fun name => name.toList.map numberOf
  p.names == q.names || decide (numbers p < numbers q)

end Path

end BeanForge

import BeanForge.Keyed
import BeanForge.Text.Blank

/-!
# Properties texts

A settings file is a list of entries, one a line. A key ends at `=`, `:` or a
blank; lines that begin with `#` or `!` are comments; a line that ends in an odd
number of backslashes goes on in the next one.
-/

namespace BeanForge.Properties

open Text

abbrev Entry := List Char × List Char

def isSeparator (c : Char) : Bool :=
  c = '=' || c = ':'

/-- What follows the key once a blank has ended it. -/
def valueAfterBlank (rest : List Char) : List Char :=
  match trimLeft rest with
  | [] => []
  | c :: more => if isSeparator c then trim more else trim (c :: more)

/-- The key and value of one entry; `key` holds what is read of the key, in reverse. -/
def splitEntry (key : List Char) : List Char → Entry
  | [] => (trim key.reverse, [])
  | c :: rest =>
    if isSeparator c then (trim key.reverse, trim rest)
    else if isBlank c then (trim key.reverse, valueAfterBlank (c :: rest))
    else splitEntry (c :: key) rest

def entryOf (line : List Char) : Entry :=
  splitEntry [] line

def isComment : List Char → Bool
  | [] => true
  | c :: _ => c = '#' || c = '!'

/-- Whether a line goes on in the next one. -/
def goesOn (line : List Char) : Bool :=
  (line.reverse.takeWhile (· = '\\')).length % 2 == 1

/-- The entries of the lines that follow an unfinished line. -/
def entriesFrom (unfinished : List Char) : List (List Char) → List Entry
  | [] => if unfinished = [] then [] else [entryOf unfinished]
  | raw :: rest =>
    let line := if unfinished = [] then trim raw else trimLeft raw
    if unfinished = [] && isComment line then entriesFrom [] rest
    else if goesOn line then entriesFrom (unfinished ++ line.dropLast) rest
    else entryOf (unfinished ++ line) :: entriesFrom [] rest

/-- A later value takes the place of an earlier one. -/
def collect (entries : List Entry) : List (String × String) :=
  Keyed.update [] (entries.map fun (key, value) => (String.ofList key, String.ofList value))

def parse (text : String) : List (String × String) :=
  collect (entriesFrom [] (lines text.toList))

end BeanForge.Properties

import BeanForge.Text.Blank
import BeanForge.Text.CharNameTable
import BeanForge.Text.Half
import BeanForge.Text.Hex

/-!
# Characters by name

A character is found by its name in any case. Ideographs are named by their
number, and Hangul syllables by the sounds that they are made of.
-/

namespace BeanForge.Text

/-- The character of a name in the table that are read run by run. -/
structure NameSearch where
  wanted : List (List Char)
  /-- The words of the name read last, and the number of the next character. -/
  words : List (List Char) := []
  next : Nat := 0
  found : Option Nat := none

namespace NameSearch

/-- Read one name, which begins with the count of words kept from the name before it. -/
def readName (s : NameSearch) : List Char → NameSearch
  | [] => s
  | count :: rest =>
    let words := s.words.take (count.toNat - 48) ++ splitAt ' ' rest
    { s with
      words
      next := s.next + 1
      found := if s.found.isNone && words == s.wanted then some s.next else s.found }

def readRun (s : NameSearch) (run : List Char) : NameSearch :=
  let first := hexNumber (run.takeWhile (· ≠ ':'))
  let names := (run.dropWhile (· ≠ ':')).drop 1
  (splitAt ';' names).foldl readName { s with words := [], next := first }

def readBlock (s : NameSearch) (lines : List String) : NameSearch :=
  if s.found.isSome then s else (splitAt '/' (lines.flatMap String.toList)).foldl readRun s

end NameSearch

def tabledChar? (name : List Char) : Option Nat :=
  (nameRuns.foldl NameSearch.readBlock { wanted := splitAt ' ' name }).found

/-- The character of one of the other names. -/
def otherNamed? (name : List Char) : Option Nat :=
  ((splitAt ';' (otherNames.flatMap String.toList)).find? fun entry =>
    (entry.dropWhile (· ≠ ':')).drop 1 == name).map fun entry =>
      hexNumber (entry.takeWhile (· ≠ ':'))

/-- What follows a word at the front of a name. -/
def afterWord? (word : String) (name : List Char) : Option (List Char) :=
  if word.toList.isPrefixOf name then some (name.drop word.length) else none

/-! Ideographs -/

/-- The numbers of the unified ideographs. -/
def ideographRanges : List (Nat × Nat) := [
  (0x3400, 0x4DBF), (0x4E00, 0x9FFF), (0x20000, 0x2A6DF), (0x2A700, 0x2B738), (0x2B740, 0x2B81D),
  (0x2B820, 0x2CEA1), (0x2CEB0, 0x2EBE0), (0x30000, 0x3134A)]

def ideograph? (name : List Char) : Option Nat := do
  let digits ← afterWord? "CJK UNIFIED IDEOGRAPH-" name
  let isNumber := (digits.length = 4 || digits.length = 5) &&
    digits.all fun c => isHexDigit c && !c.isLower
  let n := hexNumber digits
  if isNumber && ideographRanges.any (fun r => r.1 ≤ n && n ≤ r.2) then some n else none

/-! Hangul syllables -/

def leadSounds : List String :=
  ["G", "GG", "N", "D", "DD", "R", "M", "B", "BB", "S", "SS", "", "J", "JJ", "C", "K", "T", "P",
    "H"]

def vowelSounds : List String :=
  ["A", "AE", "YA", "YAE", "EO", "E", "YEO", "YE", "O", "WA", "WAE", "OE", "YO", "U", "WEO", "WE",
    "WI", "YU", "EU", "YI", "I"]

def tailSounds : List String :=
  ["", "G", "GG", "GS", "N", "NJ", "NH", "D", "L", "LG", "LM", "LB", "LS", "LT", "LP", "LH", "M",
    "B", "BS", "S", "SS", "NG", "J", "C", "K", "T", "P", "H"]

/-- The longest sound at the front of a name, and what follows it. -/
def longestSound? (sounds : List String) (name : List Char) : Option (Nat × List Char) :=
  let fits := (sounds.zipIdx.filter fun (sound, _) => sound.toList.isPrefixOf name)
  let best := fits.foldl (fun (best : Option (String × Nat)) entry =>
    match best with
    | some b => if b.1.length < entry.1.length then some entry else some b
    | none => some entry) none
  best.map fun (sound, index) => (index, name.drop sound.length)

def syllable? (name : List Char) : Option Nat := do
  let rest ← afterWord? "HANGUL SYLLABLE " name
  let (lead, rest) ← longestSound? leadSounds rest
  let (vowel, rest) ← longestSound? vowelSounds rest
  let (tail, rest) ← longestSound? tailSounds rest
  if rest.isEmpty then some (0xAC00 + (lead * 21 + vowel) * 28 + tail) else none

/-- The character with a name. -/
def charNamed? (name : List Char) : Option Char :=
  let upper := name.map Char.toUpper
  ((syllable? name).or <| (ideograph? name).or <| (otherNamed? upper).or (tabledChar? upper)).map
    charOf

end BeanForge.Text

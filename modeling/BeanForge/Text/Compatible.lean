import BeanForge.Text.Blank
import BeanForge.Text.CompatibleTable
import BeanForge.Text.Hex

/-!
# Spellings of names

Two spellings are one name when they agree once every character is replaced by
those it counts as and letters are composed with the marks that follow them.
-/

namespace BeanForge.Text

def numbersIn (separator : Char) (cs : List Char) : List Nat :=
  (splitAt separator cs).map hexNumber

/-- The characters that a character counts as, from the table of single characters. -/
def tabledCompatible? (n : Nat) : Option (List Char) :=
  ((splitAt ' ' (compatibleChars.flatMap String.toList)).find? fun entry =>
    hexNumber (entry.takeWhile (· ≠ ':')) == n).map fun entry =>
      (numbersIn '+' ((entry.dropWhile (· ≠ ':')).drop 1)).map Char.ofNat

/-- The characters that a character counts as. -/
def compatible (c : Char) : List Char :=
  let n := c.toNat
  if n < 128 then [c]
  else match compatibleRuns.find? fun (first, last, _) => first ≤ n && n ≤ last with
    | some (first, _, start) => [Char.ofNat (start + (n - first))]
    | none => (tabledCompatible? n).getD [c]

/-- The letter that a letter and a mark are composed to. -/
def composed? (c mark : Char) : Option Char :=
  if mark.toNat < 0x300 then none
  else ((splitAt ' ' (composedChars.flatMap String.toList)).findSome? fun entry =>
    let parts := numbersIn '+' (entry.takeWhile (· ≠ '='))
    if parts == [c.toNat, mark.toNat] then
      some (Char.ofNat (hexNumber ((entry.dropWhile (· ≠ '=')).drop 1)))
    else none)

/-- Compose each letter with the marks after it. -/
def compose (done : List Char) : List Char → List Char
  | [] => done.reverse
  | c :: rest =>
    match done with
    | [] => compose [c] rest
    | last :: before =>
      match composed? last c with
      | some d => compose (d :: before) rest
      | none => compose (c :: last :: before) rest

/-- The one spelling of all spellings of a name. -/
def plainName (name : String) : String :=
  let cs := name.toList
  if cs.all (·.toNat < 128) then name else String.ofList (compose [] (cs.flatMap compatible))

end BeanForge.Text

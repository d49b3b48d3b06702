import BeanForge.Text.CaseTable
import BeanForge.Text.CharClass

/-!
# Capital and small letters

The full case mappings of a text. One letter may map to several, and a capital
sigma becomes a final sigma at the end of a word.
-/

namespace BeanForge.Text

def shifted (shifts : List Shift) (c : Char) : Char :=
  match shifts.find? (·.covers c.toNat) with
  | some s => Char.ofNat (s.target c.toNat)
  | none => c

/-- The small form of one letter outside the context of a word. -/
def lowerChar (c : Char) : List Char :=
  if c.toNat < 128 then [c.toLower]
  else if c.toNat = 0x130 then ['i', Char.ofNat 0x307]
  else [shifted lowerShifts c]

def upperChar (c : Char) : List Char :=
  if c.toNat < 128 then [c.toUpper]
  else match upperExpansions.lookup c.toNat with
    | some expansion => expansion.map Char.ofNat
    | none => [shifted upperShifts c]

def isCased (c : Char) : Bool :=
  within casedRanges c.toNat

def isCaseIgnorable (c : Char) : Bool :=
  within ignorableRanges c.toNat

/-- Whether the word goes on after a sigma. -/
def wordGoesOn (rest : List Char) : Bool :=
  match rest.dropWhile isCaseIgnorable with
  | [] => false
  | c :: _ => isCased c

def capitalSigma : Char := Char.ofNat 0x3A3
def smallSigma : Char := Char.ofNat 0x3C3
def finalSigma : Char := Char.ofNat 0x3C2

/-- `inWord` tells whether a cased letter precedes, ignorable characters skipped. -/
def lowerFrom (inWord : Bool) : List Char → List Char
  | [] => []
  | c :: rest =>
    if c.toNat < 128 then c.toLower :: lowerFrom (inWordAfter inWord c) rest
    else
      (if c = capitalSigma then [if inWord && !wordGoesOn rest then finalSigma else smallSigma]
        else lowerChar c) ++ lowerFrom (inWordAfter inWord c) rest
where
  inWordAfter (inWord : Bool) (c : Char) : Bool :=
    if isCaseIgnorable c then inWord else isCased c

def lower (s : String) : String :=
  String.ofList (lowerFrom false s.toList)

def upper (s : String) : String :=
  String.ofList (s.toList.flatMap upperChar)

/-- The first character in its capital form, the others unchanged. -/
def capitalized (s : String) : String :=
  match s.toList with
  | [] => ""
  | c :: rest => String.ofList (upperChar c ++ rest)

@[simp] theorem lowerFrom_nil (inWord : Bool) : lowerFrom inWord [] = [] := rfl

/-- ASCII letters have small forms that do not depend on their neighbours. -/
theorem lowerFrom_of_ascii (cs : List Char) (inWord : Bool) (h : ∀ c ∈ cs, c.toNat < 128) :
    lowerFrom inWord cs = cs.map Char.toLower := by
  induction cs generalizing inWord with
  | nil => rfl
  | cons c rest ih =>
    have hc : c.toNat < 128 := h c (by simp)
    simp only [lowerFrom, hc, if_true, List.map_cons]
    rw [ih _ (fun d hd => h d (by simp [hd]))]

end BeanForge.Text

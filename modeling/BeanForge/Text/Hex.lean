/-!
# Hexadecimal digits

Numbers written with a fixed least width in lower case, and digits of either
case read back.
-/

namespace BeanForge.Text

def hexDigit (n : Nat) : Char :=
  if n < 10 then Char.ofNat (48 + n) else Char.ofNat (87 + n)

/-- The lowest `width` hexadecimal digits of a number, the highest first. -/
def hexFixed : Nat → Nat → List Char
  | 0, _ => []
  | width + 1, n => hexFixed width (n / 16) ++ [hexDigit (n % 16)]

def hexValue? (c : Char) : Option Nat :=
  let n := c.toNat
  if 48 ≤ n && n ≤ 57 then some (n - 48)
  else if 97 ≤ n && n ≤ 102 then some (n - 87)
  else if 65 ≤ n && n ≤ 70 then some (n - 55)
  else none

def isHexDigit (c : Char) : Bool :=
  (hexValue? c).isSome

/-- The number that a run of digits stands for; characters that are no digits count nothing. -/
def hexNumber (cs : List Char) : Nat :=
  cs.foldl (fun n c => 16 * n + (hexValue? c).getD 0) 0

@[simp] theorem length_hexFixed (width n : Nat) : (hexFixed width n).length = width := by
  induction width generalizing n with
  | zero => rfl
  | succ width ih => simp [hexFixed, ih]

theorem hexValue_hexDigit {n : Nat} (h : n < 16) : hexValue? (hexDigit n) = some n := by
  revert n; decide

theorem hexNumber_append_singleton (cs : List Char) (c : Char) :
    hexNumber (cs ++ [c]) = 16 * hexNumber cs + (hexValue? c).getD 0 := by
  simp [hexNumber]

/-- A number below 16 to the width is read back from its digits. -/
theorem hexNumber_hexFixed (width n : Nat) (h : n < Nat.pow 16 width) :
    hexNumber (hexFixed width n) = n := by
  induction width generalizing n with
  | zero =>
    have hn : n = 0 := Nat.lt_one_iff.1 h
    simp [hexFixed, hexNumber, hn]
  | succ width ih =>
    have hdiv : n / 16 < Nat.pow 16 width := (Nat.div_lt_iff_lt_mul (by decide)).2 h
    rw [hexFixed, hexNumber_append_singleton, ih _ hdiv,
      hexValue_hexDigit (Nat.mod_lt _ (by decide))]
    simp only [Option.getD_some]
    omega

end BeanForge.Text

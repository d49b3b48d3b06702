/-!
# Halves of pairs

Escapes can name a half of a surrogate pair, which is no character. It is held as
the private character of plane sixteen with the same last four hexadecimal
digits, counts by its own number everywhere, and no charset has bytes for it.
The private characters from U+10D800 to U+10DFFF are not told from the halves
they stand for, so texts that hold them in their own right are left out.
-/

namespace BeanForge.Text

/-- Whether a number is that of a half. -/
def isHalfNumber (n : Nat) : Bool :=
  0xD800 ≤ n && n < 0xE000

def halfOf (n : Nat) : Char :=
  Char.ofNat (0x100000 + n)

/-- The character that is written by a number, which may be that of a half. -/
def charOf (n : Nat) : Char :=
  if isHalfNumber n then halfOf n else Char.ofNat n

def isHalf (c : Char) : Bool :=
  0x10D800 ≤ c.toNat && c.toNat < 0x10E000

/-- The number of a character or half. -/
def numberOf (c : Char) : Nat :=
  if isHalf c then c.toNat - 0x100000 else c.toNat

/-- A text without halves of pairs. -/
def Whole (s : String) : Prop :=
  ∀ c ∈ s.toList, isHalf c = false

instance (s : String) : Decidable (Whole s) :=
  List.decidableBAll _ s.toList

end BeanForge.Text

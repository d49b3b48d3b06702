/-!
# Decimal numbers

Whole numbers in base ten, and the two ways to lay out the digits of a fraction:
with a point among them, or with an exponent of at least two digits behind them.
-/

namespace BeanForge.Text

def natDigits (n : Nat) : List Char :=
  Nat.toDigits 10 n

def intDigits (n : Int) : List Char :=
  match n with
  | .ofNat n => natDigits n
  | .negSucc n => '-' :: natDigits (n + 1)

/-- The most digits that a whole number is read from or written with. -/
def longestDecimal : Nat := 4300

/-- The first number with too many digits to be written. -/
def tooLongToWrite : Nat := Nat.pow 10 longestDecimal

def tooManyDigits : String :=
  "Exceeds the limit (4300 digits) for integer string conversion; use sys.set_int_max_str_digits() to increase the limit"

/-- Zeros in front of digits up to a width. -/
def zeroPadded (width : Nat) (digits : List Char) : List Char :=
  List.replicate (width - digits.length) '0' ++ digits

def dropZeros (digits : List Char) : List Char :=
  (digits.reverse.dropWhile (· = '0')).reverse

/-- Digits behind a point; without digits there is no point either. -/
def pointed : List Char → List Char
  | [] => []
  | digits => '.' :: digits

/-- An exponent with its sign. -/
def exponentText (mark : Char) (exponent : Int) : List Char :=
  mark :: (if exponent < 0 then '-' else '+') :: zeroPadded 2 (natDigits exponent.natAbs)

/-- Digits with a point such that the first one counts ten to the power `exponent`. -/
def positional (digits : List Char) (exponent : Int) : List Char :=
  match exponent with
  | .ofNat e => digits.take (e + 1) ++ List.replicate (e + 1 - digits.length) '0' ++
      pointed (digits.drop (e + 1))
  | .negSucc e => '0' :: '.' :: (List.replicate e '0' ++ digits)

/-- Digits with a point behind the first one, and an exponent. -/
def scientific (mark : Char) (digits : List Char) (exponent : Int) : List Char :=
  digits.take 1 ++ pointed (digits.drop 1) ++ exponentText mark exponent

end BeanForge.Text

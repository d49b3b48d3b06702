import BeanForge.Binary64.Arithmetic

/-!
# Numbers

Whole numbers of any size and numbers of sixty-four bits. Two numbers are
compared by their exact values, of whichever kind they are.
-/

namespace BeanForge

inductive Number where
  | whole (n : Int)
  | real (x : Binary64)
  deriving Repr, DecidableEq

namespace Number

def order? : Number → Number → Option Ordering
  | whole m, whole n => some (compare m n)
  | real x, real y => x.order? y
  | real x, whole n => x.orderInt? n
  | whole m, real y => (y.orderInt? m).map Ordering.swap

def same (a b : Number) : Bool :=
  a.order? b == some .eq

def isZero : Number → Bool
  | whole n => n == 0
  | real x => x.isZero

/-- The nearest number of sixty-four bits, unless it would be infinite. -/
def real? : Number → Option Binary64
  | real x => some x
  | whole n => let x := Binary64.ofInt n; if x.isFinite then some x else none

end Number

end BeanForge

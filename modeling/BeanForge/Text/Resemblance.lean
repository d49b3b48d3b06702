/-!
# Resemblance of texts

How alike two texts are, by the characters that they share in order: the longest
common run counts, and so do the shared runs on both sides of it.
-/

namespace BeanForge.Text

def commonStart : List Char → List Char → Nat
  | a :: as, b :: bs => if a = b then commonStart as bs + 1 else 0
  | _, _ => 0

/-- A run of characters that two texts share, with its places in both. -/
structure SharedRun where
  first : Nat
  second : Nat
  size : Nat
  deriving Repr, DecidableEq

/-- The longest shared run; of several the one that comes first. -/
def longestRun (as bs : List Char) : SharedRun :=
  let runs := (List.range as.length).flatMap fun i =>
    (List.range bs.length).map fun j => ⟨i, j, commonStart (as.drop i) (bs.drop j)⟩
  runs.foldl (fun best run => if best.size < run.size then run else best) ⟨0, 0, 0⟩

/-- The number of characters in shared runs, found by at most `depth` cuts in a row. -/
def sharedCount : Nat → List Char → List Char → Nat
  | 0, _, _ => 0
  | depth + 1, as, bs =>
    let run := longestRun as bs
    if run.size = 0 then 0
    else sharedCount depth (as.take run.first) (bs.take run.second) + run.size +
      sharedCount depth (as.drop (run.first + run.size)) (bs.drop (run.second + run.size))

/-- The share of common characters, as a numerator and a denominator. -/
def resemblance (s t : String) : Nat × Nat :=
  (2 * sharedCount s.length s.toList t.toList, s.length + t.length)

/-- Whether at least six tenths of the characters are shared. -/
def resembles (s t : String) : Bool :=
  let (shared, all) := resemblance s t
  6 * all ≤ 10 * shared

/-- The three candidates most like a word, the best first. -/
def closest (word : String) (candidates : List String) : List String :=
  let better (s t : String) : Bool :=
    let (a, b) := resemblance s word
    let (c, d) := resemblance t word
    c * b < a * d || (c * b == a * d && t ≤ s)
  ((candidates.filter (resembles · word)).mergeSort better).take 3

end BeanForge.Text

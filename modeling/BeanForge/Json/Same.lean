import BeanForge.Json.Basic
import BeanForge.Keyed

/-!
# Equal values

Two values are equal when they mean the same: numbers are compared by value, and
a flag counts as one or zero. The order of members does not matter.
-/

namespace BeanForge.Json

def number? : Json → Option Number
  | bool b => some (.whole (if b then 1 else 0))
  | integer n => some (.whole n)
  | real x => some (.real x)
  | _ => none

def sameScalar (a b : Json) : Bool :=
  match a.number?, b.number? with
  | some m, some n => m.same n
  | _, _ =>
    match a, b with
    | null, null => true
    | string s, string t => s == t
    | _, _ => false

mutual

def same : Json → Json → Bool
  | array xs, b => match b with
    | array ys => sameItems xs ys
    | _ => false
  | object xs, b => match b with
    | object ys => xs.length == ys.length && sameMembers xs ys
    | _ => false
  | a, b => sameScalar a b

def sameItems : List Json → List Json → Bool
  | [], ys => ys.isEmpty
  | x :: xs, ys => match ys with
    | y :: ys => same x y && sameItems xs ys
    | [] => false

def sameMembers : List (String × Json) → List (String × Json) → Bool
  | [], _ => true
  | (name, x) :: xs, ys => (match Keyed.get? name ys with
    | some y => same x y
    | none => false) && sameMembers xs ys

end

end BeanForge.Json

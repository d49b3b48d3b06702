import BeanForge.Template.Application

/-!
# Comparisons

Two values are compared for equality or order, or one is looked for in the other.
Of a series only the items up to the one that is found are read.
-/

namespace BeanForge.Template.Value

/-- Whether some item equals a value. -/
def amongItems (a : Value) : List Value → Rendered Bool
  | [] => .ok false
  | item :: rest =>
    match same item a with
    | .ok false => amongItems a rest
    | outcome => outcome

/-- Whether some of the next items of a series, `bound` at most, equals a value. -/
def amongNext (a : Value) (number : Nat) : Nat → Rendering Bool
  | 0 => pure false
  | bound + 1 => do
    match ← Filter.read number with
    | none => pure false
    | some item => if ← same item a then pure true else amongNext a number bound

def amongSource (a : Value) : Source → Rendering Bool
  | .items all => a.amongItems all
  | .series number => fun feeds =>
    a.amongNext number (feeds.room (feeds.length + 1) (.series number) + 1) feeds

def inText (a : Value) (s : String) : Rendered Bool :=
  match a with
  | string part => .ok (isWithin part.toList s.toList)
  | a => Rendered.misuse (.notInText a.kindName)
where
  isWithin (part : List Char) : List Char → Bool
    | [] => part.isEmpty
    | c :: rest => part.isPrefixOf (c :: rest) || isWithin part rest

def amongKeys (a : Value) (entries : List (String × Value)) : Rendered Bool := do
  a.checkKey
  match a with
  | string name => pure (Keyed.get? name entries).isSome
  | _ => pure false

def isIn (a container : Value) : Rendering Bool :=
  match container with
  | string s => a.inText s
  | dict entries => a.amongKeys entries
  | absent message lenient =>
    if lenient then pure false else (.error (.absent message) : Rendered Bool)
  | container =>
    match container.source with
    | .ok source => a.amongSource source
    | .error (.misuse (.notIterable word)) => (Rendered.misuse (.notContainer word) : Rendered Bool)
    | .error e => (.error e : Rendered Bool)

def comparison (how : Comparison) (a b : Value) : Rendering Bool :=
  match how with
  | .equal => same a b
  | .unequal => (!·) <$> same a b
  | .less => ordered "<" (· == .lt) a b
  | .lessOrEqual => ordered "<=" (· != .gt) a b
  | .greater => ordered ">" (· == .gt) a b
  | .greaterOrEqual => ordered ">=" (· != .lt) a b
  | .within => a.isIn b
  | .notWithin => (!·) <$> a.isIn b

end BeanForge.Template.Value

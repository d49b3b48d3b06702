import BeanForge.Placeholder.Place

/-!
# Filling placeholders

A text with places takes its arguments in order, and by name where a place has a
key. All arguments must be used, unless they can be looked up by name.
-/

namespace BeanForge.Placeholder

variable {ε : Type}

/-- The arguments that are left, and how one is found by name. -/
structure Supply (ε : Type) where
  left : List (Argument ε)
  named? : Option (String → Except ε (Argument ε)) := none

namespace Supply

def next (s : Supply ε) : Filled ε (Argument ε × Supply ε) :=
  match s.left with
  | [] => Filled.mismatch .tooFew
  | a :: rest => .ok (a, { s with left := rest })

/-- From here on the argument with a name is the only one left. -/
def focus (s : Supply ε) (name : String) : Filled ε (Supply ε) :=
  match s.named? with
  | none => Filled.mismatch .notMapping
  | some find => (Filled.ofArgument (find name)).map fun a => { s with left := [a] }

/-- A whole number that an argument gives for a width or a precision. -/
def nextWhole (s : Supply ε) (limit : Nat) (word : String) : Filled ε (Int × Supply ε) := do
  let (a, s) ← s.next
  match a.nature with
  | .number (.whole n) =>
    if limit ≤ n.natAbs then Filled.mismatch (.starTooBig word) else pure (n, s)
  | _ => Filled.mismatch .starNotWhole

end Supply

/-! Parts of a place -/

/-- A key up to its closing parenthesis, and what follows it. -/
def keyOf? (depth : Nat) : List Char → Option (List Char × List Char)
  | [] => none
  | c :: rest =>
    let more (depth : Nat) := (keyOf? depth rest).map fun (key, rest) => (c :: key, rest)
    if c = ')' then
      match depth with
      | 0 => some ([], rest)
      | depth + 1 => more depth
    else if c = '(' then more (depth + 1)
    else more depth

def numberIn (digits : List Char) : Nat :=
  digits.foldl (fun n c => 10 * n + (c.toNat - 48)) 0

/-- A number that stands in the text or is given by an argument; `none` if there is neither. -/
def amount (s : Supply ε) (limit : Nat) (tooBig : Mismatch) (word : String) (cs : List Char) :
    Filled ε (Option Int × Supply ε × List Char) :=
  match cs with
  | '*' :: rest => do
    let (n, s) ← s.nextWhole limit word
    pure (some n, s, rest)
  | cs =>
    let digits := cs.takeWhile Char.isDigit
    if digits.isEmpty then .ok (none, s, cs)
    else if limit ≤ numberIn digits then Filled.mismatch tooBig
    else .ok (some (numberIn digits), s, cs.drop digits.length)

/-- The name that a place begins with. -/
def focused (s : Supply ε) (cs : List Char) : Filled ε (Supply ε × List Char) :=
  match cs with
  | '(' :: rest =>
    if s.named?.isNone then Filled.mismatch .notMapping
    else match keyOf? 0 rest with
      | none => Filled.mismatch .incompleteKey
      | some (key, rest) => (s.focus (String.ofList key)).map (·, rest)
  | cs => .ok (s, cs)

def precisionOf (s : Supply ε) (cs : List Char) :
    Filled ε (Option Nat × Supply ε × List Char) :=
  match cs with
  | '.' :: rest => do
    let (n, s, rest) ← amount s 0x80000000 .precisionTooBig "int" rest
    pure (some ((n.getD 0).toNat), s, rest)
  | cs => .ok (none, s, cs)

/-- A mark of size before the sign counts for nothing. -/
def dropSize : List Char → List Char
  | c :: rest => if c = 'h' || c = 'l' || c = 'L' then rest else c :: rest
  | [] => []

/-- The place that begins here, the arguments that are left, and what follows it. -/
def place (s : Supply ε) (cs : List Char) : Filled ε (Place × Supply ε × List Char) := do
  let (s, cs) ← focused s cs
  let flags := cs.takeWhile ("-+ #0".toList.contains ·)
  let (width, s, cs) ← amount s 0x8000000000000000 .wideTooBig "ssize_t" (cs.drop flags.length)
  let (precision, s, cs) ← precisionOf s cs
  match dropSize cs with
  | [] => Filled.mismatch .incomplete
  | sign :: rest =>
    pure ({ leftAligned := flags.contains '-' || decide (width.getD 0 < 0)
            plus := flags.contains '+'
            blank := flags.contains ' '
            alternate := flags.contains '#'
            zeros := flags.contains '0'
            width := width.map Int.natAbs
            precision
            sign }, s, rest)

/-! Texts -/

/-- Fill the places of a text of `length` characters; two percent signs in a row stand for one. Each
round takes a character, so `fuel` counts characters. -/
def fillFrom (length : Nat) : Nat → Supply ε → List Char → Filled ε (List Char)
  | 0, _, _ => .ok []
  | _, s, [] =>
    if !s.left.isEmpty && s.named?.isNone then Filled.mismatch .leftOver else .ok []
  | fuel + 1, s, '%' :: '%' :: cs => ('%' :: ·) <$> fillFrom length fuel s cs
  | fuel + 1, s, '%' :: cs => do
    let (p, s, rest) ← place s cs
    let (a, s) ← s.next
    let text ← p.filled (length - rest.length - 1) a
    (text ++ ·) <$> fillFrom length fuel s rest
  | fuel + 1, s, c :: cs => (c :: ·) <$> fillFrom length fuel s cs

def fill (format : String) (s : Supply ε) : Filled ε String :=
  let cs := format.toList
  String.ofList <$> fillFrom cs.length (cs.length + 1) s cs

end BeanForge.Placeholder

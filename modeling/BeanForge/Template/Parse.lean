import BeanForge.Template.Token
import BeanForge.Text.Quoted

/-!
# Reading template tokens

Readers look at the current token and go on to the next. A flaw stops a reader
as soon as it becomes current, and the end of the template stays current for
ever.
-/

namespace BeanForge.Template

abbrev Parse (α : Type) := List Token → Except Refusal (α × List Token)

namespace Parse

variable {α : Type}

instance : Monad Parse where
  pure a := fun ts => .ok (a, ts)
  bind p f := fun ts =>
    match p ts with
    | .error e => .error e
    | .ok (a, rest) => f a rest

def endToken : Token := ⟨.finish, "", 1⟩

def currentOf (ts : List Token) : Token :=
  ts.headD endToken

def current : Parse Token :=
  fun ts => .ok (currentOf ts, ts)

def failAt (reason : String) (line : Nat) : Parse α :=
  fun _ => .error (.malformed ⟨reason, line⟩)

/-- Fail on the line of the current token. -/
def fail (reason : String) : Parse α :=
  fun ts => .error (.malformed ⟨reason, (currentOf ts).line⟩)

/-- Make the tokens current unless they begin with a flaw. -/
def reach : List Token → Except Refusal (List Token)
  | [] => .ok []
  | t :: rest =>
    match t.refusal? with
    | some refusal => .error refusal
    | none => .ok (t :: rest)

def advance : Parse Unit
  | [] => .ok ((), [])
  | [t] => .ok ((), [t])
  | _ :: rest => (reach rest).map ((), ·)

/-- Take the current token. -/
def next : Parse Token := do
  let t ← current
  advance
  pure t

/-- The token after the current one. -/
def peek : Parse Token
  | [] => .ok (endToken, [])
  | [t] => .ok (t, [t])
  | t :: rest => (reach rest).map fun more => (currentOf more, t :: rest)

def sees (ok : Token → Bool) : Parse Bool :=
  fun ts => .ok (ok (currentOf ts), ts)

def seesName (text : String) : Parse Bool :=
  sees (·.isName text)

def seesOperator (text : String) : Parse Bool :=
  sees (·.isOperator text)

/-- Take the current token if it fits. -/
def accepts (ok : Token → Bool) : Parse Bool := do
  if ← sees ok then
    advance
    pure true
  else pure false

def acceptsName (text : String) : Parse Bool :=
  accepts (·.isName text)

def acceptsOperator (text : String) : Parse Bool :=
  accepts (·.isOperator text)

/-- Take the current token, which must fit; `description` tells what was expected. -/
def expect (ok : Token → Bool) (description : String) : Parse Token := do
  let t ← current
  if ok t then next
  else if t.kind = .finish then
    fail ("unexpected end of template, expected " ++ Text.quoted description ++ ".")
  else fail ("expected token " ++ Text.quoted description ++ ", got " ++ Text.quoted t.description)

def expectKind (kind : TokenKind) : Parse Token :=
  expect (·.kind == kind) kind.description

def expectName (text : String) : Parse Unit := do
  discard (expect (·.isName text) text)

def expectOperator (text : String) : Parse Unit := do
  discard (expect (·.isOperator text) text)

/-- Repeat while a reader says so; `bound` exceeds the number of rounds. -/
def repeatFrom (bound : Nat) (more : Parse Bool) (p : Parse α) : Parse (List α) :=
  match bound with
  | 0 => pure []
  | bound + 1 => do
    if ← more then
      let a ← p
      let rest ← repeatFrom bound more p
      pure (a :: rest)
    else pure []

/-- Every round takes a token. -/
def repeatWhile (more : Parse Bool) (p : Parse α) : Parse (List α) :=
  fun ts => repeatFrom (ts.length + 1) more p ts

/-- Let a value grow while a reader finds something to add to it. -/
def growFrom (bound : Nat) (grow? : α → Parse (Option α)) (a : α) : Parse α :=
  match bound with
  | 0 => pure a
  | bound + 1 => do
    match ← grow? a with
    | some b => growFrom bound grow? b
    | none => pure a

/-- Every round takes a token. -/
def grow (grow? : α → Parse (Option α)) (a : α) : Parse α :=
  fun ts => growFrom (ts.length + 1) grow? a ts

end Parse

end BeanForge.Template

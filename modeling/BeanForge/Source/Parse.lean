import BeanForge.Source.Token

/-!
# Reading tokens

Readers take tokens from the front and stop at the first that does not fit. A
fixed token that is missing is told with the line of the token after the wrong
one, a missing choice with the line of the token itself. A reading on trial gives
tokens back when it fails: back to its start, or to the start of the last trial
that went well inside it.
-/

namespace BeanForge.Source

/-- Why reading stops. -/
inductive Halt where
  /-- Something else stands here. -/
  | unexpected (description : String) (line : Option Nat)
  /-- No token is left to take; told with the line on which an outermost trial began. -/
  | exhausted (trialLine : Option Nat)
  /-- The text ends right after an operand. -/
  | endAfterOperand
  deriving Repr, DecidableEq

/-- How far a reading has come. -/
structure Reading where
  left : List Token
  /-- The tokens that are given back if the trial under way fails. -/
  mark : List Token

/-- A reading that stopped, and what its trial gives back. -/
structure Stopped where
  halt : Halt
  mark : List Token

abbrev Parse (α : Type) := Reading → Except Stopped (α × Reading)

namespace Parse

variable {α β : Type}

instance : Monad Parse where
  pure a := fun r => .ok (a, r)
  bind p f := fun r =>
    match p r with
    | .error e => .error e
    | .ok (a, r) => f a r

/-- Read tokens from the first to the last. -/
def run (p : Parse α) (ts : List Token) : Except Halt (α × List Token) :=
  match p ⟨ts, ts⟩ with
  | .error e => .error e.halt
  | .ok (a, r) => .ok (a, r.left)

/-- What a reader expects at one place. -/
inductive Want where
  | word (text : String)
  | kind (kind : TokenKind)
  deriving Repr, DecidableEq

def Want.fits (t : Token) : Want → Bool
  | .word text => t.text == text
  | .kind k => t.kind == k

/-- The name of a kind of token in messages. -/
def kindName : TokenKind → String
  | .identifier => "Identifier"
  | .keyword => "Keyword"
  | .modifier => "Modifier"
  | .basicType => "BasicType"
  | .literal => "Literal"
  | .separator => "Separator"
  | .operator => "Operator"
  | .atSign => "Annotation"

def Want.description : Want → String
  | .word text => "Expected '" ++ text ++ "'"
  | .kind k => "Expected " ++ kindName k

def lineOf (ts : List Token) : Option Nat :=
  ts.head?.map (·.line)

def halt (h : Halt) : Parse α :=
  fun r => .error ⟨h, r.mark⟩

/-- The tokens ahead. -/
def ahead : Parse (List Token) :=
  fun r => .ok (r.left, r)

/-- Nothing that is asked for stands here. -/
def illegal (description : String) : Parse α := do
  halt (.unexpected description (lineOf (← ahead)))

def look : Parse (Option Token) :=
  fun r => .ok (r.left.head?, r)

/-- The text of the next token; empty at the end. -/
def word : Parse String :=
  fun r => .ok ((r.left.head?.map (·.text)).getD "", r)

def skip (n : Nat) : Parse Unit :=
  fun r => .ok ((), { r with left := r.left.drop n })

/-- Take the next token, whatever it is. -/
def next : Parse Token :=
  fun r =>
    match r.left with
    | [] => .error ⟨.exhausted none, r.mark⟩
    | t :: rest => .ok (t, { r with left := rest })

/-- Take the next token, which must fit. -/
def take (want : Want) : Parse String :=
  fun r =>
    match r.left with
    | [] => .error ⟨.exhausted none, r.mark⟩
    | t :: rest =>
      if Want.fits t want then .ok (t.text, { r with left := rest })
      else .error ⟨.unexpected want.description (lineOf rest), r.mark⟩

def expect (text : String) : Parse Unit := do
  discard (take (.word text))

def identifier : Parse String :=
  take (.kind .identifier)

def fitAll : List Want → List Token → Bool
  | [], _ => true
  | _ :: _, [] => false
  | want :: wants, t :: ts => Want.fits t want && fitAll wants ts

/-- Whether the tokens ahead fit. -/
def sees (wants : List Want) : Parse Bool :=
  fun r => .ok (fitAll wants r.left, r)

def seesWord (text : String) : Parse Bool :=
  sees [.word text]

def seesKind (kind : TokenKind) : Parse Bool :=
  sees [.kind kind]

/-- Take the tokens ahead if all of them fit. -/
def accepts (wants : List Want) : Parse Bool :=
  fun r =>
    if fitAll wants r.left then .ok (true, { r with left := r.left.drop wants.length })
    else .ok (false, r)

def acceptsWord (text : String) : Parse Bool :=
  accepts [.word text]

/-- Read with a mark of its own, which afterwards is that of the reading around it. -/
def marked (p : Parse α) : Parse α :=
  fun r => p { r with mark := r.left }

/-- Read on trial: if it fails the other reader starts from the tokens given back. -/
def onTrial (p : Parse α) (otherwise : Parse α) : Parse α :=
  fun r =>
    match marked p r with
    | .ok outcome => .ok outcome
    | .error ⟨.unexpected _ _, back⟩ => otherwise { r with left := back }
    | .error ⟨.exhausted _, back⟩ => .error ⟨.exhausted (lineOf back), r.mark⟩
    | .error ⟨.endAfterOperand, _⟩ => .error ⟨.endAfterOperand, r.mark⟩

/-- Go back to the mark. -/
def goBack : Parse Unit :=
  fun r => .ok ((), { r with left := r.mark })

/-- Repeat while a reader says so; `bound` exceeds the number of rounds. -/
def repeatFrom (bound : Nat) (more : Parse Bool) (p : Parse α) : Parse (List α) :=
  match bound with
  | 0 => pure []
  | bound + 1 => do
    if ← more then
      let a ← p
      let rest ← repeatFrom bound more p
      pure (a :: rest)
    else pure []

/-- Every round takes a token. -/
def repeatWhile (more : Parse Bool) (p : Parse α) : Parse (List α) :=
  fun r => repeatFrom (r.left.length + 1) more p r

/-- One or more, parted by a word. -/
def separated (separator : String) (p : Parse α) : Parse (List α) := do
  let first ← p
  let rest ← repeatWhile (acceptsWord separator) p
  pure (first :: rest)

/-- As many as there are before a word, which is taken too. -/
def untilWord (close : String) (p : Parse α) : Parse (List α) := do
  let all ← repeatWhile ((!·) <$> seesWord close) p
  expect close
  pure all

/-- Whether an annotation is applied at a place ahead, and none declared. -/
def isAnnotationAt : List Token → Bool
  | t :: rest => t.kind == .atSign && (rest.head?.map (·.text)) != some "interface"
  | [] => false

def seesAnnotationUse : Parse Bool :=
  fun r => .ok (isAnnotationAt r.left, r)

/-- Whether the declaration of an annotation type begins here. -/
def seesAnnotationType : Parse Bool :=
  sees [.kind .atSign, .word "interface"]

def qualifiedName : Parse String := do
  pure (".".intercalate (← separated "." identifier))

def qualifiedNames : Parse (List String) :=
  separated "," qualifiedName

/-- The empty brackets ahead, all taken. -/
def bracketPairs : Parse Nat := do
  pure (← repeatWhile (accepts [.word "[", .word "]"]) (pure ())).length

end Parse

end BeanForge.Source

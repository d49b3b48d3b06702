import BeanForge.Template.Grammar.Expressions

/-!
# Grammar of template parts

Text, printed expressions and tags. A tag with parts inside goes on to the tag
that ends them; a tag that is not known here is told together with the tags that
could stand in its place.

The tags known here are those of the templates of classes: `for` with `else`,
`if` with `elif` and `else`, `set` and `include`; `raw` is a matter of the tokens.
All other tags of Jinja are left out and told as unknown: `block`, `extends`,
`import`, `from`, `macro`, `call`, `filter`, `with`, `autoescape` and `print`. A
call is read as an expression like any other, but no value can be called: there
are no macros, and the calls of globals and of methods are left out.
-/

namespace BeanForge.Template

namespace Enclosing

def entering (e : Enclosing) (tag : String) : Enclosing :=
  { e with tags := tag :: e.tags }

def expecting (e : Enclosing) (ends : List String) : Enclosing :=
  { e with expected := ends :: e.expected }

/-- What is told about the tags that could stand here. -/
def advice (e : Enclosing) (found : Option String) : String :=
  let looking := match e.expected with
    | [] => ""
    | ends :: _ =>
      let wanted := " or ".intercalate (ends.map Text.quoted)
      if (found.map (e.expected.flatten.contains ·)).getD false then
        " You probably made a nesting mistake. Jinja is expecting this tag, but currently looking for "
          ++ wanted ++ "."
      else " Jinja was looking for the following tags: " ++ wanted ++ "."
  let innermost := match e.tags with
    | [] => ""
    | tag :: _ => " The innermost block that needs to be closed is " ++ Text.quoted tag ++ "."
  looking ++ innermost

def unknownTag (e : Enclosing) (name : String) : String :=
  "Encountered unknown tag " ++ Text.quoted name ++ "." ++ e.advice (some name)

def earlyEnd (e : Enclosing) : String :=
  "Unexpected end of template." ++ e.advice none

end Enclosing

namespace Grammar

open Parse

variable (b : Below)

/-! Targets -/

/-- What messages call an expression that nothing can be assigned to. -/
def kindOfTarget : Expr → String
  | .literal _ => "const"
  | .name _ => "name"
  | .tuple _ => "tuple"
  | .list _ => "list"
  | .member _ _ => "getattr"
  | .item _ _ => "getitem"
  | .call _ _ => "call"
  | .filter _ _ _ _ => "filter"
  | .test _ _ _ _ => "test"
  | .negative _ => "neg"
  | .positive _ => "pos"
  | .inverse _ => "not"
  | .arithmetic .add _ _ => "add"
  | .arithmetic .subtract _ _ => "sub"
  | .arithmetic .multiply _ _ => "mul"
  | .arithmetic .floorDivide _ _ => "floordiv"
  | .arithmetic .remainder _ _ => "mod"
  | .concatenation _ => "concat"
  | .comparison _ _ => "compare"
  | .both _ _ => "and"
  | .either _ _ => "or"
  | .choice _ _ _ _ => "condexpr"

mutual

/-- The target that an expression on a line stands for. -/
def targetOf? (line : Nat) : Expr → Option Target
  | .name text => some (.name text line)
  | .tuple items => (targetsOf? line items).map .tuple
  | _ => none

def targetsOf? (line : Nat) : List Expr → Option (List Target)
  | [] => some []
  | e :: rest =>
    match targetOf? line e, targetsOf? line rest with
    | some t, some ts => some (t :: ts)
    | _, _ => none

end

/-- The member that a dot after a name leads to. -/
def memberTarget? (owner : Expr) : Parse (Option Target) := do
  match owner with
  | .name text =>
    if ← acceptsOperator "." then
      let t ← expectKind .name
      pure (some (.member text t.text))
    else pure none
  | _ => pure none

/-- What stands where values are given, with its line and the target that it is, if any. -/
structure Aim where
  expr : Expr
  target? : Option Target
  line : Nat

def aim (mayBeMember : Bool) : Parse Aim := do
  let t ← current
  let e ← primary b
  let found ← if mayBeMember && t.kind == .name then memberTarget? e else pure none
  pure ⟨e, found.or (targetOf? t.line e), t.line⟩

/-- The operands after the first one, each with the line of the comma before it. -/
def moreAims (mayBeMember : Bool) : Parse (List (Option Aim × Nat)) :=
  repeatWhile (seesOperator ",") (do
    let comma ← next
    if ← sees endsTuple then pure (none, comma.line)
    else
      let p ← aim b mayBeMember
      pure (some p, comma.line))

/-- A name, or several parted by commas; in an assignment also members. -/
def target (mayBeMember : Bool) : Parse Target := do
  if ← sees endsTuple then
    fail ("Expected an expression, got " ++ Text.quoted (← current).description)
  else
    let first ← aim b mayBeMember
    let rest ← moreAims b mayBeMember
    let refused (kind : String) (line : Nat) : Parse Target :=
      failAt ("can't assign to " ++ Text.quoted kind) line
    match rest.getLast? with
    | none =>
      match first.target? with
      | some t => pure t
      | none => refused (kindOfTarget first.expr) first.line
    | some (_, line) =>
      match (first :: rest.filterMap (·.1)).mapM (·.target?) with
      | some ts => pure (.tuple ts)
      | none => refused "tuple" line

/-! Tags -/

/-- The parts of a tag up to the name of the tag that ends them. -/
def body (e : Enclosing) (ends : List String) : Parse (List Part) := do
  discard (acceptsOperator ":")
  discard (expectKind .blockEnd)
  let inside := e.expecting ends
  let parts ← b.parts inside ends
  if (← current).kind = .finish then fail inside.earlyEnd else pure parts

/-- The parts after the last alternative. -/
def lastBody (e : Enclosing) (ends : List String) : Parse (List Part) := do
  let parts ← body b e ends
  advance
  pure parts

def loop (e : Enclosing) : Parse Part := do
  advance
  let item ← target b false
  expectName "in"
  let source ← tuple (disjunction b) false
  let condition ← if ← acceptsName "if" then some <$> b.expression else pure none
  discard (acceptsName "recursive")
  let parts ← body b e ["endfor", "else"]
  let t ← next
  let otherwise ← if t.text = "else" then lastBody b e ["endfor"] else pure []
  pure (.loop item source condition parts otherwise)

/-- A condition and its parts. -/
def alternative (e : Enclosing) : Parse (Expr × List Part) := do
  advance
  let condition ← tuple (disjunction b) false
  let parts ← body b e ["elif", "else", "endif"]
  pure (condition, parts)

def branch (e : Enclosing) : Parse Part := do
  let first ← alternative b e
  let others ← repeatWhile (seesName "elif") (alternative b e)
  let t ← next
  let otherwise ← if t.text = "else" then lastBody b e ["endif"] else pure []
  pure (.branch (first :: others) otherwise)

def refinement : Parse Refinement := do
  let name ← dottedName
  let given ← optionalArguments b
  pure ⟨name.text, given, name.line⟩

def assignment (e : Enclosing) : Parse Part := do
  advance
  let name ← target b true
  if ← acceptsOperator "=" then
    let value ← tuple b.expression false
    pure (.assign name value)
  else
    let refinements ← repeatWhile (acceptsOperator "|") (refinement b)
    let parts ← lastBody b e ["endset"]
    pure (.capture name refinements parts)

def insertion : Parse Part := do
  advance
  let name ← b.expression
  let optional ← if ← seesName "ignore" then (·.isName "missing") <$> peek else pure false
  if optional then
    advance
    advance
  pure (.insert name optional)

def tag (e : Enclosing) : Parse Part := do
  let t ← current
  if t.kind ≠ .name then fail "tag name expected"
  else match t.text with
    | "for" => loop b (e.entering "for")
    | "if" => branch b (e.entering "if")
    | "set" => assignment b (e.entering "set")
    | "include" => insertion b
    | name => fail (e.unknownTag name)

/-! Parts -/

/-- The part that begins here, unless the parts end. -/
def part? (e : Enclosing) (ends : List String) : Parse (Option Part) := do
  let t ← current
  match t.kind with
  | .data =>
    advance
    pure (some (.text t.text))
  | .variableBegin =>
    advance
    let value ← tuple b.expression false
    discard (expectKind .variableEnd)
    pure (some (.print value))
  | .blockBegin =>
    advance
    if ← sees fun t => t.kind == .name && ends.contains t.text then pure none
    else
      let part ← tag b e
      discard (expectKind .blockEnd)
      pure (some part)
  | _ => pure none

def partsFrom (e : Enclosing) (ends : List String) : Nat → Parse (List Part)
  | 0 => pure []
  | bound + 1 => do
    match ← part? b e ends with
    | none => pure []
    | some part =>
      let rest ← partsFrom e ends bound
      pure (part :: rest)

/-- Every part takes a token. -/
def parts (e : Enclosing) (ends : List String) : Parse (List Part) :=
  fun ts => partsFrom b e ends (ts.length + 1) ts

/-- The readers of a level. -/
def level : Nat → Below
  | 0 => Below.floor
  | n + 1 =>
    let b := level n
    ⟨expression b, negation b, signed b, parts b⟩

/-- All parts of a template; no level is entered without taking a token. -/
def template (ts : List Token) : Except Refusal (List Part) := do
  let ts ← reach ts
  let (all, _) ← parts (level ts.length) {} [] ts
  pure all

end Grammar

end BeanForge.Template

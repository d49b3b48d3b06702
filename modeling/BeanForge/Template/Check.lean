import BeanForge.Template.Constant
import BeanForge.Template.Token

/-!
# Checks of parsed templates

A template is refused when it names an unknown filter or test, or gives a value
to the state of a loop. Under a condition an unknown name is refused only when
the template comes to it; the parts of a loop are under no condition of their
own. What folding drops is not checked.
-/

namespace BeanForge.Template

namespace Check

/-- The fault of an unknown name outside of conditions. -/
def unknown (kind name : String) (isKnown isConditional : Bool) (line : Nat) : List Refusal :=
  if isKnown || isConditional then []
  else [.malformed ⟨"No " ++ kind ++ " named " ++ Text.quoted name ++ ".", line⟩]

mutual

/-- The faults of a folded expression, in order. -/
def inExpr (isConditional : Bool) : Expr → List Refusal
  | .literal value => if value.isWritable then [] else [.badNumber .unwritable]
  | .name _ => []
  | .tuple items => inExprs isConditional items
  | .list items => inExprs isConditional items
  | .member owner _ => inExpr isConditional owner
  | .item owner index => inExpr isConditional owner ++ inExpr isConditional index
  | .call function arguments =>
    inExpr isConditional function ++ inArguments isConditional arguments
  | .filter input name arguments line =>
    unknown "filter" name (Filter.named? name).isSome isConditional line ++
      inExpr isConditional input ++ inArguments isConditional arguments
  | .test input name arguments line =>
    unknown "test" name (Test.named? name).isSome isConditional line ++
      inExpr isConditional input ++ inArguments isConditional arguments
  | .negative operand => inExpr isConditional operand
  | .positive operand => inExpr isConditional operand
  | .inverse operand => inExpr isConditional operand
  | .arithmetic _ left right => inExpr isConditional left ++ inExpr isConditional right
  | .concatenation parts => inExprs isConditional parts
  | .comparison first others => inExpr isConditional first ++ inOthers isConditional others
  | .both left right => inExpr isConditional left ++ inExpr isConditional right
  | .either left right => inExpr isConditional left ++ inExpr isConditional right
  | .choice condition value otherwise _ =>
    inExpr true value ++ inExpr true condition ++ (match otherwise with
      | some e => inExpr true e
      | none => [])

def inExprs (isConditional : Bool) : List Expr → List Refusal
  | [] => []
  | e :: rest => inExpr isConditional e ++ inExprs isConditional rest

def inArguments (isConditional : Bool) : List (Option String × Expr) → List Refusal
  | [] => []
  | (_, e) :: rest => inExpr isConditional e ++ inArguments isConditional rest

def inOthers (isConditional : Bool) : List (Comparison × Expr) → List Refusal
  | [] => []
  | (_, e) :: rest => inExpr isConditional e ++ inOthers isConditional rest

end

/-- The faults of an expression that is still to be folded. -/
def inFolded (isConditional : Bool) (e : Expr) : List Refusal :=
  match e.folded with
  | .ok e => inExpr isConditional e
  | .error message => [.absent message]

/-- The faults of an expression; the items of a tuple or list are folded one by one. -/
def inWhole (isConditional : Bool) : Expr → List Refusal
  | .tuple items => items.flatMap (inFolded isConditional)
  | .list items => items.flatMap (inFolded isConditional)
  | e => inFolded isConditional e

/-- The faults of a printed expression, which has none if it is a constant text. -/
def inPrinted (isConditional : Bool) (e : Expr) : List Refusal :=
  if e.constantText?.isSome then [] else inWhole isConditional e

/-- The faults of filters on a text, the one that is applied last coming first. -/
def inRefinements : List Refinement → List Refusal
  | [] => []
  | r :: rest =>
    unknown "filter" r.name (Filter.named? r.name).isSome false r.line ++ inRefinements rest ++
      r.arguments.flatMap fun (_, e) => inFolded false e

/-- The faults of giving values to the state of a loop. -/
def stateAssignments (lines : List Nat) : List Refusal :=
  lines.map fun line =>
    .malformed ⟨"Can't assign to special loop variable in for-loop target", line⟩

mutual

/-- The faults of a part, in order. -/
def inPart (isConditional : Bool) : Part → List Refusal
  | .text _ => []
  | .print value => inPrinted isConditional value
  | .assign _ value => inWhole isConditional value
  | .capture _ refinements body => inParts false body ++ inRefinements refinements.reverse
  | .branch alternatives otherwise => inAlternatives alternatives ++ inParts true otherwise
  | .loop target source condition body otherwise =>
    (match condition with
      | some e => inWhole false e
      | none => []) ++
      stateAssignments
        (target.linesOf "loop" ++ Part.linesIn "loop" body ++ Part.linesIn "loop" otherwise) ++
      inWhole isConditional source ++ inParts false body ++ inParts false otherwise
  | .insert name _ => inWhole isConditional name

def inParts (isConditional : Bool) : List Part → List Refusal
  | [] => []
  | p :: rest => inPart isConditional p ++ inParts isConditional rest

/-- Conditions and parts are all under a condition. -/
def inAlternatives : List (Expr × List Part) → List Refusal
  | [] => []
  | (condition, body) :: rest => inWhole true condition ++ inParts true body ++ inAlternatives rest

end

end Check

end BeanForge.Template

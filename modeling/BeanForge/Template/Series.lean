import BeanForge.Template.Filter
import BeanForge.Template.Operation

/-!
# Series

What a filter makes of the items of a value comes one by one, when it is asked
for. A series begins with its first item, takes its own items from those of the
value, and gives none twice. A template at work keeps its series by number.
-/

namespace BeanForge.Template

/-- What a series does to each item that it takes. -/
inductive Mapping where
  /-- Follow a path of members; a value stands for a member that is not there. -/
  | follow (path : List Value) (instead : Value)
  | filter (f : Filter) (given : List Value) (named : List (String × Value))
  /-- No filter has the name that was given. -/
  | unknown (name : Value)
  deriving Repr, Inhabited

/-- How far a series has come. -/
inductive Feed where
  | waiting (input : Value) (given : List Value) (named : List (String × Value))
  | giving (source : Source) (mapping : Mapping)
  deriving Repr, Inhabited

abbrev Feeds := List Feed

/-- Work on a template, in which series may be opened and read. -/
abbrev Rendering (α : Type) := StateT Feeds (Except RenderFault) α

namespace Rendering

/-- The outcome of work that begins without any series. -/
def alone {α : Type} (work : Rendering α) : Rendered α :=
  Prod.fst <$> work []

/-- A new series that has not begun yet. -/
def opened (input : Value) (given : List Value) (named : List (String × Value)) :
    Rendering Value :=
  fun feeds => .ok (.series feeds.length, feeds ++ [.waiting input given named])

end Rendering

namespace Mapping

/-! Paths of members -/

/-- A step of a path: a position if it is written in digits, and else a name. -/
def pathStep (cs : List Char) : Rendered Value :=
  if cs.isEmpty || !cs.all Text.isDigit then .ok (.string (String.ofList cs))
  else match cs.mapM Text.decimalValue? with
    | some digits => .ok (.integer (Int.ofNat (digits.foldl (fun n d => 10 * n + d) 0)))
    | none => Rendered.misuse (.noDigits (String.ofList cs))

/-- The path from an item to the member that is asked for. -/
def path : Value → Rendered (List Value)
  | .null => .ok []
  | .string s => (Text.splitAt '.' s.toList).mapM pathStep
  | value => .ok [value]

/-- The member at the end of a path, or what stands for one that is not there. -/
def memberAt (instead : Value) (item : Value) (path : List Value) : Rendered Value :=
  path.foldlM (fun v step => do
    let found ← v.item step
    match found, instead with
    | .absent _ _, .null => pure found
    | .absent _ _, instead => pure instead
    | _, _ => pure found) item

/-! Arguments -/

/-- What is told when a value names no filter. -/
def unknownName (name : Value) : Rendered Value := do
  name.checkKey
  let reason := "No filter named " ++ (← name.inside) ++ "."
  .error (.refused (match name with
    | .absent message _ =>
      reason ++ " (" ++ message ++ "; did you forget to quote the callable name?)"
    | _ => reason))

/-- What is asked for: a member of each item, or a filter that is named. -/
def ofArguments (given : List Value) (named : List (String × Value)) : Rendered Mapping :=
  match given with
  | [] =>
    match Keyed.get? "attribute" named with
    | none => .error (.refused "map requires a filter argument")
    | some member =>
      match named.find? fun e => e.1 != "attribute" && e.1 != "default" with
      | some (name, _) =>
        .error (.refused ("Unexpected keyword argument " ++ Text.quoted name))
      | none => do
        pure (.follow (← path member) ((Keyed.get? "default" named).getD .null))
  | .string text :: given =>
    match Filter.named? text with
    | some f => .ok (.filter f given named)
    | none => .ok (.unknown (.string text))
  | name :: _ => .ok (.unknown name)

end Mapping

namespace Feed

/-- The series that has begun; a value that does not count has no items. -/
def begun : Feed → Rendered Feed
  | .waiting input given named => do
    if ← input.truth then
      let mapping ← Mapping.ofArguments given named
      pure (.giving (← input.source) mapping)
    else pure (.giving (.items []) (.follow [] .null))
  | feed => .ok feed

/-- Where a series takes its items from, if it can. -/
def source? : Feed → Option Source
  | .waiting input _ _ => input.source.toOption
  | .giving source _ => some source

end Feed

namespace Feeds

/-- How many items a source has at most; `depth` exceeds the number of series on the way. -/
def room (feeds : Feeds) : Nat → Source → Nat
  | _, .items left => left.length
  | 0, .series _ => 0
  | depth + 1, .series number =>
    match feeds[number]?.bind Feed.source? with
    | some source => room feeds depth source
    | none => 0

end Feeds

/-! Reading -/

/-- Apply a filter to a value with further arguments. -/
abbrev Application := Filter → Value → List Value → List (String × Value) → Rendering Value

/-- The next item of the series with a number, if there is one left. -/
abbrev Reader := Nat → Rendering (Option Value)

/-- Items, and what goes wrong after them. -/
structure Items where
  all : List Value
  fault : Option RenderFault := none

namespace Items

/-- All items, which must end well. -/
def complete (s : Items) : Rendered (List Value) :=
  match s.fault with
  | some e => .error e
  | none => .ok s.all

/-- The values of a function on items, up to the first that has none. -/
def mapFrom (f : Value → Rendered Value) (fault : Option RenderFault) : List Value → Items
  | [] => ⟨[], fault⟩
  | v :: rest =>
    match f v with
    | .error e => ⟨[], some e⟩
    | .ok w =>
      let tail := mapFrom f fault rest
      ⟨w :: tail.all, tail.fault⟩

def map (f : Value → Rendered Value) (s : Items) : Items :=
  mapFrom f s.fault s.all

end Items

namespace Reader

variable (read : Reader)

/-- The items that a series still gives, `bound` at most. -/
def itemsFrom (number : Nat) : Nat → Feeds → Items × Feeds
  | 0, feeds => (⟨[], none⟩, feeds)
  | bound + 1, feeds =>
    match read number feeds with
    | .error e => (⟨[], some e⟩, feeds)
    | .ok (none, feeds) => (⟨[], none⟩, feeds)
    | .ok (some v, feeds) =>
      let (tail, feeds) := itemsFrom number bound feeds
      (⟨v :: tail.all, tail.fault⟩, feeds)

/-- All items of a source, but no more than `bound` if it is a series. -/
def upTo (bound : Nat) : Source → Rendering Items
  | .items all => pure ⟨all, none⟩
  | .series number => fun feeds => .ok (itemsFrom read number bound feeds)

/-- All items of a source; a series is asked once more than it can have items. -/
def items (source : Source) : Rendering Items := fun feeds =>
  upTo read (feeds.room (feeds.length + 1) source + 1) source feeds

/-- The items that a series would still give. -/
def ahead (number : Nat) : Rendering Items := fun feeds =>
  (items read (.series number) feeds).map fun (found, _) => (found, feeds)

/-- The first item of a source. -/
def first? : Source → Rendering (Option Value)
  | .items all => pure all.head?
  | .series number => read number

end Reader

end BeanForge.Template

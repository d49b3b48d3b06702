import BeanForge.Failure
import BeanForge.Failure.Signature
import BeanForge.Json.Display

/-!
# Reports of failures

A failure can be told with values of any kind. Its message shows them as texts
and its details keep them as they are; hints and further details are added by
whoever reports, unless the failure has its own.
-/

namespace BeanForge.Failure

structure Report where
  kind : Kind
  message : Json
  hints : Json
  details : Json

namespace Kind

/-- What has to be told of a failure of each kind. -/
def signature (kind : Kind) : Signature :=
  let call := kind.name ++ ".__init__"
  match kind with
  | general | template =>
    { call := general.name ++ ".__init__", required := ["message"], named := ["hints", "details"] }
  | notAccessor => { call, required := ["method", "reason"], takesOthers := true }
  | templateNotFound =>
    { call, required := ["name"], optional := ["search_path"], takesOthers := true }
  | templateSyntax =>
    { call, required := ["name", "reason"], optional := ["lineno"], takesOthers := true }
  | rendering => { call, required := ["name", "reason"], takesOthers := true }
  | emission => { call, required := ["qualified_name", "reason"], takesOthers := true }
  | discovery => { call, required := ["source", "reason"], takesOthers := true }
  | configuration => { call, required := ["message"], optional := ["key"], takesOthers := true }

end Kind

/-- The folders that a search went through, as a list or as what stands for one. -/
def foldersOf (searchPath : Json) : Except Misfit (List String) :=
  match searchPath.items? with
  | none => .error .notJoinable
  | some items => textsFrom 0 items
where
  textsFrom (index : Nat) : List Json → Except Misfit (List String)
    | [] => .ok []
    | .string s :: rest => (s :: ·) <$> textsFrom (index + 1) rest
    | item :: _ => .error (.notText index item.kindName)

/-- The message of a failure, and the remarks that it makes itself. -/
def Kind.remarks (kind : Kind) (t : Told) : Except Misfit (Json × Members) :=
  let shown (name : String) : String := (t.get name).shown
  let told (f : Failure) (details : Members) : Except Misfit (Json × Members) :=
    .ok (.string f.message, [("details", .object details)])
  match kind with
  | general | template => .ok (t.get "message", t.known.filter (·.1 != "message"))
  | notAccessor =>
    told (.notAccessor (shown "method") (shown "reason"))
      [("method", t.get "method"), ("reason", t.get "reason")]
  | templateNotFound => do
    let searchPath := t.get "search_path"
    let hints ← if searchPath.holds then
        do pure [Json.string (searchedText (← foldersOf searchPath))]
      else pure []
    pure (.string (Failure.templateNotFound (shown "name") none).message,
      [("hints", .array hints),
        ("details", .object [("template", t.get "name"), ("search_path", searchPath)])])
  | templateSyntax =>
    let line := t.get "lineno"
    .ok (.string (syntaxText (shown "name") (shown "reason")
        (match line with
          | .null => none
          | line => some line.shown)),
      [("details", .object [("template", t.get "name"), ("lineno", line)])])
  | rendering => told (.rendering (shown "name") (shown "reason")) [("template", t.get "name")]
  | emission =>
    told (.emission (shown "qualified_name") (shown "reason"))
      [("qualified_name", t.get "qualified_name")]
  | discovery => told (.discovery (shown "source") (shown "reason")) [("source", t.get "source")]
  | configuration =>
    let key := t.get "key"
    .ok (t.get "message", [("details", .object (if key.holds then [("key", key)] else []))])

/-- The call that takes the remarks of all failures, as its own kind tells it. -/
def inFull : String :=
  Kind.home ++ Kind.general.signature.call

/-- Remarks of a failure together with those of its reporter. -/
def together (own others : Members) : Except Misfit Members :=
  match (Keyed.keys others).find? (Keyed.keys own).contains with
  | some name => .error (.repeatedNamed inFull name)
  | none => .ok (own ++ others)

/-- The report of a failure of a kind from values in order and values by name. -/
def Kind.report (kind : Kind) (values : List Json) (named : Members) : Except Misfit Report := do
  let t ← kind.signature.fill values named
  let (message, own) ← kind.remarks t
  let remarks ← together own t.others
  let t ← Kind.general.signature.fill [message] remarks
  let orEmpty (value empty : Json) : Json := if value.holds then value else empty
  pure ⟨kind, message, orEmpty (t.get "hints") (.array []), orEmpty (t.get "details") (.object [])⟩

end BeanForge.Failure

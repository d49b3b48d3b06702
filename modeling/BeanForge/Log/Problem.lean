import BeanForge.Failure.Report
import BeanForge.Log.Message
import BeanForge.Log.Refusal

/-!
# Problems in log records

A record may tell of a problem: of what kind it is, and what is told of it. Other
values in its place are of no use to whoever writes the record.
-/

namespace BeanForge.Log

/-- The problem that a record tells about. -/
inductive Problem where
  /-- A problem of a known kind; `home` stands before the kind in accounts. -/
  | known (kind message : String) (home : String := "")
  | unknown
  /-- Something that tells of no problem. -/
  | other (value : Value)
  deriving Repr

namespace Problem

/-- A problem of a kind with what is told of it. Kinds of failures word their own messages, and
a missing key is told as it is written. -/
def ofKind (kind : String) (told : Json) : Except Refusal Problem :=
  match Failure.Kind.named? kind with
  | some k => do
    let report ← (k.report [told] []).mapError .misfit
    pure (known kind report.message.shown Failure.Kind.home)
  | none =>
    .ok (known kind (if kind = "KeyError" then String.ofList told.shownInside else told.shown))

/-- What a value tells of a problem; only three nulls are known to tell something. -/
def ofValue (value : Value) : Option Problem :=
  match value with
  | .json (.array [.null, .null, .null]) => some unknown
  | value => if value.holds then some (other value) else none

def accountOf (kind message : String) : String :=
  if message = "" then kind else kind ++ ": " ++ message

/-- What comes of a look at the first or the third of the parts of something. -/
def flawOf (index : Nat) (memberName : String) (value : Value) : Flaw :=
  match value with
  | .json (.string s) =>
    if index < s.length then .noMember "str" memberName else .noIndex "string"
  | .json (.array items) =>
    match items[index]? with
    | some item => .noMember item.kindName memberName
    | none => .noIndex "list"
  | .json (.object _) => .noNumberedKey index
  | value => .notSubscriptable value.kindName

/-- The account of the problem, one line. -/
def account : Problem → Except Flaw String
  | known kind message home => .ok (accountOf (home ++ kind) message)
  | unknown => .ok "NoneType: None"
  | other value => .error (flawOf 2 "tb_frame" value)

def toJson : Problem → Except Flaw Json
  | known kind message home => .ok (.object [("type", .string kind), ("message", .string message),
      ("traceback", .strings [accountOf (home ++ kind) message ++ "\n"])])
  | unknown => .ok (.object [("type", .null), ("message", .null),
      ("traceback", .strings ["NoneType: None\n"])])
  | other value => .error (flawOf 0 "__name__" value)

end Problem

end BeanForge.Log

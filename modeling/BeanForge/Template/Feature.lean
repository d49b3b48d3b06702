import BeanForge.Template.Value

/-!
# Features of kinds

What values of a kind offer beside their contents: functions under fixed names,
the kind itself, and the parts of a number. A field also has the members of its
record, and the state of a loop those of the loop.
-/

namespace BeanForge.Template.Value

open Text

def words (text : String) : List String :=
  (splitAt ' ' text.toList).map String.ofList

/-- Names that every value knows. -/
def commonFeatures : List String := words
  "__delattr__ __dir__ __doc__ __eq__ __format__ __ge__ __getattribute__ __getstate__ __gt__ __hash__ __init__ __init_subclass__ __le__ __lt__ __ne__ __new__ __reduce__ __reduce_ex__ __repr__ __setattr__ __sizeof__ __str__ __subclasshook__"

def textFeatures : List String := words
  "__add__ __contains__ __getitem__ __getnewargs__ __iter__ __len__ __mod__ __mul__ __rmod__ __rmul__ capitalize casefold center count encode endswith expandtabs find format format_map index isalnum isalpha isascii isdecimal isdigit isidentifier islower isnumeric isprintable isspace istitle isupper join ljust lower lstrip maketrans partition removeprefix removesuffix replace rfind rindex rjust rpartition rsplit rstrip split splitlines startswith strip swapcase title translate upper zfill"

def tupleFeatures : List String := words
  "__add__ __class_getitem__ __contains__ __getitem__ __getnewargs__ __iter__ __len__ __mul__ __rmul__ count index"

def listFeatures : List String := words
  "__add__ __class_getitem__ __contains__ __delitem__ __getitem__ __iadd__ __imul__ __iter__ __len__ __mul__ __reversed__ __rmul__ __setitem__ append clear copy count extend index insert pop remove reverse sort"

def dictFeatures : List String := words
  "__class_getitem__ __contains__ __delitem__ __getitem__ __ior__ __iter__ __len__ __or__ __reversed__ __ror__ __setitem__ clear copy fromkeys get items keys pop popitem setdefault update values"

def numberFeatures : List String := words
  "__abs__ __add__ __bool__ __divmod__ __float__ __floor__ __ceil__ __floordiv__ __getnewargs__ __int__ __mod__ __mul__ __neg__ __pos__ __pow__ __radd__ __rdivmod__ __rfloordiv__ __rmod__ __rmul__ __round__ __rpow__ __rsub__ __rtruediv__ __sub__ __truediv__ __trunc__ as_integer_ratio conjugate"

def integerFeatures : List String := numberFeatures ++ words
  "__and__ __index__ __invert__ __lshift__ __or__ __rand__ __rlshift__ __ror__ __rrshift__ __rshift__ __rxor__ __xor__ bit_count bit_length from_bytes to_bytes"

def realFeatures : List String := numberFeatures ++ words
  "__getformat__ fromhex hex is_integer"

def seriesFeatures : List String := words
  "__del__ __iter__ __name__ __next__ __qualname__ close gi_code gi_frame gi_running gi_suspended gi_yieldfrom send throw"

def loopFeatures : List String := words
  "__call__ __dict__ __iter__ __len__ __module__ __next__ __weakref__ changed cycle"

def kindFeatures : List String := words
  "__abstractmethods__ __base__ __bases__ __basicsize__ __call__ __dict__ __dictoffset__ __flags__ __instancecheck__ __itemsize__ __mro__ __or__ __prepare__ __ror__ __subclasscheck__ __subclasses__ __text_signature__ __weakrefoffset__ mro"

def fieldFeatures : List String := words
  "__annotations__ __class_getitem__ __copy__ __deepcopy__ __fields__ __fields_set__ __getattr__ __iter__ __pretty__ __replace__ __rich_repr__ __setstate__ __signature__ model_fields model_fields_set"

/-- Functions that go with one field. -/
def recordMethods : List String := words
  "copy dict json model_copy model_dump model_dump_json model_post_init"

/-- Functions that go with the kind of fields. -/
def recordKindMethods : List String := words
  "construct from_orm model_construct model_json_schema model_parametrized_name model_rebuild model_validate model_validate_json model_validate_strings parse_file parse_obj parse_raw schema schema_json update_forward_refs validate"

/-- The names of the functions that values of a kind offer. -/
def featuresOf (kindName : String) : List String :=
  match kindName with
  | "str" => textFeatures
  | "tuple" => tupleFeatures
  | "list" => listFeatures
  | "dict" => dictFeatures
  | "int" | "bool" => integerFeatures
  | "float" => realFeatures
  | "generator" => seriesFeatures
  | "NoneType" => ["__bool__"]
  | "jinja2.runtime.LoopContext" => loopFeatures
  | "entitygen.core.types.FieldEntry" => fieldFeatures ++ recordMethods
  | "builtin_function_or_method" | "method" => ["__call__", "__self__"]
  | _ => []

/-- The names of the functions that a value offers; a kind also has those of its values. -/
def featureNames : Value → List String
  | kind name => kindFeatures ++ featuresOf name
  | value => featuresOf value.fullKindName

/-- The part of a kind's full name behind its last dot. -/
def shortName (name : String) : String :=
  String.ofList (((splitAt '.' name.toList).getLast?).getD [])

/-- The part of a kind's full name before its last dot. -/
def homeName (name : String) : String :=
  let parts := (splitAt '.' name.toList).map String.ofList
  if parts.length < 2 then "builtins" else ".".intercalate parts.dropLast

/-- What the kind of fields offers, and each field with it. -/
def recordKindMember? (member : String) : Option Value :=
  if member = "__doc__" then some (string "A field inferred from accessor naming.")
  else if member = "model_config" then some (dict [("frozen", bool true)])
  else if member = "model_computed_fields" then some (dict [])
  else if member = "__slots__" then
    some (tuple (["__dict__", "__pydantic_fields_set__", "__pydantic_extra__",
      "__pydantic_private__"].map string))
  else if recordKindMethods.contains member then
    some (method ("BaseModel." ++ member) (String.ofList (shownKind fieldKind)))
  else none

/-- Kinds whose values are also values of a kind that is not the most general one. -/
def widerKinds : List (String × String) :=
  [("bool", "int"), (fieldKind, "pydantic.main.BaseModel"),
    ("jinja2.runtime.StrictUndefined", "jinja2.runtime.Undefined")]

/-- The kinds around a kind, from the next one to the most general one. -/
def kindsAround (name : String) : List String :=
  if name = "object" then []
  else (Keyed.get? name widerKinds).toList ++ ["object"]

/-- What a kind tells about itself. -/
def kindMember? (name member : String) : Option Value :=
  let around := (kindsAround name).map kind
  if member = "__name__" || member = "__qualname__" then some (string (shortName name))
  else if member = "__module__" then some (string (homeName name))
  else if member = "__base__" then some (around.head?.getD null)
  else if member = "__bases__" then some (tuple (around.take 1))
  else if member = "__mro__" then some (tuple (kind name :: around))
  else if name = fieldKind then recordKindMember? member
  else none

/-- The parts of a whole number as a fraction and as a complex number. -/
def integerMember? (n : Int) (member : String) : Option Value :=
  if member = "real" || member = "numerator" then some (integer n)
  else if member = "imag" then some (integer 0)
  else if member = "denominator" then some (integer 1)
  else none

def realMember? (x : Binary64) (member : String) : Option Value :=
  if member = "real" then some (real x)
  else if member = "imag" then some (real (Binary64.zero false))
  else none

def recordMember? (f : Field) (member : String) : Option Value :=
  match Keyed.get? member (fieldMembers f) with
  | some value => some value
  | none =>
    if member = "__dict__" then some (dict (fieldMembers f))
    else if member = "__module__" then some (string (homeName fieldKind))
    else if ["model_extra", "__pydantic_extra__", "__pydantic_private__"].contains member then
      some null
    else if recordMethods.contains member then
      some (method ("BaseModel." ++ member) (String.ofList (shownRecord f)))
    else recordKindMember? member

/-- What a function tells about itself. -/
def functionMember? (name member : String) : Option Value :=
  if member = "__name__" then some (string (shortName name))
  else if member = "__qualname__" then some (string name)
  else none

/-- What a value offers under a name. -/
def feature? (owner : Value) (member : String) : Option Value :=
  let special := match owner with
    | kind name => kindMember? name member
    | real x => realMember? x member
    | field f => recordMember? f member
    | function name | method name _ => functionMember? name member
    | list _ | dict _ => if member = "__hash__" then some null else none
    | null => if member = "__doc__" then some null else none
    | owner => owner.int?.bind (integerMember? · member)
  match special with
  | some value => some value
  | none =>
    if member = "__class__" then some (kind owner.fullKindName)
    else if commonFeatures.contains member || owner.featureNames.contains member then
      some (function (owner.kindName ++ "." ++ member))
    else none

/-- Names that every template knows unless they are given another meaning. -/
def global? (name : String) : Option Value :=
  if name = "range" || name = "dict" then some (kind name)
  else if name = "cycler" then some (kind "jinja2.utils.Cycler")
  else if name = "joiner" then some (kind "jinja2.utils.Joiner")
  else if name = "namespace" then some (kind "jinja2.utils.Namespace")
  else if name = "lipsum" then some (function "generate_lorem_ipsum")
  else none

end BeanForge.Template.Value

import BeanForge.Binary64.Text
import BeanForge.Json.Basic
import BeanForge.Text.Quoted

/-!
# Values inside messages

The form a value takes inside a message: a text stands as it is, and texts
inside arrays and objects are quoted.
-/

namespace BeanForge.Json

open Text

mutual

def shownInside : Json → List Char
  | null => "None".toList
  | bool true => "True".toList
  | bool false => "False".toList
  | integer n => intDigits n
  | real x => x.digits
  | string s => quotedChars s.toList
  | array items => '[' :: shownItems items ++ [']']
  | object members => '\x7b' :: shownMembers members ++ ['\x7d']

def shownItems : List Json → List Char
  | [] => []
  | [item] => shownInside item
  | item :: rest => shownInside item ++ ',' :: ' ' :: shownItems rest

def shownMembers : List (String × Json) → List Char
  | [] => []
  | [(name, value)] => quotedChars name.toList ++ ':' :: ' ' :: shownInside value
  | (name, value) :: rest =>
    quotedChars name.toList ++ ':' :: ' ' :: shownInside value ++ ',' :: ' ' :: shownMembers rest

end

def shown : Json → String
  | string s => s
  | value => String.ofList value.shownInside

/-- The name of a value's kind in messages about the wrong kind. -/
def kindName : Json → String
  | null => "NoneType"
  | bool _ => "bool"
  | integer _ => "int"
  | real _ => "float"
  | string _ => "str"
  | array _ => "list"
  | object _ => "dict"

end BeanForge.Json

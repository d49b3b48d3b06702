import BeanForge.Text.CharClass
import BeanForge.Text.Half
import BeanForge.Text.Hex

/-!
# Quoted texts

A text shown inside a message stands between single quotes, or between double
quotes when it holds single quotes only. Characters without a visible form are
written as escapes of two, four or eight hexadecimal digits.
-/

namespace BeanForge.Text

/-- Double quotes are taken only when they save escaping. -/
def quoteFor (cs : List Char) : Char :=
  if cs.contains '\'' && !cs.contains '"' then '"' else '\''

def quotedChar (quote c : Char) : List Char :=
  if c = quote || c = '\\' then ['\\', c]
  else if c = '\n' then ['\\', 'n']
  else if c = '\r' then ['\\', 'r']
  else if c = '\t' then ['\\', 't']
  else if isPrintable c then [c]
  else escapedChar c
where
  escapedChar (c : Char) : List Char :=
    let n := numberOf c
    if n < 0x100 then '\\' :: 'x' :: hexFixed 2 n
    else if n < 0x10000 then '\\' :: 'u' :: hexFixed 4 n
    else '\\' :: 'U' :: hexFixed 8 n

def quotedChars (cs : List Char) : List Char :=
  let quote := quoteFor cs
  quote :: cs.flatMap (quotedChar quote) ++ [quote]

def quoted (s : String) : String :=
  String.ofList (quotedChars s.toList)

end BeanForge.Text

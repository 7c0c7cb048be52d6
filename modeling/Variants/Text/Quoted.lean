import Variants.Text.Hex
import Variants.Text.Printable

/-!
Quoted texts as messages show them: in single quotes, unless the text holds a single quote and no
double one. Unprintable characters are written by their number.
-/

namespace Variants

def escapedChar (quote c : Char) : List Char :=
  if c = quote ∨ c = '\\' then ['\\', c]
  else if c = '\n' then ['\\', 'n']
  else if c = '\r' then ['\\', 'r']
  else if c = '\t' then ['\\', 't']
  else if isPrintable c then [c]
  else if c.toNat < 0x100 then '\\' :: 'x' :: hexDigits 2 c.toNat
  else if c.toNat < 0x10000 then '\\' :: 'u' :: hexDigits 4 c.toNat
  else '\\' :: 'U' :: hexDigits 8 c.toNat

def quoteFor (text : List Char) : Char :=
  if text.contains '\'' && !text.contains '"' then '"' else '\''

def quoted (text : String) : String :=
  let quote := quoteFor text.toList
  String.ofList (quote :: text.toList.flatMap (escapedChar quote) ++ [quote])

def quotedList (texts : List String) : String :=
  "[" ++ ", ".intercalate (texts.map quoted) ++ "]"

/-- A row in parentheses; a single entry is followed by a comma. -/
def quotedRow (texts : List String) : String :=
  match texts with
  | [text] => "(" ++ quoted text ++ ",)"
  | _ => "(" ++ ", ".intercalate (texts.map quoted) ++ ")"

end Variants

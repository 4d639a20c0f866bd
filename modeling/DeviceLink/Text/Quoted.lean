import DeviceLink.Text.Concealed
import DeviceLink.Text.Hexadecimal
/-!
# Text — quoted for a report

A text between double quotes, with the characters written as escapes that
would end it, break the line or not be seen. A file's path also escapes the
single quote.
-/

namespace DeviceLink

namespace Text

/-- A character inside quotes. -/
def quotedChar (singleQuote : Bool) (c : Char) : List Char :=
  if c = '\x00' then ['\\', '0']
  else if c = '\t' then ['\\', 't']
  else if c = '\r' then ['\\', 'r']
  else if c = '\n' then ['\\', 'n']
  else if c = '\\' then ['\\', '\\']
  else if c = '"' then ['\\', '"']
  else if c = '\'' && singleQuote then ['\\', '\'']
  else if isConcealed c then
    ['\\', 'u', '\x7b'] ++ hexDigits c.toNat ++ ['\x7d']
  else [c]

/-- A text between quotes. -/
def quoted (text : String) : String :=
  String.ofList ('"' :: text.toList.flatMap (quotedChar false) ++ ['"'])

/-- A path between quotes. -/
def quotedPath (path : String) : String :=
  String.ofList ('"' :: path.toList.flatMap (quotedChar true) ++ ['"'])

example : quoted "a\"b\\c\n" = "\"a\\\"b\\\\c\\n\"" := by decide +kernel

end Text

end DeviceLink

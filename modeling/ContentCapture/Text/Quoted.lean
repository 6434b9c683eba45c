import ContentCapture.Text.Unprintable

namespace ContentCapture
namespace Text

/-!
# Quoted text

Diagnostics show a text between double quotes, so that its ends and its odd
characters can be seen.  The quote and the backslash are escaped, four controls
have a letter of their own, and every other unprintable character is spelled out
by its number in hexadecimal.
-/

/-- The number of a character in lower-case hexadecimal digits. -/
def hexadecimal (c : Char) : List Char :=
  Nat.toDigits 16 c.toNat

/-- One character as it stands in a quotation. -/
def quoteChar (c : Char) : List Char :=
  if c = '"' then ['\\', '"']
  else if c = '\\' then ['\\', '\\']
  else if c = '\n' then ['\\', 'n']
  else if c = '\r' then ['\\', 'r']
  else if c = '\t' then ['\\', 't']
  else if c = '\x00' then ['\\', '0']
  else if isUnprintable c then ['\\', 'u', '\x7b'] ++ hexadecimal c ++ ['\x7d']
  else [c]

/-- A text between quotes, with all that needs escaping escaped. -/
def quote (text : String) : String :=
  String.ofList ('"' :: text.toList.flatMap quoteChar ++ ['"'])

end Text
end ContentCapture

import ContentCapture.Text.Decimal
import ContentCapture.Text.Quoted

namespace ContentCapture
namespace Text

/-!
# Diagnostic texts

Diagnostics name the kind of a thing and show its parts: a single part in
parentheses, several in braces with their names.  An open record shows some of
its parts only and says so by two dots.
-/

/-- The kind of a thing that has one part. -/
def tagged (kind part : String) : String :=
  kind ++ "(" ++ part ++ ")"

/-- Names with their parts, with commas between them. -/
def namedParts (parts : List (String × String)) : String :=
  ", ".intercalate (parts.map fun (name, part) => name ++ ": " ++ part)

/-- The kind of a thing and all of its parts. -/
def record (kind : String) (parts : List (String × String)) : String :=
  kind ++ " \x7b " ++ namedParts parts ++ " \x7d"

/-- The kind of a thing and some of its parts. -/
def openRecord (kind : String) (parts : List (String × String)) : String :=
  kind ++ " \x7b " ++ namedParts parts ++ ", .. \x7d"

/-- The parts of a list. -/
def listed (parts : List String) : String :=
  "[" ++ ", ".intercalate parts ++ "]"

def ofBool (value : Bool) : String :=
  if value then "true" else "false"

end Text
end ContentCapture

import ContentCapture.Text.Decimal
import ContentCapture.Text.Mark

namespace ContentCapture
namespace Json

/-!
# Complaints

A complaint about JSON says in words what is wrong, and by line and column where.
Lines are counted from one, so line zero is that of a complaint about no place in
particular, and then only the words are shown.  A complaint that comes as one
text is taken apart when a place stands at its end.
-/

/-- What is wrong, and where. -/
structure Complaint where
  words : String
  line : UInt64 := 0
  column : UInt64 := 0
  deriving DecidableEq, Repr

namespace Complaint

/-- What stands in front of a line number. -/
def lineMark : String := " at line "

/-- What stands in front of a column number. -/
def columnMark : String := " column "

def message (complaint : Complaint) : String :=
  if complaint.line = 0 then complaint.words
  else
    complaint.words ++ lineMark ++ Text.ofNat complaint.line.toNat ++ columnMark ++
      Text.ofNat complaint.column.toNat

/-- The line and the column, if a text is nothing but these two numbers and the
mark between them. -/
def place? (text : List Char) : Option (UInt64 × UInt64) := do
  let line ← Text.word64? (text.takeWhile Text.isDigit)
  let column ← Text.behind? columnMark.toList (text.dropWhile Text.isDigit)
  return (line, ← Text.word64? column)

/-- The words and the place of a complaint that is one text and ends with a
place. -/
def placed? (text : String) : Option Complaint := do
  let (words, place) ← Text.aroundLast? lineMark.toList text.toList
  let (line, column) ← place? place
  return ⟨String.ofList words, line, column⟩

/-- The complaint that a text makes: all of the text is words, unless it ends
with a place. -/
def ofText (text : String) : Complaint :=
  (placed? text).getD { words := text }

end Complaint
end Json
end ContentCapture

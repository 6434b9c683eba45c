namespace ContentCapture
namespace Text

/-!
# Reports

A report is a list of lines.  It is written with an indentation of the reader's
choice in front of every line, and the indentation is no part of the lines.  A
reader may stop taking the text after some number of line ends; the report is
then cut off before the first character that the reader did not take.
-/

/-- The text of a report with an indentation. -/
def indented (indentation : String) (lines : List String) : String :=
  String.join (lines.map fun line => indentation ++ line ++ "\n")

theorem indented_cons (indentation line : String) (lines : List String) :
    indented indentation (line :: lines) =
      indentation ++ line ++ "\n" ++ indented indentation lines := by
  rw [indented, List.map_cons, String.join_cons, indented]

theorem indented_append (indentation : String) (front back : List String) :
    indented indentation (front ++ back) =
      indented indentation front ++ indented indentation back := by
  rw [indented, List.map_append, String.join_append, indented, indented]

/-- Indented lines may be written with a greater indentation instead. -/
theorem indented_map (indentation more : String) (lines : List String) :
    indented indentation (lines.map fun line => more ++ line) =
      indented (indentation ++ more) lines := by
  rw [indented, indented, List.map_map]
  congr 2
  funext line
  simp only [Function.comp_apply, String.append_assoc]

/-- The part of a text up to a number of line ends, and the rest. -/
def splitLines : Nat → List Char → List Char × List Char
  | 0, text => ([], text)
  | _ + 1, [] => ([], [])
  | limit + 1, c :: rest =>
      let (taken, left) := splitLines (if c = '\n' then limit else limit + 1) rest
      (c :: taken, left)
termination_by structural _ text => text

/-- What a reader takes of a text who stops after some number of line ends, if
there is one, and whether that is all of it. -/
def taken (limit : Option Nat) (text : String) : String × Bool :=
  match limit with
  | none => (text, true)
  | some limit =>
      let (taken, left) := splitLines limit text.toList
      (String.ofList taken, left.isEmpty)

end Text
end ContentCapture

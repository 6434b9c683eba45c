namespace ContentCapture
namespace Text

/-!
# Marks

A mark is a text that is looked for in another one: at its front, or wherever it
stands last.  A text is then what stands in front of the mark, the mark itself,
and what stands behind it.  A mark that is a single character is also looked for
where it stands first.
-/

/-- What stands behind a mark at the front of a text. -/
def behind? : List Char → List Char → Option (List Char)
  | [], text => some text
  | _ :: _, [] => none
  | c :: mark, d :: text => if c = d then behind? mark text else none

/-- What stands in front of the last place of a mark in a text, and what stands
behind it. -/
def aroundLast? (mark : List Char) : List Char → Option (List Char × List Char)
  | [] => (behind? mark []).map fun after => ([], after)
  | c :: text =>
      match aroundLast? mark text with
      | some (before, after) => some (c :: before, after)
      | none => (behind? mark (c :: text)).map fun after => ([], after)

/-- A text is a mark at its front and what stands behind it. -/
theorem behind?_eq_some_iff {mark text after : List Char} :
    behind? mark text = some after ↔ text = mark ++ after := by
  induction mark generalizing text with
  | nil => simp [behind?]
  | cons c mark inductionHypothesis =>
      cases text with
      | nil => simp [behind?]
      | cons d text =>
          by_cases h : c = d
          · simp [behind?, h, inductionHypothesis]
          · simp [behind?, h, Ne.symm h]

/-- A text is cut at the first place of a character. -/
theorem takeWhile_append_cons {mark : Char} {front : List Char} (absent : mark ∉ front)
    (rest : List Char) : (front ++ mark :: rest).takeWhile (· != mark) = front := by
  have inside : ∀ c ∈ front, (c != mark) = true := fun c member =>
    bne_iff_ne.mpr fun same => absent (same ▸ member)
  rw [List.takeWhile_append_of_pos inside, List.takeWhile_cons_of_neg (by simp), List.append_nil]

theorem dropWhile_append_cons {mark : Char} {front : List Char} (absent : mark ∉ front)
    (rest : List Char) : (front ++ mark :: rest).dropWhile (· != mark) = mark :: rest := by
  have inside : ∀ c ∈ front, (c != mark) = true := fun c member =>
    bne_iff_ne.mpr fun same => absent (same ▸ member)
  rw [List.dropWhile_append_of_pos inside, List.dropWhile_cons_of_neg (by simp)]

end Text
end ContentCapture

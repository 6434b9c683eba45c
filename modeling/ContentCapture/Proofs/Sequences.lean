import Mathlib.Data.List.Basic

namespace ContentCapture

/-!
# Places in lists

Runs, journals and documents are lists, and what is said of them is often said of a place: of
what stands in front of an element, and of what stands behind it.  These are the facts about
places that have nothing to do with what the elements are.
-/

/-- A place in a list to which one element was added is that of this element, or else it is a
place in the list that was there before. -/
theorem concat_eq_append_cons_iff {α : Type} {front before later : List α} {last element : α} :
    front ++ [last] = before ++ element :: later ↔
      (front = before ∧ last = element ∧ later = []) ∨
        ∃ between, front = before ++ element :: between ∧ later = between ++ [last] := by
  constructor
  · intro split
    rcases List.eq_nil_or_concat later with rfl | ⟨between, final, rfl⟩
    · rcases List.append_inj' split rfl with ⟨rfl, same⟩
      exact .inl ⟨rfl, List.singleton_inj.mp same, rfl⟩
    · rw [List.concat_eq_append, ← List.cons_append, ← List.append_assoc] at split
      rcases List.append_inj' split rfl with ⟨rfl, same⟩
      cases same
      exact .inr ⟨between, rfl, List.concat_eq_append⟩
  · rintro (⟨rfl, rfl, rfl⟩ | ⟨between, rfl, rfl⟩)
    · rfl
    · rw [List.append_assoc, List.cons_append]

/-- An element that stands behind the first part of a list is in the second one. -/
theorem mem_of_prefix_append {α : Type} {list first second : List α} {element : α}
    (h : list ++ [element] <+: first ++ second) (behind : first.length ≤ list.length) :
    element ∈ second := by
  rcases h with ⟨rest, hrest⟩
  rw [List.append_assoc] at hrest
  rcases List.append_eq_append_iff.mp hrest with ⟨between, cut, latter⟩ | ⟨between, cut, latter⟩
  · have lengths := congrArg List.length cut
    rw [List.length_append] at lengths
    have none : between = [] := List.length_eq_zero_iff.mp (by omega)
    rw [none, List.nil_append] at latter
    simp [← latter]
  · simp [latter]

/-- An element that a function tells from all others has one place: of two places the earlier one
would stand before the later one, where its label would recur. -/
theorem eq_of_prefix_of_nodup {α β : Type} {label? : α → Option β} {list first second : List α}
    (distinct : (list.filterMap label?).Nodup) {one other : α} {label : β}
    (hone : label? one = some label) (hother : label? other = some label)
    (hfirst : first ++ [one] <+: list) (hsecond : second ++ [other] <+: list) :
    first = second ∧ one = other := by
  have apart : ∀ {first second : List α} {one other : α}, label? one = some label →
      label? other = some label → first ++ [one] <+: list → second ++ [other] <+: list →
        ¬ first.length < second.length := by
    intro first second one other hone hother hfirst hsecond shorter
    have within : first ++ [one] <+: second := by
      apply List.prefix_of_prefix_length_le hfirst ((List.prefix_append _ _).trans hsecond)
      rw [List.length_append, List.length_singleton]
      exact shorter
    have again : label ∈ second.filterMap label? :=
      List.mem_filterMap.mpr ⟨one, within.subset (by simp), hone⟩
    have part : (second ++ [other]).filterMap label? <+: list.filterMap label? :=
      hsecond.filterMap label?
    have unique := List.Nodup.sublist part.sublist distinct
    rw [List.filterMap_append, List.filterMap_cons, hother, List.nodup_append] at unique
    exact unique.2.2 label again label (by simp) rfl
  have earlier := apart hone hother hfirst hsecond
  have later := apart hother hone hsecond hfirst
  have lengths : (first ++ [one]).length = (second ++ [other]).length := by
    rw [List.length_append, List.length_append, List.length_singleton, List.length_singleton]
    omega
  have same : first ++ [one] = second ++ [other] :=
    (List.prefix_of_prefix_length_le hfirst hsecond (Nat.le_of_eq lengths)).eq_of_length lengths
  rcases List.append_inj' same rfl with ⟨before, last⟩
  exact ⟨before, List.singleton_inj.mp last⟩

/-- What has not one element has none, or two at least. -/
theorem eq_nil_or_of_length_ne_one {α : Type} {list : List α} (several : list.length ≠ 1) :
    list = [] ∨ ∃ first second rest, list = first :: second :: rest := by
  match list with
  | [] => exact .inl rfl
  | [_] => exact absurd rfl several
  | first :: second :: rest => exact .inr ⟨first, second, rest, rfl⟩

end ContentCapture

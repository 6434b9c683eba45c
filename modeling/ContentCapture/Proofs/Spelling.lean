import ContentCapture.Proofs.Denotation
import ContentCapture.Proofs.Grammar
import Mathlib.Data.List.Induction

namespace ContentCapture
namespace Json

/-!
# Reading what was printed

The compact spelling of a value is read back, by the grammar and then by what the grammar
found denotes.  What is read is known in advance: it is the spelling of the value, in which a
character stands for itself or, if it is a control without a letter of its own, for its code.
Nothing has to be said about the reader: it finds whatever the grammar allows, and printing is
one of the ways to spell a value.

Three things can go wrong with a value that is made up.  A number may be none, because its
digits are not digits, or none that a double can hold; the keys of an object may be the same;
and it may nest too deep.  A value fits if none of that is so.  The proofs are by induction on
how it fits.
-/

/-! ## Texts -/

namespace Piece

/-- The piece by which a character is written.  Controls that have no letter are written by their
code. -/
def spelling (c : Char) : Piece :=
  if c.toNat < 0x20 && c ∉ ['\x08', '\x0c', '\n', '\r', '\t'] then .unit c.toNat
  else .plain c

/-- A character is written by a letter, by a code, or as itself. -/
theorem escapeChar_forms (c : Char) :
    (∃ letter, escapeChar c = ['\\', letter] ∧ letter? letter = some c ∧
        spelling c = .plain c) ∨
      (escapeChar c = ['\\', 'u', '0', '0', Nat.digitChar (c.toNat / 16),
          Nat.digitChar (c.toNat % 16)] ∧
        c.toNat < 0x20 ∧ spelling c = .unit c.toNat) ∨
      (escapeChar c = [c] ∧ c ≠ '"' ∧ c ≠ '\\' ∧ 0x20 ≤ c.toNat ∧ spelling c = .plain c) := by
  unfold escapeChar
  split_ifs with quote backslash backspace formFeed newline carriageReturn tab control
  · exact .inl ⟨'"', rfl, by rw [quote]; rfl, by rw [quote]; rfl⟩
  · exact .inl ⟨'\\', rfl, by rw [backslash]; rfl, by rw [backslash]; rfl⟩
  · exact .inl ⟨'b', rfl, backspace ▸ rfl, backspace ▸ rfl⟩
  · exact .inl ⟨'f', rfl, formFeed ▸ rfl, formFeed ▸ rfl⟩
  · exact .inl ⟨'n', rfl, newline ▸ rfl, newline ▸ rfl⟩
  · exact .inl ⟨'r', rfl, carriageReturn ▸ rfl, carriageReturn ▸ rfl⟩
  · exact .inl ⟨'t', rfl, tab ▸ rfl, tab ▸ rfl⟩
  · exact .inr (.inl ⟨rfl, control, by simp_all [spelling]⟩)
  · exact .inr (.inr ⟨rfl, quote, backslash, by omega, by simp_all [spelling]⟩)

theorem unit?_of_control :
    ∀ code < 0x20, unit? '0' '0' (Nat.digitChar (code / 16)) (Nat.digitChar (code % 16)) =
      some code := by
  decide

/-- A text is spelled by its escaped characters. -/
theorem spells_escaped (text : List Char) :
    Spells (text.map spelling) (text.flatMap escapeChar) := by
  induction text with
  | nil => exact .nil
  | cons c text inductionHypothesis =>
      rw [List.map_cons, List.flatMap_cons]
      rcases escapeChar_forms c with ⟨letter, form, denoted, same⟩ | ⟨form, control, same⟩ |
        ⟨form, noQuote, noBackslash, visible, same⟩
      · rw [form, same]
        exact .letter denoted inductionHypothesis
      · rw [form, same]
        exact .unit (unit?_of_control _ control) inductionHypothesis
      · rw [form, same]
        exact .plain noQuote noBackslash visible inductionHypothesis

/-- The pieces by which a text is written denote it. -/
theorem characters?_spelling (text : List Char) : characters? (text.map spelling) = some text := by
  induction text with
  | nil => rfl
  | cons c text inductionHypothesis =>
      rw [List.map_cons]
      rcases escapeChar_forms c with ⟨letter, -, -, same⟩ | ⟨-, control, same⟩ |
        ⟨-, -, -, -, same⟩
      · simp [same, characters?, inductionHypothesis]
      · have noHigh : isHigh c.toNat = false := by simp [isHigh]; omega
        have noLow : isLow c.toNat = false := by simp [isLow]; omega
        rw [same, characters?.eq_def]
        simp [noHigh, noLow, inductionHypothesis]
      · simp [same, characters?, inductionHypothesis]

end Piece

/-! ## Numbers -/

namespace Literal

open Text

/-- A mark and the power of ten behind it, if there is one. -/
def printExponent : Option Exponent → List Char
  | none => []
  | some exponent => 'e' :: (printSign exponent.negative ++ exponent.digits)

theorem print_eq (literal : Literal) :
    literal.print = printSign literal.negative ++ (literal.whole ++
      (printFraction literal.fraction ++ printExponent literal.exponent)) := by
  rcases literal with ⟨negative, whole, fraction, exponent⟩
  cases exponent <;> simp [print, printSign, printFraction, printExponent]

theorem spells_print {literal : Literal} (formed : literal.WellFormed) :
    literal.Spells literal.print := by
  have power : SpellsPower literal.exponent (printExponent literal.exponent) := by
    cases literal.exponent with
    | none => exact .none
    | some exponent => exact .some exponent (.inl rfl) (.inl rfl)
  rw [print_eq]
  exact .intro formed power

/-! ### Numerals -/

theorem exists_digits_eq_cons {n : Nat} (positive : 0 < n) :
    ∃ d ds, digits n = d :: ds ∧ d ≠ '0' := by
  induction n using digits.induct with
  | case1 n small =>
      have solid : ∀ n < 10, 0 < n → Nat.digitChar n ≠ '0' := by decide
      exact ⟨Nat.digitChar n, [], by rw [digits, if_pos small], solid n small positive⟩
  | case2 n large inductionHypothesis =>
      rcases inductionHypothesis (by omega) with ⟨d, ds, form, solid⟩
      exact ⟨d, _, by rw [digits, if_neg large, form, List.cons_append], solid⟩

theorem wellFormed_ofNat (n : Nat) : (ofNat n).WellFormed where
  whole := all_isDigit_digits n
  leading := by
    change wellFormedWhole (digits n) = true
    by_cases small : n < 10
    · rw [digits, if_pos small]
      simp [wellFormedWhole]
    · rcases exists_digits_eq_cons (show 0 < n by omega) with ⟨d, ds, form, solid⟩
      rw [form]
      simp [wellFormedWhole, solid]
  fraction := rfl
  exponent := by simp [ofNat]

theorem foldl_pushWhole {whole : List Char} (within : ofDigits whole < UInt64.size) :
    whole.foldl Scaled.pushWhole ⟨0, 0, false⟩ = ⟨ofDigits whole, 0, false⟩ := by
  induction whole using List.reverseRecOn with
  | nil => rfl
  | append_singleton front c inductionHypothesis =>
      have longer : ofDigits (front ++ [c]) = 10 * ofDigits front + digitValue c := by
        simp [ofDigits]
      rw [longer] at within ⊢
      rw [List.foldl_append, inductionHypothesis (by omega)]
      simp [Scaled.pushWhole, Nat.not_le_of_lt within]

/-- Rounding at most doubles a number. -/
theorem nearestDouble_le (n : Nat) : nearestDouble n ≤ 2 * n := by
  unfold nearestDouble
  split
  · omega
  · next large =>
      have positive : n ≠ 0 := by
        rintro rfl
        exact large (by decide)
      have power : Nat.pow 2 (n.log2 - 52) ≤ n :=
        Nat.le_trans (Nat.pow_le_pow_right (by decide) (Nat.sub_le _ _))
          (Nat.log2_self_le positive)
      have quotient := Nat.div_mul_le_self n (Nat.pow 2 (n.log2 - 52))
      dsimp only
      split
      · omega
      · rw [Nat.add_mul]
        omega

/-- A double can hold any number of sixty-four bits. -/
theorem isFinite_ofNat {n : Nat} (within : n < UInt64.size) : (ofNat n).isFinite = true := by
  have scaled : (ofNat n).scaled = ⟨n, 0, false⟩ := by
    have whole : (digits n).foldl Scaled.pushWhole ⟨0, 0, false⟩ =
        ⟨ofDigits (digits n), 0, false⟩ :=
      foldl_pushWhole (by rwa [ofDigits_digits])
    rw [ofDigits_digits] at whole
    simp [Literal.scaled, ofNat, whole]
  have bound : 2 * UInt64.size ≤ infinityBound := by decide +kernel
  have near := nearestDouble_le n
  have one : nearestDouble (Nat.pow 10 0) = 1 := by decide
  have product : finiteProduct n 0 = true := by
    unfold finiteProduct
    split_ifs with trivial large
    · rfl
    · exact absurd large (by decide)
    · rw [Int.toNat_zero, one, decide_eq_true_eq]
      omega
  simp only [isFinite, scaled]
  exact product

end Literal

/-! ## Values -/

namespace Value

/-- A value that can be written and kept: its numbers are numbers and not too large, the keys of
its objects are distinct, and it nests at most so many levels deep. -/
inductive Fits : Nat → Value → Prop
  | null (levels : Nat) : Fits levels .null
  | bool (levels : Nat) (value : Bool) : Fits levels (.bool value)
  | number (levels : Nat) {literal : Literal} (formed : literal.WellFormed)
      (finite : literal.isFinite = true) : Fits levels (.number literal)
  | text (levels : Nat) (value : String) : Fits levels (.text value)
  | array {levels : Nat} {elements : List Value} (fit : ∀ element ∈ elements, Fits levels element) :
      Fits (levels + 1) (.array elements)
  | object {levels : Nat} {members : List (String × Value)}
      (distinct : (members.map Prod.fst).Nodup)
      (fit : ∀ member ∈ members, Fits levels member.2) : Fits (levels + 1) (.object members)

mutual
/-- The JSON text that the compact spelling of a value is. -/
def spelling : Value → Written
  | .null => .null
  | .bool value => .bool value
  | .number literal => .number literal
  | .text value => .text (value.toList.map Piece.spelling)
  | .array elements => .array (spellings elements)
  | .object members => .object (memberSpellings members)

def spellings : List Value → List Written
  | [] => []
  | element :: rest => spelling element :: spellings rest

def memberSpellings : List (String × Value) → List (List Piece × Written)
  | [] => []
  | (key, value) :: rest =>
      (key.toList.map Piece.spelling, spelling value) :: memberSpellings rest
end

theorem spells_printText (text : String) :
    Written.Spells (.value (.text (text.toList.map Piece.spelling))) (printText text) :=
  .text (Piece.spells_escaped text.toList)

/-- Elements are spelled with nothing but commas between them. -/
theorem spells_printElements {elements : List Value} (nonempty : elements ≠ [])
    (spell : ∀ element ∈ elements, Written.Spells (.value element.spelling) element.print) :
    Written.Spells (.elements (spellings elements)) (printElements elements) := by
  have blank := Written.blank_nil
  induction elements with
  | nil => exact absurd rfl nonempty
  | cons element elements inductionHypothesis =>
      rw [List.forall_mem_cons] at spell
      cases elements with
      | nil =>
          have spelled := Written.Spells.lastElement blank spell.1 blank
          simpa [spellings, printElements] using spelled
      | cons next elements =>
          have others := inductionHypothesis (by simp) spell.2
          have spelled := Written.Spells.element blank spell.1 blank others
          simpa [spellings, printElements] using spelled

theorem spells_printMembers {members : List (String × Value)} (nonempty : members ≠ [])
    (spell : ∀ member ∈ members, Written.Spells (.value member.2.spelling) member.2.print) :
    Written.Spells (.members (memberSpellings members)) (printMembers members) := by
  have blank := Written.blank_nil
  induction members with
  | nil => exact absurd rfl nonempty
  | cons member members inductionHypothesis =>
      rcases member with ⟨key, value⟩
      have spellsKey := Piece.spells_escaped key.toList
      rw [List.forall_mem_cons] at spell
      cases members with
      | nil =>
          have spelled := Written.Spells.lastMember blank spellsKey blank blank spell.1 blank
          simpa [memberSpellings, printMembers, printText] using spelled
      | cons next members =>
          have others := inductionHypothesis (by simp) spell.2
          have spelled := Written.Spells.member blank spellsKey blank blank spell.1 blank others
          simpa [memberSpellings, printMembers, printText] using spelled

/-- What is printed of a value that fits spells it. -/
theorem spells_of_fits {levels : Nat} {value : Value} (fits : Fits levels value) :
    Written.Spells (.value value.spelling) value.print := by
  induction fits with
  | null =>
      rw [spelling, print]
      exact .null
  | bool _ value =>
      cases value with
      | true =>
          rw [spelling, print]
          exact .yes
      | false =>
          rw [spelling, print]
          exact .no
  | number _ formed finite =>
      rw [spelling, print]
      exact .number (Literal.spells_print formed)
  | text _ value =>
      rw [spelling, print]
      exact spells_printText value
  | @array levels elements fit spell =>
      rw [spelling, print]
      by_cases empty : elements = []
      · subst empty
        exact .emptyArray Written.blank_nil
      · exact .array (spells_printElements empty spell)
  | @object levels members distinct fit spell =>
      rw [spelling, print]
      by_cases empty : members = []
      · subst empty
        exact .emptyObject Written.blank_nil
      · exact .object (spells_printMembers empty spell)

/-- The compact spelling of a value that fits is a JSON text, and it is the spelling of the
value. -/
theorem ofText?_compact {levels : Nat} {value : Value} (fits : Fits levels value) :
    Written.ofText? value.compact = some value.spelling := by
  have whole : value.compact.toList = [] ++ (value.print ++ []) := by simp [compact]
  exact Written.ofText?_eq_some_iff.mpr
    ⟨[], value.print, [], Written.blank_nil, Written.blank_nil, whole, spells_of_fits fits⟩

/-! ## What the spelling of a value denotes -/

theorem text?_spelling (text : String) :
    Written.text? (text.toList.map Piece.spelling) = some text := by
  simp [Written.text?, Piece.characters?_spelling]

theorem spellings_eq_map (elements : List Value) : spellings elements = elements.map spelling := by
  induction elements with
  | nil => rfl
  | cons element elements inductionHypothesis =>
      rw [spellings, inductionHypothesis, List.map_cons]

theorem memberSpellings_eq_map (members : List (String × Value)) :
    memberSpellings members =
      members.map fun member => (member.1.toList.map Piece.spelling, spelling member.2) := by
  induction members with
  | nil => rfl
  | cons member members inductionHypothesis =>
      rw [memberSpellings, inductionHypothesis, List.map_cons]

/-- The keys of an object are spelled apart if they are distinct. -/
theorem nodup_keys_memberSpellings {members : List (String × Value)}
    (distinct : (members.map Prod.fst).Nodup) : (Written.keys (memberSpellings members)).Nodup := by
  have same : Written.keys (memberSpellings members) = (members.map Prod.fst).map some := by
    simp [Written.keys, memberSpellings_eq_map, text?_spelling, Function.comp_def]
  rw [same]
  exact distinct.map (Option.some_injective String)

/-- A value that fits is denoted by its spelling. -/
theorem value?_spelling {levels : Nat} {value : Value} (fits : Fits levels value) :
    value.spelling.value? levels = some value := by
  induction fits with
  | null => simp [spelling, Written.value?]
  | bool _ value => simp [spelling, Written.value?]
  | number _ formed finite => simp [spelling, Written.value?, finite]
  | text _ value => simp [spelling, Written.value?, text?_spelling]
  | @array levels elements fit denoted =>
      have all : Written.elements? levels (spellings elements) = some elements := by
        rw [Written.elements?_eq_some_iff, spellings_eq_map, List.forall₂_map_left_iff,
          List.forall₂_same]
        exact denoted
      simp [spelling, Written.value?, all]
  | @object levels members distinct fit denoted =>
      have all : Written.members? levels (memberSpellings members) = some members := by
        rw [Written.members?_eq_some_iff (nodup_keys_memberSpellings distinct),
          memberSpellings_eq_map, List.forall₂_map_left_iff, List.forall₂_same]
        exact fun member there => ⟨text?_spelling member.1, denoted member there⟩
      simp [spelling, Written.value?, all]

/-- The spelling of a value that fits repeats no key. -/
theorem unrepeated_spelling {levels : Nat} {value : Value} (fits : Fits levels value) :
    value.spelling.Unrepeated := by
  induction fits with
  | null | bool _ value | number _ formed finite | text _ value =>
      rw [spelling]
      exact Written.unrepeated_of_scalar (by simp) (by simp)
  | array fit unrepeated =>
      rw [spelling, Written.unrepeated_array_iff, spellings_eq_map]
      exact List.forall_mem_map.mpr unrepeated
  | object distinct fit unrepeated =>
      rw [spelling, Written.unrepeated_object_iff, memberSpellings_eq_map]
      refine ⟨?_, List.forall_mem_map.mpr unrepeated⟩
      rw [← memberSpellings_eq_map]
      exact nodup_keys_memberSpellings distinct

end Value
end Json
end ContentCapture

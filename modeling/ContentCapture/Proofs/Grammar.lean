import ContentCapture.Json.Written
import Mathlib.Control.Basic
import Mathlib.Data.List.TakeWhile
import Mathlib.Data.Option.Basic

namespace ContentCapture
namespace Json

/-!
# The grammar of JSON texts

A JSON text is described here without saying how it is read: which characters may stand for
a piece of a text, for a number, for a value, and where space may stand between tokens.  What
the reader finds is what the grammar says, and it finds everything that the grammar allows.
In particular no text can be read in two ways.

What the reader finds is shown by induction on the bound for its calls.  That it finds
everything is shown by induction on how a text is spelled.  A call is bounded by the length of
what it has to read, and the elements of an array need one call more than they are long,
because their closing bracket stands outside.
-/

/-! ## Texts -/

namespace Piece

/-- What may stand between quotes for some pieces. -/
inductive Spells : List Piece → List Char → Prop
  | nil : Spells [] []
  | plain {c : Char} {pieces : List Piece} {text : List Char} (noQuote : c ≠ '"')
      (noBackslash : c ≠ '\\') (visible : 0x20 ≤ c.toNat) (spells : Spells pieces text) :
      Spells (.plain c :: pieces) (c :: text)
  | letter {letter c : Char} {pieces : List Piece} {text : List Char}
      (denoted : letter? letter = some c) (spells : Spells pieces text) :
      Spells (.plain c :: pieces) ('\\' :: letter :: text)
  | unit {a b c d : Char} {code : Nat} {pieces : List Piece} {text : List Char}
      (denoted : unit? a b c d = some code) (spells : Spells pieces text) :
      Spells (.unit code :: pieces) ('\\' :: 'u' :: a :: b :: c :: d :: text)

theorem read_of_spells {pieces : List Piece} {text : List Char} (spells : Spells pieces text)
    (rest : List Char) : read (text ++ '"' :: rest) = some (pieces, rest) := by
  induction spells with
  | nil => simp [read]
  | plain noQuote noBackslash visible _ inductionHypothesis =>
      simp [read, noBackslash, visible, inductionHypothesis]
  | @letter letter c _ _ denoted _ inductionHypothesis =>
      have other : letter ≠ 'u' := by
        rintro rfl
        cases denoted
      simp [read, other, denoted, inductionHypothesis]
  | unit denoted _ inductionHypothesis => simp [read, denoted, inductionHypothesis]

theorem spells_of_read {input rest : List Char} {pieces : List Piece}
    (h : read input = some (pieces, rest)) :
    ∃ text, input = text ++ '"' :: rest ∧ Spells pieces text := by
  fun_induction read input generalizing pieces rest with
  | case1 => cases h
  | case2 rest =>
      cases h
      exact ⟨[], rfl, .nil⟩
  | case3 a b c d tail inductionHypothesis =>
      rcases Option.bind_eq_some_iff.mp h with ⟨code, denoted, h⟩
      rcases Option.bind_eq_some_iff.mp h with ⟨⟨others, after⟩, found, same⟩
      cases same
      rcases inductionHypothesis found with ⟨text, rfl, spells⟩
      exact ⟨_, rfl, .unit denoted spells⟩
  | case4 letter tail other inductionHypothesis =>
      rcases Option.bind_eq_some_iff.mp h with ⟨c, denoted, h⟩
      rcases Option.bind_eq_some_iff.mp h with ⟨⟨others, after⟩, found, same⟩
      cases same
      rcases inductionHypothesis found with ⟨text, rfl, spells⟩
      exact ⟨_, rfl, .letter denoted spells⟩
  | case5 c tail noQuote noCode noLetter bad => cases h
  | case6 c tail noQuote noCode noLetter good inductionHypothesis =>
      rcases Option.bind_eq_some_iff.mp h with ⟨⟨others, after⟩, found, same⟩
      cases same
      rcases inductionHypothesis found with ⟨text, rfl, spells⟩
      have visible : c ≠ '\\' ∧ 0x20 ≤ c.toNat := by simpa using good
      exact ⟨_, rfl, .plain noQuote visible.1 visible.2 spells⟩

end Piece

/-! ## Numbers -/

namespace Literal

open Text

/-- The parts of a number are runs of digits. -/
structure WellFormed (literal : Literal) : Prop where
  whole : literal.whole.all isDigit = true
  leading : wellFormedWhole literal.whole = true
  fraction : literal.fraction.all isDigit = true
  exponent : ∀ exponent ∈ literal.exponent,
    exponent.digits ≠ [] ∧ exponent.digits.all isDigit = true

/-- Nothing at the front of a text lengthens a number that stands before it. -/
def Closes (rest : List Char) : Prop :=
  ∀ c ∈ rest.head?, isDigit c = false ∧ c ≠ '.' ∧ c ≠ 'e' ∧ c ≠ 'E'

theorem spanDigits_append {front rest : List Char} (digits : front.all isDigit = true)
    (closed : ∀ c ∈ rest.head?, isDigit c = false) :
    spanDigits (front ++ rest) = (front, rest) := by
  have all : ∀ c ∈ front, isDigit c = true := List.all_eq_true.mp digits
  rw [spanDigits, List.takeWhile_append_of_pos all, List.dropWhile_append_of_pos all]
  cases rest with
  | nil => simp
  | cons c rest => simp [closed c rfl]

/-- A point and the digits behind it, if there are any. -/
def printFraction (fraction : List Char) : List Char :=
  if fraction.isEmpty then [] else '.' :: fraction

/-- A minus, if there is one. -/
def printSign (negative : Bool) : List Char :=
  if negative then ['-'] else []

/-- A mark in either case, a sign and the digits of an exponent, if there is one.  A plus is
allowed and says nothing. -/
inductive SpellsPower : Option Exponent → List Char → Prop
  | none : SpellsPower none []
  | some (exponent : Exponent) {mark : Char} {sign : List Char} (hmark : mark = 'e' ∨ mark = 'E')
      (hsign : sign = printSign exponent.negative ∨ exponent.negative = false ∧ sign = ['+']) :
      SpellsPower (some exponent) (mark :: (sign ++ exponent.digits))

/-- A minus, digits of which a leading zero stands alone, a point with digits behind it, and an
exponent.  All but the first digits may be missing. -/
inductive Spells (literal : Literal) : List Char → Prop
  | intro {power : List Char} (formed : literal.WellFormed)
      (spells : SpellsPower literal.exponent power) :
      Spells literal (printSign literal.negative ++
        (literal.whole ++ (printFraction literal.fraction ++ power)))

/-! ### Everything is found -/

theorem readFraction_append {fraction rest : List Char} (digits : fraction.all isDigit = true)
    (closed : ∀ c ∈ rest.head?, isDigit c = false ∧ c ≠ '.') :
    readFraction (printFraction fraction ++ rest) = some (fraction, rest) := by
  cases fraction with
  | nil =>
      cases rest with
      | nil => rfl
      | cons c rest => simp [printFraction, readFraction, (closed c rfl).2]
  | cons d fraction =>
      have span := spanDigits_append digits fun c member => (closed c member).1
      rw [List.cons_append] at span
      simp [printFraction, readFraction, span]

/-- A run of digits does not begin with a sign. -/
theorem ne_sign_of_isDigit {d : Char} (digit : isDigit d = true) : d ≠ '-' ∧ d ≠ '+' := by
  constructor <;> (rintro rfl; cases digit)

theorem readPower_of_signed {exponent : Exponent} {sign : List Char}
    (hsign : sign = printSign exponent.negative ∨ exponent.negative = false ∧ sign = ['+'])
    (nonempty : exponent.digits ≠ []) (digits : exponent.digits.all isDigit = true)
    {rest : List Char} (closed : ∀ c ∈ rest.head?, isDigit c = false) :
    readPower (sign ++ exponent.digits ++ rest) = some (exponent, rest) := by
  have span := spanDigits_append digits closed
  rcases exponent with ⟨negative, numeral⟩
  rcases hsign with rfl | ⟨positive, rfl⟩
  · cases negative with
    | true => simp [printSign, readPower, span, nonempty]
    | false =>
        cases numeral with
        | nil => exact absurd rfl nonempty
        | cons d numeral =>
            have noSign : d ≠ '-' ∧ d ≠ '+' := ne_sign_of_isDigit (by simp_all)
            rw [List.cons_append] at span
            simp [printSign, readPower, noSign, span]
  · subst positive
    simp [readPower, span, nonempty]

theorem readExponent_of_spells {exponent : Option Exponent} {power : List Char}
    (spells : SpellsPower exponent power)
    (formed : ∀ power ∈ exponent, power.digits ≠ [] ∧ power.digits.all isDigit = true)
    {rest : List Char} (closed : Closes rest) :
    readExponent (power ++ rest) = some (exponent, rest) := by
  cases spells with
  | none =>
      cases rest with
      | nil => rfl
      | cons c rest =>
          rcases closed c rfl with ⟨-, -, small, capital⟩
          simp [readExponent, small, capital]
  | some exponent hmark hsign =>
      rcases formed exponent rfl with ⟨nonempty, digits⟩
      have read := readPower_of_signed hsign nonempty digits fun c member => (closed c member).1
      rcases hmark with rfl | rfl <;> simp only [List.cons_append, readExponent, read] <;> rfl

/-- A fraction or an exponent ends the digits before it. -/
theorem head?_printFraction_append (fraction : List Char) {rest : List Char}
    (closed : ∀ c ∈ rest.head?, isDigit c = false ∧ c ≠ '.') :
    ∀ c ∈ (printFraction fraction ++ rest).head?, isDigit c = false := by
  cases fraction with
  | nil => exact fun c member => (closed c member).1
  | cons d fraction =>
      intro c member
      cases (Option.mem_some_iff.mp member)
      decide

/-- An exponent ends a fraction. -/
theorem head?_power_append {exponent : Option Exponent} {power : List Char}
    (spells : SpellsPower exponent power) {rest : List Char} (closed : Closes rest) :
    ∀ c ∈ (power ++ rest).head?, isDigit c = false ∧ c ≠ '.' := by
  cases spells with
  | none => exact fun c member => ⟨(closed c member).1, (closed c member).2.1⟩
  | some exponent hmark hsign =>
      intro c member
      cases Option.mem_some_iff.mp member
      rcases hmark with rfl | rfl <;> decide

theorem read_of_spells {literal : Literal} {text : List Char} (spells : literal.Spells text)
    {rest : List Char} (closed : Closes rest) : read (text ++ rest) = some (literal, rest) := by
  rcases spells with ⟨formed, power⟩
  rcases literal with ⟨negative, whole, fraction, exponent⟩
  have ended := head?_power_append power closed
  have span := spanDigits_append formed.whole (head?_printFraction_append fraction ended)
  have readFraction := readFraction_append formed.fraction ended
  have readExponent := readExponent_of_spells power formed.exponent closed
  have leading := formed.leading
  simp only [List.append_assoc]
  cases negative with
  | true => simp [printSign, read, span, leading, readFraction, readExponent]
  | false =>
      cases whole with
      | nil => cases leading
      | cons d whole =>
          have noSign : d ≠ '-' ∧ d ≠ '+' :=
            ne_sign_of_isDigit (List.all_eq_true.mp formed.whole d List.mem_cons_self)
          rw [List.cons_append] at span
          simp [printSign, read, noSign, span, leading, readFraction, readExponent]

/-- A number begins with a digit or a minus, however it is written. -/
theorem Spells.exists_eq_cons {literal : Literal} {text : List Char}
    (spells : literal.Spells text) :
    ∃ c tail, text = c :: tail ∧ (isDigit c = true ∨ c = '-') := by
  rcases spells with ⟨formed, power⟩
  rcases literal with ⟨negative, whole, fraction, exponent⟩
  cases negative with
  | true => exact ⟨'-', _, rfl, .inr rfl⟩
  | false =>
      cases whole with
      | nil => cases formed.leading
      | cons d whole =>
          exact ⟨d, _, rfl, .inl (List.all_eq_true.mp formed.whole d List.mem_cons_self)⟩

/-! ### Only what is spelled is found -/

theorem of_spanDigits {input digits rest : List Char} (h : spanDigits input = (digits, rest)) :
    input = digits ++ rest ∧ digits.all isDigit = true := by
  cases h
  exact ⟨List.takeWhile_append_dropWhile.symm, List.all_takeWhile⟩

theorem of_readFraction {input fraction rest : List Char}
    (h : readFraction input = some (fraction, rest)) :
    input = printFraction fraction ++ rest ∧ fraction.all isDigit = true := by
  unfold readFraction at h
  split at h
  · next text =>
      cases hspan : spanDigits text with
      | mk digits after =>
          rcases of_spanDigits hspan with ⟨rfl, all⟩
          simp only [hspan] at h
          split at h
          · cases h
          · next nonempty =>
              cases h
              exact ⟨by simp [printFraction, nonempty], all⟩
  · cases h
    exact ⟨rfl, rfl⟩

theorem of_readPower {input rest : List Char} {exponent : Exponent}
    (h : readPower input = some (exponent, rest)) :
    ∃ sign, (sign = printSign exponent.negative ∨ exponent.negative = false ∧ sign = ['+']) ∧
      input = sign ++ exponent.digits ++ rest ∧
      exponent.digits ≠ [] ∧ exponent.digits.all isDigit = true := by
  have digits_of : ∀ {negative : Bool} {text : List Char},
      (if (spanDigits text).1.isEmpty then none
        else some (⟨negative, (spanDigits text).1⟩, (spanDigits text).2)) = some (exponent, rest) →
      exponent.negative = negative ∧ text = exponent.digits ++ rest ∧
        exponent.digits ≠ [] ∧ exponent.digits.all isDigit = true := by
    intro negative text found
    cases hspan : spanDigits text with
    | mk digits after =>
        rcases of_spanDigits hspan with ⟨rfl, all⟩
        simp only [hspan] at found
        split at found
        · cases found
        · next nonempty =>
            cases found
            exact ⟨rfl, rfl, by simpa using nonempty, all⟩
  unfold readPower at h
  dsimp only at h
  split at h
  · next text =>
      rcases digits_of h with ⟨negative, rfl, numeral⟩
      exact ⟨['-'], .inl (by rw [negative]; rfl), rfl, numeral⟩
  · next text =>
      rcases digits_of h with ⟨positive, rfl, numeral⟩
      exact ⟨['+'], .inr ⟨positive, rfl⟩, rfl, numeral⟩
  · next text noMinus noPlus =>
      rcases digits_of h with ⟨positive, same, numeral⟩
      exact ⟨[], .inl (by rw [positive]; rfl), same, numeral⟩

theorem of_readExponent {input rest : List Char} {exponent : Option Exponent}
    (h : readExponent input = some (exponent, rest)) :
    ∃ power, SpellsPower exponent power ∧ input = power ++ rest ∧
      ∀ power ∈ exponent, power.digits ≠ [] ∧ power.digits.all isDigit = true := by
  have marked : ∀ {mark : Char} {text : List Char}, mark = 'e' ∨ mark = 'E' →
      (readPower text).map (fun found => (some found.1, found.2)) = some (exponent, rest) →
      ∃ power, SpellsPower exponent power ∧ mark :: text = power ++ rest ∧
        ∀ power ∈ exponent, power.digits ≠ [] ∧ power.digits.all isDigit = true := by
    intro mark text hmark marked
    rcases Option.map_eq_some_iff.mp marked with ⟨⟨power, after⟩, found, same⟩
    obtain ⟨rfl, rfl⟩ : some power = exponent ∧ after = rest := Prod.mk.inj same
    rcases of_readPower found with ⟨sign, hsign, rfl, numeral⟩
    exact ⟨_, .some power hmark hsign, rfl, by simpa using numeral⟩
  unfold readExponent at h
  split at h
  · exact marked (.inl rfl) h
  · exact marked (.inr rfl) h
  · cases h
    exact ⟨[], .none, rfl, by simp⟩

/-- What is found of a number behind its sign. -/
theorem of_read_unsigned {negative : Bool} {input rest : List Char} {literal : Literal}
    (h : (do
      guard (wellFormedWhole (spanDigits input).1 = true)
      let (fraction, text) ← readFraction (spanDigits input).2
      let (exponent, text) ← readExponent text
      return (⟨negative, (spanDigits input).1, fraction, exponent⟩, text)) = some (literal, rest)) :
    ∃ text, input = text ++ rest ∧ literal.Spells (printSign negative ++ text) := by
  cases hspan : spanDigits input with
  | mk whole behind =>
      rcases of_spanDigits hspan with ⟨rfl, digits⟩
      simp only [hspan] at h
      rcases Option.bind_eq_some_iff.mp h with ⟨_, leading, h⟩
      rcases Option.bind_eq_some_iff.mp h with ⟨⟨fraction, after⟩, hfraction, h⟩
      rcases Option.bind_eq_some_iff.mp h with ⟨⟨exponent, last⟩, hexponent, same⟩
      cases same
      rcases of_readFraction hfraction with ⟨rfl, fractionDigits⟩
      rcases of_readExponent hexponent with ⟨power, spells, rfl, exponentDigits⟩
      have formed : Literal.WellFormed ⟨negative, whole, fraction, exponent⟩ :=
        ⟨digits, by simpa using leading, fractionDigits, exponentDigits⟩
      exact ⟨whole ++ (printFraction fraction ++ power), by simp, .intro formed spells⟩

theorem spells_of_read {input rest : List Char} {literal : Literal}
    (h : read input = some (literal, rest)) :
    ∃ text, input = text ++ rest ∧ literal.Spells text := by
  unfold read at h
  dsimp only at h
  split at h
  · next text =>
      rcases of_read_unsigned h with ⟨tail, rfl, spells⟩
      exact ⟨'-' :: tail, rfl, spells⟩
  · exact of_read_unsigned h

end Literal

/-! ## Values -/

namespace Written

def Blank (text : List Char) : Prop :=
  text.all isSpace = true

theorem blank_nil : Blank [] :=
  rfl

theorem Blank.append {text more : List Char} (blank : Blank text) (others : Blank more) :
    Blank (text ++ more) := by
  simp_all [Blank]

theorem exists_blank_append_skipSpace (input : List Char) :
    ∃ blank, Blank blank ∧ input = blank ++ skipSpace input :=
  ⟨input.takeWhile isSpace, List.all_takeWhile, List.takeWhile_append_dropWhile.symm⟩

theorem skipSpace_append {blank : List Char} (h : Blank blank) (input : List Char) :
    skipSpace (blank ++ input) = skipSpace input :=
  List.dropWhile_append_of_pos (List.all_eq_true.mp h)

theorem skipSpace_eq_nil_iff {input : List Char} : skipSpace input = [] ↔ Blank input := by
  rw [skipSpace, List.dropWhile_eq_nil_iff, Blank, List.all_eq_true]

/-- What a text may consist of: a value, or what may stand between the brackets of an array or
the braces of an object that are not empty. -/
inductive Phrase where
  | value (written : Written)
  | elements (elements : List Written)
  | members (members : List (List Piece × Written))

/-- The texts that spell a value, and those that spell what may stand between brackets or braces.
Space may surround elements, keys and the values of members, and it may fill empty brackets or
braces. -/
inductive Spells : Phrase → List Char → Prop
  | null : Spells (.value .null) ['n', 'u', 'l', 'l']
  | yes : Spells (.value (.bool true)) ['t', 'r', 'u', 'e']
  | no : Spells (.value (.bool false)) ['f', 'a', 'l', 's', 'e']
  | number {literal : Literal} {text : List Char} (spells : literal.Spells text) :
      Spells (.value (.number literal)) text
  | text {pieces : List Piece} {inner : List Char} (spells : Piece.Spells pieces inner) :
      Spells (.value (.text pieces)) ('"' :: (inner ++ ['"']))
  | emptyArray {blank : List Char} (hblank : Blank blank) :
      Spells (.value (.array [])) ('[' :: (blank ++ [']']))
  | array {elements : List Written} {inner : List Char}
      (spells : Spells (.elements elements) inner) :
      Spells (.value (.array elements)) ('[' :: (inner ++ [']']))
  | emptyObject {blank : List Char} (hblank : Blank blank) :
      Spells (.value (.object [])) ('\x7b' :: (blank ++ ['\x7d']))
  | object {members : List (List Piece × Written)} {inner : List Char}
      (spells : Spells (.members members) inner) :
      Spells (.value (.object members)) ('\x7b' :: (inner ++ ['\x7d']))
  | lastElement {element : Written} {before text after : List Char} (hbefore : Blank before)
      (spells : Spells (.value element) text) (hafter : Blank after) :
      Spells (.elements [element]) (before ++ (text ++ after))
  | element {element : Written} {elements : List Written} {before text after others : List Char}
      (hbefore : Blank before) (spells : Spells (.value element) text) (hafter : Blank after)
      (spellOthers : Spells (.elements elements) others) :
      Spells (.elements (element :: elements)) (before ++ (text ++ (after ++ ',' :: others)))
  | lastMember {key : List Piece} {value : Written}
      {before name behind front text after : List Char} (hbefore : Blank before)
      (spellsKey : Piece.Spells key name) (hbehind : Blank behind) (hfront : Blank front)
      (spells : Spells (.value value) text) (hafter : Blank after) :
      Spells (.members [(key, value)])
        (before ++ '"' :: (name ++ '"' :: (behind ++ ':' :: (front ++ (text ++ after)))))
  | member {key : List Piece} {value : Written} {members : List (List Piece × Written)}
      {before name behind front text after others : List Char}
      (hbefore : Blank before) (spellsKey : Piece.Spells key name) (hbehind : Blank behind)
      (hfront : Blank front) (spells : Spells (.value value) text) (hafter : Blank after)
      (spellOthers : Spells (.members members) others) :
      Spells (.members ((key, value) :: members))
        (before ++ '"' :: (name ++ '"' :: (behind ++ ':' ::
          (front ++ (text ++ (after ++ ',' :: others))))))

/-! ### Everything is found -/

theorem skipSpace_cons {c : Char} (solid : isSpace c = false) (tail : List Char) :
    skipSpace (c :: tail) = c :: tail := by
  simp [skipSpace, solid]

theorem isSpace_of_number {c : Char} (number : Text.isDigit c = true ∨ c = '-') :
    isSpace c = false := by
  rw [Bool.eq_false_iff]
  intro space
  simp only [isSpace, Bool.or_eq_true, decide_eq_true_eq] at space
  rcases space with ((rfl | rfl) | rfl) | rfl <;> exact absurd number (by decide)

/-- What begins with a digit or a minus can only be a number. -/
theorem read_of_number {c : Char} (number : Text.isDigit c = true ∨ c = '-') (fuel : Nat)
    (tail : List Char) :
    read (fuel + 1) (c :: tail) =
      (Literal.read (c :: tail)).map fun (literal, rest) => (.number literal, rest) := by
  rw [read, skipSpace_cons (isSpace_of_number number)]
  split
  case h_7 => rfl
  all_goals
    next other =>
      cases other
      exact absurd number (by decide)

/-- What separates and ends values does not lengthen a number. -/
theorem closes_cons {c : Char} (mark : c = ',' ∨ c = ']' ∨ c = '\x7d') (rest : List Char) :
    Literal.Closes (c :: rest) := by
  intro d member
  cases Option.mem_some_iff.mp member
  rcases mark with rfl | rfl | rfl <;> decide

/-- Space in front of what is read is passed over. -/
theorem read_blank_append {blank : List Char} (h : Blank blank) (fuel : Nat) (input : List Char) :
    read fuel (blank ++ input) = read fuel input := by
  cases fuel with
  | zero => rw [read, read]
  | succ fuel => rw [read, read, skipSpace_append h]

theorem readElements_blank_append {blank : List Char} (h : Blank blank) (fuel : Nat)
    (input : List Char) : readElements fuel (blank ++ input) = readElements fuel input := by
  cases fuel with
  | zero => rw [readElements, readElements]
  | succ fuel => rw [readElements, readElements, read_blank_append h]

theorem readMembers_blank_append {blank : List Char} (h : Blank blank) (fuel : Nat)
    (input : List Char) : readMembers fuel (blank ++ input) = readMembers fuel input := by
  cases fuel with
  | zero => rw [readMembers, readMembers]
  | succ fuel => rw [readMembers, readMembers, skipSpace_append h]

/-- Space does not lengthen a number. -/
theorem closes_blank_append {blank rest : List Char} (h : Blank blank)
    (closed : Literal.Closes rest) : Literal.Closes (blank ++ rest) := by
  cases blank with
  | nil => exact closed
  | cons c blank =>
      intro d member
      cases Option.mem_some_iff.mp member
      have space : isSpace c = true := List.all_eq_true.mp h c List.mem_cons_self
      simp only [isSpace, Bool.or_eq_true, decide_eq_true_eq] at space
      rcases space with ((rfl | rfl) | rfl) | rfl <;> decide

/-- What a text that spells a part is found to be.  Only a number needs to know what follows, and
only what stands inside of brackets or braces is read up to its end. -/
def IsFound (text : List Char) : Phrase → Prop
  | .value written => ∀ fuel rest, text.length ≤ fuel → Literal.Closes rest →
      read fuel (text ++ rest) = some (written, rest)
  | .elements elements => ∀ fuel rest, text.length < fuel →
      readElements fuel (text ++ ']' :: rest) = some (elements, rest)
  | .members members => ∀ fuel rest, text.length < fuel →
      readMembers fuel (text ++ '\x7d' :: rest) = some (members, rest)

theorem isFound_number {literal : Literal} {text : List Char} (spells : literal.Spells text) :
    IsFound text (.value (.number literal)) := by
  intro fuel rest enough closed
  have found := Literal.read_of_spells spells closed
  rcases spells.exists_eq_cons with ⟨c, tail, rfl, number⟩
  obtain ⟨fuel, rfl⟩ : ∃ less, fuel = less + 1 := ⟨fuel - 1, by simp at enough; omega⟩
  rw [List.cons_append] at found ⊢
  rw [read_of_number number, found]
  rfl

/-- A value begins with something that is neither a space nor the end of an array. -/
theorem Spells.exists_value_eq_cons {value : Written} {text : List Char}
    (spells : Spells (.value value) text) :
    ∃ c tail, text = c :: tail ∧ isSpace c = false ∧ c ≠ ']' := by
  cases spells with
  | null => exact ⟨'n', _, rfl, rfl, by decide⟩
  | yes => exact ⟨'t', _, rfl, rfl, by decide⟩
  | no => exact ⟨'f', _, rfl, rfl, by decide⟩
  | number spells =>
      rcases spells.exists_eq_cons with ⟨c, tail, form, number⟩
      refine ⟨c, tail, form, isSpace_of_number number, ?_⟩
      rintro rfl
      exact absurd number (by decide)
  | text spells => exact ⟨'"', _, rfl, rfl, by decide⟩
  | emptyArray hblank => exact ⟨'[', _, rfl, rfl, by decide⟩
  | array spells => exact ⟨'[', _, rfl, rfl, by decide⟩
  | emptyObject hblank => exact ⟨'\x7b', _, rfl, rfl, by decide⟩
  | object spells => exact ⟨'\x7b', _, rfl, rfl, by decide⟩

theorem Spells.exists_elements_eq {elements : List Written} {text : List Char}
    (spells : Spells (.elements elements) text) :
    ∃ blank c tail, text = blank ++ c :: tail ∧ Blank blank ∧ isSpace c = false ∧ c ≠ ']' := by
  cases spells with
  | lastElement hbefore spells _ | element hbefore spells _ _ =>
      rcases spells.exists_value_eq_cons with ⟨c, tail, rfl, solid, notEnd⟩
      exact ⟨_, c, _, rfl, hbefore, solid, notEnd⟩

theorem Spells.exists_members_eq {members : List (List Piece × Written)} {text : List Char}
    (spells : Spells (.members members) text) :
    ∃ blank tail, text = blank ++ '"' :: tail ∧ Blank blank := by
  cases spells with
  | lastMember hbefore | member hbefore => exact ⟨_, _, rfl, hbefore⟩

theorem isFound_array {elements : List Written} {inner : List Char}
    (spells : Spells (.elements elements) inner) (found : IsFound inner (.elements elements)) :
    IsFound ('[' :: (inner ++ [']'])) (.value (.array elements)) := by
  intro fuel rest enough closed
  rw [List.length_cons, List.length_append, List.length_singleton] at enough
  obtain ⟨fuel, rfl⟩ : ∃ less, fuel = less + 1 := ⟨fuel - 1, by omega⟩
  have bracket : ∀ tail, skipSpace ('[' :: tail) = '[' :: tail := skipSpace_cons rfl
  have others := found fuel rest (by omega)
  rcases spells.exists_elements_eq with ⟨blank, c, tail, rfl, hblank, solid, notEnd⟩
  rw [List.append_assoc, readElements_blank_append hblank, List.cons_append] at others
  simp [read, bracket, skipSpace_append hblank, skipSpace_cons solid, notEnd, others]

theorem isFound_object {members : List (List Piece × Written)} {inner : List Char}
    (spells : Spells (.members members) inner) (found : IsFound inner (.members members)) :
    IsFound ('\x7b' :: (inner ++ ['\x7d'])) (.value (.object members)) := by
  intro fuel rest enough closed
  rw [List.length_cons, List.length_append, List.length_singleton] at enough
  obtain ⟨fuel, rfl⟩ : ∃ less, fuel = less + 1 := ⟨fuel - 1, by omega⟩
  have brace : ∀ tail, skipSpace ('\x7b' :: tail) = '\x7b' :: tail := skipSpace_cons rfl
  have quote : ∀ tail, skipSpace ('"' :: tail) = '"' :: tail := skipSpace_cons rfl
  have others := found fuel rest (by omega)
  rcases spells.exists_members_eq with ⟨blank, tail, rfl, hblank⟩
  rw [List.append_assoc, readMembers_blank_append hblank, List.cons_append] at others
  simp [read, brace, skipSpace_append hblank, quote, others]

theorem isFound_lastElement {element : Written} {before text after : List Char}
    (hbefore : Blank before) (found : IsFound text (.value element)) (hafter : Blank after) :
    IsFound (before ++ (text ++ after)) (.elements [element]) := by
  intro fuel rest enough
  rw [List.length_append, List.length_append] at enough
  obtain ⟨fuel, rfl⟩ : ∃ less, fuel = less + 1 := ⟨fuel - 1, by omega⟩
  have read := found fuel (after ++ ']' :: rest) (by omega)
    (closes_blank_append hafter (closes_cons (by simp) rest))
  have ended : skipSpace (']' :: rest) = ']' :: rest := skipSpace_cons rfl rest
  rw [List.append_assoc, List.append_assoc, readElements_blank_append hbefore, readElements, read]
  simp [skipSpace_append hafter, ended]

theorem isFound_element {element : Written} {elements : List Written}
    {before text after others : List Char} (hbefore : Blank before)
    (found : IsFound text (.value element)) (hafter : Blank after)
    (foundOthers : IsFound others (.elements elements)) :
    IsFound (before ++ (text ++ (after ++ ',' :: others))) (.elements (element :: elements)) := by
  intro fuel rest enough
  simp only [List.length_append, List.length_cons] at enough
  obtain ⟨fuel, rfl⟩ : ∃ less, fuel = less + 1 := ⟨fuel - 1, by omega⟩
  have read := found fuel (after ++ ',' :: (others ++ ']' :: rest)) (by omega)
    (closes_blank_append hafter (closes_cons (by simp) _))
  have readOthers := foundOthers fuel rest (by omega)
  have comma : ∀ tail, skipSpace (',' :: tail) = ',' :: tail := skipSpace_cons rfl
  simp only [List.append_assoc, List.cons_append]
  rw [readElements_blank_append hbefore, readElements, read]
  simp [skipSpace_append hafter, comma, readOthers]

theorem isFound_lastMember {key : List Piece} {value : Written}
    {before name behind front text after : List Char} (hbefore : Blank before)
    (spellsKey : Piece.Spells key name) (hbehind : Blank behind) (hfront : Blank front)
    (found : IsFound text (.value value)) (hafter : Blank after) :
    IsFound (before ++ '"' :: (name ++ '"' :: (behind ++ ':' :: (front ++ (text ++ after)))))
      (.members [(key, value)]) := by
  intro fuel rest enough
  simp only [List.length_append, List.length_cons] at enough
  obtain ⟨fuel, rfl⟩ : ∃ less, fuel = less + 1 := ⟨fuel - 1, by omega⟩
  have read := found fuel (after ++ '\x7d' :: rest) (by omega)
    (closes_blank_append hafter (closes_cons (by simp) rest))
  have quote : ∀ tail, skipSpace ('"' :: tail) = '"' :: tail := skipSpace_cons rfl
  have colon : ∀ tail, skipSpace (':' :: tail) = ':' :: tail := skipSpace_cons rfl
  have ended : skipSpace ('\x7d' :: rest) = '\x7d' :: rest := skipSpace_cons rfl rest
  simp only [List.append_assoc, List.cons_append]
  rw [readMembers_blank_append hbefore]
  simp [readMembers, quote, Piece.read_of_spells spellsKey, skipSpace_append hbehind, colon,
    read_blank_append hfront, read, skipSpace_append hafter, ended]

theorem isFound_member {key : List Piece} {value : Written}
    {members : List (List Piece × Written)} {before name behind front text after others : List Char}
    (hbefore : Blank before) (spellsKey : Piece.Spells key name) (hbehind : Blank behind)
    (hfront : Blank front) (found : IsFound text (.value value)) (hafter : Blank after)
    (foundOthers : IsFound others (.members members)) :
    IsFound (before ++ '"' :: (name ++ '"' :: (behind ++ ':' ::
        (front ++ (text ++ (after ++ ',' :: others))))))
      (.members ((key, value) :: members)) := by
  intro fuel rest enough
  simp only [List.length_append, List.length_cons] at enough
  obtain ⟨fuel, rfl⟩ : ∃ less, fuel = less + 1 := ⟨fuel - 1, by omega⟩
  have read := found fuel (after ++ ',' :: (others ++ '\x7d' :: rest)) (by omega)
    (closes_blank_append hafter (closes_cons (by simp) _))
  have readOthers := foundOthers fuel rest (by omega)
  have quote : ∀ tail, skipSpace ('"' :: tail) = '"' :: tail := skipSpace_cons rfl
  have colon : ∀ tail, skipSpace (':' :: tail) = ':' :: tail := skipSpace_cons rfl
  have comma : ∀ tail, skipSpace (',' :: tail) = ',' :: tail := skipSpace_cons rfl
  simp only [List.append_assoc, List.cons_append]
  rw [readMembers_blank_append hbefore]
  simp [readMembers, quote, Piece.read_of_spells spellsKey, skipSpace_append hbehind, colon,
    read_blank_append hfront, read, skipSpace_append hafter, comma, readOthers]

/-- Everything that the grammar allows is found. -/
theorem isFound_of_spells {phrase : Phrase} {text : List Char} (spells : Spells phrase text) :
    IsFound text phrase := by
  induction spells with
  | null | yes | no =>
      intro fuel rest enough closed
      obtain ⟨fuel, rfl⟩ : ∃ less, fuel = less + 1 := ⟨fuel - 1, by simp at enough; omega⟩
      simp [read, skipSpace_cons, isSpace]
  | number spells => exact isFound_number spells
  | @text pieces inner spells =>
      intro fuel rest enough closed
      obtain ⟨fuel, rfl⟩ : ∃ less, fuel = less + 1 := ⟨fuel - 1, by simp at enough; omega⟩
      simp [read, skipSpace_cons, isSpace, Piece.read_of_spells spells]
  | emptyArray hblank =>
      intro fuel rest enough closed
      obtain ⟨fuel, rfl⟩ : ∃ less, fuel = less + 1 := ⟨fuel - 1, by simp at enough; omega⟩
      have bracket : ∀ tail, skipSpace ('[' :: tail) = '[' :: tail := skipSpace_cons rfl
      have ended : skipSpace (']' :: rest) = ']' :: rest := skipSpace_cons rfl rest
      simp [read, bracket, skipSpace_append hblank, ended]
  | array spells found => exact isFound_array spells found
  | emptyObject hblank =>
      intro fuel rest enough closed
      obtain ⟨fuel, rfl⟩ : ∃ less, fuel = less + 1 := ⟨fuel - 1, by simp at enough; omega⟩
      have brace : ∀ tail, skipSpace ('\x7b' :: tail) = '\x7b' :: tail := skipSpace_cons rfl
      have ended : skipSpace ('\x7d' :: rest) = '\x7d' :: rest := skipSpace_cons rfl rest
      simp [read, brace, skipSpace_append hblank, ended]
  | object spells found => exact isFound_object spells found
  | lastElement hbefore spells hafter found => exact isFound_lastElement hbefore found hafter
  | element hbefore spells hafter spellOthers found foundOthers =>
      exact isFound_element hbefore found hafter foundOthers
  | lastMember hbefore spellsKey hbehind hfront spells hafter found =>
      exact isFound_lastMember hbefore spellsKey hbehind hfront found hafter
  | member hbefore spellsKey hbehind hfront spells hafter spellOthers found foundOthers =>
      exact isFound_member hbefore spellsKey hbehind hfront found hafter foundOthers

/-! ### Only what is spelled is found -/

theorem Spells.blank_append_elements {blank text : List Char} {elements : List Written}
    (h : Blank blank) (spells : Spells (.elements elements) text) :
    Spells (.elements elements) (blank ++ text) := by
  cases spells with
  | lastElement hbefore spells hafter =>
      rw [← List.append_assoc]
      exact .lastElement (h.append hbefore) spells hafter
  | element hbefore spells hafter spellOthers =>
      rw [← List.append_assoc]
      exact .element (h.append hbefore) spells hafter spellOthers

theorem Spells.blank_append_members {blank text : List Char}
    {members : List (List Piece × Written)} (h : Blank blank)
    (spells : Spells (.members members) text) : Spells (.members members) (blank ++ text) := by
  cases spells with
  | lastMember hbefore spellsKey hbehind hfront spells hafter =>
      rw [← List.append_assoc]
      exact .lastMember (h.append hbefore) spellsKey hbehind hfront spells hafter
  | member hbefore spellsKey hbehind hfront spells hafter spellOthers =>
      rw [← List.append_assoc]
      exact .member (h.append hbefore) spellsKey hbehind hfront spells hafter spellOthers

/-- Within a bound for the calls, only what is spelled is found. -/
structure FindsSpelled (fuel : Nat) : Prop where
  value : ∀ {input rest : List Char} {written : Written},
    read fuel input = some (written, rest) →
      ∃ blank text, Blank blank ∧ input = blank ++ (text ++ rest) ∧ Spells (.value written) text
  elements : ∀ {input rest : List Char} {elements : List Written},
    readElements fuel input = some (elements, rest) →
      ∃ text, input = text ++ ']' :: rest ∧ Spells (.elements elements) text
  members : ∀ {input rest : List Char} {members : List (List Piece × Written)},
    readMembers fuel input = some (members, rest) →
      ∃ text, input = text ++ '\x7d' :: rest ∧ Spells (.members members) text

/-- Space and the character behind it. -/
theorem exists_blank_of_skipSpace {input tail : List Char} {c : Char}
    (h : skipSpace input = c :: tail) : ∃ blank, Blank blank ∧ input = blank ++ c :: tail := by
  rw [← h]
  exact exists_blank_append_skipSpace input

theorem FindsSpelled.elements_succ {fuel : Nat} (spelled : FindsSpelled fuel)
    {input rest : List Char} {elements : List Written}
    (h : readElements (fuel + 1) input = some (elements, rest)) :
    ∃ text, input = text ++ ']' :: rest ∧ Spells (.elements elements) text := by
  rw [readElements] at h
  rcases Option.bind_eq_some_iff.mp h with ⟨⟨element, behind⟩, found, goesOn⟩
  rcases spelled.value found with ⟨before, text, hbefore, rfl, spells⟩
  dsimp only at goesOn
  split at goesOn
  · next others next =>
      rcases exists_blank_of_skipSpace next with ⟨after, hafter, rfl⟩
      rcases Option.bind_eq_some_iff.mp goesOn with ⟨⟨elements, last⟩, foundOthers, same⟩
      cases same
      rcases spelled.elements foundOthers with ⟨inner, rfl, spellOthers⟩
      exact ⟨_, by simp, .element hbefore spells hafter spellOthers⟩
  · next others next =>
      rcases exists_blank_of_skipSpace next with ⟨after, hafter, rfl⟩
      cases goesOn
      exact ⟨_, by simp, .lastElement hbefore spells hafter⟩
  · cases goesOn

theorem FindsSpelled.members_succ {fuel : Nat} (spelled : FindsSpelled fuel)
    {input rest : List Char} {members : List (List Piece × Written)}
    (h : readMembers (fuel + 1) input = some (members, rest)) :
    ∃ text, input = text ++ '\x7d' :: rest ∧ Spells (.members members) text := by
  rw [readMembers] at h
  split at h
  · next afterQuote quoted =>
      rcases exists_blank_of_skipSpace quoted with ⟨before, hbefore, rfl⟩
      rcases Option.bind_eq_some_iff.mp h with ⟨⟨key, behindKey⟩, foundKey, keyed⟩
      rcases Piece.spells_of_read foundKey with ⟨name, rfl, spellsKey⟩
      dsimp only at keyed
      split at keyed
      · next afterColon colon =>
          rcases exists_blank_of_skipSpace colon with ⟨behind, hbehind, rfl⟩
          rcases Option.bind_eq_some_iff.mp keyed with ⟨⟨value, behindValue⟩, found, goesOn⟩
          rcases spelled.value found with ⟨front, text, hfront, rfl, spells⟩
          dsimp only at goesOn
          split at goesOn
          · next others next =>
              rcases exists_blank_of_skipSpace next with ⟨after, hafter, rfl⟩
              rcases Option.bind_eq_some_iff.mp goesOn with ⟨⟨members, last⟩, foundOthers, same⟩
              cases same
              rcases spelled.members foundOthers with ⟨inner, rfl, spellOthers⟩
              exact ⟨_, by simp,
                .member hbefore spellsKey hbehind hfront spells hafter spellOthers⟩
          · next others next =>
              rcases exists_blank_of_skipSpace next with ⟨after, hafter, rfl⟩
              cases goesOn
              exact ⟨_, by simp, .lastMember hbefore spellsKey hbehind hfront spells hafter⟩
          · cases goesOn
      · cases keyed
  · cases h

theorem FindsSpelled.value_succ {fuel : Nat} (spelled : FindsSpelled fuel)
    {input rest : List Char} {written : Written}
    (h : read (fuel + 1) input = some (written, rest)) :
    ∃ blank text, Blank blank ∧ input = blank ++ (text ++ rest) ∧
      Spells (.value written) text := by
  rcases exists_blank_append_skipSpace input with ⟨blank, hblank, form⟩
  suffices ∃ text, skipSpace input = text ++ rest ∧ Spells (.value written) text by
    rcases this with ⟨text, same, spells⟩
    exact ⟨blank, text, hblank, by rw [← same, ← form], spells⟩
  rw [read] at h
  split at h
  · next start =>
      cases h
      exact ⟨_, start, .null⟩
  · next start =>
      cases h
      exact ⟨_, start, .yes⟩
  · next start =>
      cases h
      exact ⟨_, start, .no⟩
  · next start =>
      rcases Option.map_eq_some_iff.mp h with ⟨⟨pieces, last⟩, found, same⟩
      cases same
      rcases Piece.spells_of_read found with ⟨inner, rfl, spells⟩
      exact ⟨_, by simp [start], .text spells⟩
  · next tail start =>
      split at h
      · next ended =>
          cases h
          rcases exists_blank_of_skipSpace ended with ⟨inner, hinner, rfl⟩
          exact ⟨_, by simp [start], .emptyArray hinner⟩
      · next notEnded =>
          rcases Option.map_eq_some_iff.mp h with ⟨⟨elements, last⟩, found, same⟩
          cases same
          rcases exists_blank_append_skipSpace tail with ⟨front, hfront, split⟩
          rcases spelled.elements found with ⟨inner, same, spells⟩
          rw [same] at split
          exact ⟨_, by simp [start, split], .array (spells.blank_append_elements hfront)⟩
  · next tail start =>
      split at h
      · next ended =>
          cases h
          rcases exists_blank_of_skipSpace ended with ⟨inner, hinner, rfl⟩
          exact ⟨_, by simp [start], .emptyObject hinner⟩
      · next notEnded =>
          rcases Option.map_eq_some_iff.mp h with ⟨⟨members, last⟩, found, same⟩
          cases same
          rcases exists_blank_append_skipSpace tail with ⟨front, hfront, split⟩
          rcases spelled.members found with ⟨inner, same, spells⟩
          rw [same] at split
          exact ⟨_, by simp [start, split], .object (spells.blank_append_members hfront)⟩
  · rcases Option.map_eq_some_iff.mp h with ⟨⟨literal, last⟩, found, same⟩
    cases same
    rcases Literal.spells_of_read found with ⟨text, same, spells⟩
    exact ⟨text, same, .number spells⟩

theorem findsSpelled (fuel : Nat) : FindsSpelled fuel := by
  induction fuel with
  | zero =>
      refine ⟨fun h => ?_, fun h => ?_, fun h => ?_⟩
      · rw [read] at h
        cases h
      · rw [readElements] at h
        cases h
      · rw [readMembers] at h
        cases h
  | succ fuel spelled => exact ⟨spelled.value_succ, spelled.elements_succ, spelled.members_succ⟩

/-! ### Whole texts -/

/-- The whole of a text is a JSON text, with space around it. -/
def SpelledBy (written : Written) (text : String) : Prop :=
  ∃ before form after, Blank before ∧ Blank after ∧ text.toList = before ++ (form ++ after) ∧
    Spells (.value written) form

theorem ofText?_eq_some_iff {text : String} {written : Written} :
    ofText? text = some written ↔ SpelledBy written text := by
  constructor
  · intro h
    rcases Option.bind_eq_some_iff.mp h with ⟨⟨found, after⟩, read, h⟩
    rcases Option.bind_eq_some_iff.mp h with ⟨_, ended, same⟩
    cases same
    rcases (findsSpelled _).value read with ⟨before, form, hbefore, split, spells⟩
    have hafter : Blank after := skipSpace_eq_nil_iff.mp (by simpa using ended)
    exact ⟨before, form, after, hbefore, hafter, split, spells⟩
  · rintro ⟨before, form, after, hbefore, hafter, split, spells⟩
    have closed : Literal.Closes (after ++ []) :=
      closes_blank_append hafter fun c member => by cases member
    have found := isFound_of_spells spells (text.toList.length + 1) after
      (by rw [split]; simp; omega) (by simpa using closed)
    rw [← read_blank_append hbefore, ← split] at found
    simp [ofText?, found, skipSpace_eq_nil_iff.mpr hafter]

/-- No text can be read in two ways. -/
theorem SpelledBy.unique {text : String} {written other : Written}
    (spelled : SpelledBy written text) (also : SpelledBy other text) : written = other :=
  Option.some_inj.mp
    ((ofText?_eq_some_iff.mpr spelled).symm.trans (ofText?_eq_some_iff.mpr also))

end Written
end Json
end ContentCapture

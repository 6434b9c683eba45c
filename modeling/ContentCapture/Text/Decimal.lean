namespace ContentCapture
namespace Text

/-!
# Decimal numerals

Numbers are written with the least number of decimal digits, and read from any
nonempty run of them: leading zeros are no obstacle to a reader.  Reading what
was written gives the number back.
-/

/-- The ten ASCII digits. -/
def isDigit (c : Char) : Bool :=
  '0' ≤ c && c ≤ '9'

/-- The number that one digit stands for. -/
def digitValue (c : Char) : Nat :=
  c.toNat - '0'.toNat

/-- The decimal digits of a number, the most significant first. -/
def digits (n : Nat) : List Char :=
  if n < 10 then [Nat.digitChar n] else digits (n / 10) ++ [Nat.digitChar (n % 10)]
termination_by n

/-- The number that a run of digits stands for. -/
def ofDigits (text : List Char) : Nat :=
  text.foldl (fun value c => 10 * value + digitValue c) 0

/-- The number that a text stands for, if it is a nonempty run of digits. -/
def natural? (text : List Char) : Option Nat :=
  if text.isEmpty || !text.all isDigit then none else some (ofDigits text)

/-- The number that a text stands for, if it is a numeral and sixty-four bits
hold the number. -/
def word64? (text : List Char) : Option UInt64 := do
  let value ← natural? text
  if value < UInt64.size then some (UInt64.ofNat value) else none

def ofNat (n : Nat) : String :=
  String.ofList (digits n)

/-- An integer as a text, with a sign only if it is negative. -/
def ofInt : Int → String
  | .ofNat n => ofNat n
  | .negSucc n => "-" ++ ofNat (n + 1)

private theorem isDigit_digitChar {n : Nat} (h : n < 10) : isDigit (Nat.digitChar n) = true := by
  match n with
  | 0 | 1 | 2 | 3 | 4 | 5 | 6 | 7 | 8 | 9 => rfl

private theorem digitValue_digitChar {n : Nat} (h : n < 10) :
    digitValue (Nat.digitChar n) = n := by
  match n with
  | 0 | 1 | 2 | 3 | 4 | 5 | 6 | 7 | 8 | 9 => rfl

/-- A numeral consists of digits. -/
theorem all_isDigit_digits (n : Nat) : (digits n).all isDigit = true := by
  induction n using digits.induct with
  | case1 n h => rw [digits]; simp [h, isDigit_digitChar h]
  | case2 n h inductionHypothesis =>
      rw [digits]
      simp [h, inductionHypothesis, isDigit_digitChar (Nat.mod_lt n (by decide : 10 > 0))]

/-- A numeral has at least one digit. -/
theorem digits_ne_nil (n : Nat) : digits n ≠ [] := by
  rw [digits]
  split <;> simp

/-- The digits of a number stand for that number. -/
theorem ofDigits_digits (n : Nat) : ofDigits (digits n) = n := by
  induction n using digits.induct with
  | case1 n h => rw [digits]; simp [h, ofDigits, digitValue_digitChar h]
  | case2 n h inductionHypothesis =>
      have hdigit := digitValue_digitChar (Nat.mod_lt n (by decide : 10 > 0))
      rw [digits]
      simp only [h, if_false, ofDigits, List.foldl_append, List.foldl_cons, List.foldl_nil]
      rw [← ofDigits, inductionHypothesis, hdigit]
      omega

/-- Reading a numeral gives the number back. -/
theorem natural?_digits (n : Nat) : natural? (digits n) = some n := by
  simp only [natural?, List.isEmpty_iff, digits_ne_nil, all_isDigit_digits, ofDigits_digits,
    Bool.not_true, Bool.or_false]
  simp

end Text
end ContentCapture

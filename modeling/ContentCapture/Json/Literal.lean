import ContentCapture.Text.Decimal

namespace ContentCapture
namespace Json

open Text

/-!
# Number literals

A JSON number is kept as it was written.  What the program asks of a number is
whether it is an integer of a certain width, and that depends on the spelling:
`1`, `1.0` and `1e0` have the same value, but only the first is an integer
literal, and `-0` is none.

A literal that is kept must also be one that a double-precision float can hold.
The bound is the one that comparison in floating point gives: the significand,
cut off where it no longer fits sixty-four bits, and the power of ten are each
rounded to a double, and the product of the two must not round to infinity.
-/

/-- The power of ten behind a literal. -/
structure Exponent where
  negative : Bool
  digits : List Char
  deriving DecidableEq, Repr

/-- A number as it is written.  The fraction is empty if there is no point. -/
structure Literal where
  negative : Bool
  whole : List Char
  fraction : List Char
  exponent : Option Exponent
  deriving DecidableEq, Repr

namespace Literal

def ofNat (n : Nat) : Literal :=
  ⟨false, digits n, [], none⟩

def ofInt : Int → Literal
  | .ofNat n => ofNat n
  | .negSucc n => ⟨true, digits (n + 1), [], none⟩

/-- Whether a literal has neither a fraction nor an exponent. -/
def isInteger (literal : Literal) : Bool :=
  literal.fraction.isEmpty && literal.exponent.isNone

/-- The unsigned number that a literal denotes, if it is written as one and
sixty-four bits hold it. -/
def natural? (literal : Literal) : Option Nat :=
  if literal.isInteger && !literal.negative then
    let value := ofDigits literal.whole
    if value < UInt64.size then some value else none
  else none

/-- The integer that a literal denotes, if it is written as one and sixty-four
bits hold it, with or without a sign.  Negative zero is not an integer. -/
def integer? (literal : Literal) : Option Int :=
  if literal.isInteger && literal.negative then
    let value := ofDigits literal.whole
    if 0 < value && value ≤ Nat.pow 2 63 then some (-(value : Int)) else none
  else literal.natural?.map Int.ofNat

/-! ## Spelling -/

def print (literal : Literal) : List Char :=
  (if literal.negative then ['-'] else []) ++ literal.whole ++
    (if literal.fraction.isEmpty then [] else '.' :: literal.fraction) ++
    match literal.exponent with
    | none => []
    | some exponent =>
        'e' :: (if exponent.negative then ['-'] else []) ++ exponent.digits

/-- The digits at the front of a text, and what follows them. -/
def spanDigits (text : List Char) : List Char × List Char :=
  (text.takeWhile isDigit, text.dropWhile isDigit)

/-- The fraction at the front of a text: nothing, or a point and at least one
digit. -/
def readFraction : List Char → Option (List Char × List Char)
  | '.' :: text =>
      let (fraction, rest) := spanDigits text
      if fraction.isEmpty then none else some (fraction, rest)
  | text => some ([], text)

/-- The sign and the digits of an exponent. -/
def readPower (text : List Char) : Option (Exponent × List Char) :=
  let (negative, text) : Bool × List Char :=
    match text with
    | '-' :: text => (true, text)
    | '+' :: text => (false, text)
    | text => (false, text)
  let (digits, rest) := spanDigits text
  if digits.isEmpty then none else some (⟨negative, digits⟩, rest)

/-- The exponent at the front of a text: nothing, or a mark, an optional sign
and at least one digit. -/
def readExponent : List Char → Option (Option Exponent × List Char)
  | 'e' :: text => (readPower text).map fun (exponent, rest) => (some exponent, rest)
  | 'E' :: text => (readPower text).map fun (exponent, rest) => (some exponent, rest)
  | text => some (none, text)

/-- Whether digits may stand before the point: there is one, and a zero stands
alone. -/
def wellFormedWhole : List Char → Bool
  | [] => false
  | '0' :: _ :: _ => false
  | _ => true

/-- The literal at the front of a text, and what follows it. -/
def read (text : List Char) : Option (Literal × List Char) := do
  let (negative, text) : Bool × List Char :=
    match text with
    | '-' :: text => (true, text)
    | text => (false, text)
  let (whole, text) := spanDigits text
  guard (wellFormedWhole whole)
  let (fraction, text) ← readFraction text
  let (exponent, text) ← readExponent text
  return (⟨negative, whole, fraction, exponent⟩, text)

/-! ## Range -/

/-- The double nearest to a natural number, ties going to the even one. -/
def nearestDouble (n : Nat) : Nat :=
  if n < Nat.pow 2 53 then n
  else
    let unit := Nat.pow 2 (n.log2 - 52)
    let quotient := n / unit
    let remainder := n % unit
    if 2 * remainder < unit || (2 * remainder == unit && quotient % 2 == 0) then quotient * unit
    else (quotient + 1) * unit

/-- The least exact value that rounds to infinity. -/
def infinityBound : Nat :=
  Nat.pow 2 1024 - Nat.pow 2 970

/-- A significand of at most sixty-four bits, and the power of ten to scale it
by.  No further digit fits once one has not. -/
structure Scaled where
  significand : Nat
  power : Int
  full : Bool

/-- A digit before the point: it lengthens the significand, or raises the power
once the significand is full. -/
def Scaled.pushWhole (scaled : Scaled) (c : Char) : Scaled :=
  let longer := 10 * scaled.significand + digitValue c
  if scaled.full || UInt64.size ≤ longer then
    { scaled with power := scaled.power + 1, full := true }
  else { scaled with significand := longer }

/-- A digit behind the point: it lengthens the significand and lowers the power,
or is dropped once the significand is full. -/
def Scaled.pushFraction (scaled : Scaled) (c : Char) : Scaled :=
  let longer := 10 * scaled.significand + digitValue c
  if scaled.full || UInt64.size ≤ longer then { scaled with full := true }
  else { scaled with significand := longer, power := scaled.power - 1 }

/-- The significand and the power of ten of a literal without its exponent. -/
def scaled (literal : Literal) : Scaled :=
  let whole := literal.whole.foldl Scaled.pushWhole ⟨0, 0, false⟩
  literal.fraction.foldl Scaled.pushFraction { whole with full := false }

/-- Whether a significand times a power of ten is a finite double. -/
def finiteProduct (significand : Nat) (power : Int) : Bool :=
  if significand == 0 || power < 0 then true
  else if 308 < power then false
  else nearestDouble significand * nearestDouble (Nat.pow 10 power.toNat) < infinityBound

/-- Whether a double can hold the literal.  An exponent of more than thirty-one
bits decides the matter by itself. -/
def isFinite (literal : Literal) : Bool :=
  let scaled := literal.scaled
  match literal.exponent with
  | none => finiteProduct scaled.significand scaled.power
  | some exponent =>
      let value := ofDigits exponent.digits
      if Nat.pow 2 31 ≤ value then exponent.negative || scaled.significand == 0
      else if exponent.negative then finiteProduct scaled.significand (scaled.power - value)
      else finiteProduct scaled.significand (scaled.power + value)

end Literal
end Json
end ContentCapture

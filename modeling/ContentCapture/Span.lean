import ContentCapture.Text.Decimal

namespace ContentCapture

/-!
# Spans of time

Every wait for the service is bounded by a span.  A span is a whole number of
nanoseconds, and it is shown in the largest of the units s, ms, µs and ns of
which it holds at least one, with the fraction that remains and no trailing
zeros.
-/

/-- A length of time. -/
structure Span where
  nanoseconds : Nat
  deriving DecidableEq, Repr

namespace Span

def ofParts (seconds nanoseconds : Nat) : Span :=
  ⟨seconds * 1000000000 + nanoseconds⟩

def ofMilliseconds (milliseconds : Nat) : Span :=
  ⟨milliseconds * 1000000⟩

/-- The whole milliseconds in a span. -/
def milliseconds (span : Span) : UInt64 :=
  UInt64.ofNat (span.nanoseconds / 1000000)

/-- Two spans one after the other. -/
def followedBy (first second : Span) : Span :=
  ⟨first.nanoseconds + second.nanoseconds⟩

/-- The digits after the point, for a remainder below `10 ^ places`: as many as
there are places, without the zeros at the end. -/
def fraction (remainder places : Nat) : List Char :=
  let written := Text.digits remainder
  let padded := List.replicate (places - written.length) '0' ++ written
  (padded.reverse.dropWhile (· == '0')).reverse

/-- So many units of `10 ^ places` nanoseconds each, with their fraction. -/
def inUnits (nanoseconds places : Nat) : List Char :=
  let whole := Text.digits (nanoseconds / Nat.pow 10 places)
  match fraction (nanoseconds % Nat.pow 10 places) places with
  | [] => whole
  | digits => whole ++ '.' :: digits

def text (span : Span) : String :=
  let n := span.nanoseconds
  if 1000000000 ≤ n then String.ofList (inUnits n 9) ++ "s"
  else if 1000000 ≤ n then String.ofList (inUnits n 6) ++ "ms"
  else if 1000 ≤ n then String.ofList (inUnits n 3) ++ "µs"
  else String.ofList (inUnits n 0) ++ "ns"

end Span
end ContentCapture

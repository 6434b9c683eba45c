import ContentCapture.Text.Decimal

namespace ContentCapture
namespace Json

/-!
# The characters of a JSON text

Between its quotes a JSON text holds characters that stand for themselves and
escapes.  An escape by number denotes a UTF-16 code unit, and two of them may
be needed for one character.  Reading therefore has two stages: the pieces of a
text as they are written, which are checked for their form only, and the
characters they denote, which exist only if every surrogate has its partner.

In the other direction a character is escaped only where it has to be.
-/

/-- A part of a text as it is written. -/
inductive Piece where
  /-- A character, written as itself or by its letter. -/
  | plain (c : Char)
  /-- A UTF-16 code unit, written by its number. -/
  | unit (code : Nat)
  deriving DecidableEq, Repr

namespace Piece

/-- The value of a hexadecimal digit, in either case. -/
def hexValue? (c : Char) : Option Nat :=
  if '0' ≤ c && c ≤ '9' then some (c.toNat - '0'.toNat)
  else if 'a' ≤ c && c ≤ 'f' then some (c.toNat - 'a'.toNat + 10)
  else if 'A' ≤ c && c ≤ 'F' then some (c.toNat - 'A'.toNat + 10)
  else none

/-- The code unit that four hexadecimal digits denote. -/
def unit? (a b c d : Char) : Option Nat := do
  let a ← hexValue? a
  let b ← hexValue? b
  let c ← hexValue? c
  let d ← hexValue? d
  return ((a * 16 + b) * 16 + c) * 16 + d

/-- The character that an escape by letter denotes. -/
def letter? (c : Char) : Option Char :=
  if c = '"' then some '"'
  else if c = '\\' then some '\\'
  else if c = '/' then some '/'
  else if c = 'b' then some '\x08'
  else if c = 'f' then some '\x0c'
  else if c = 'n' then some '\n'
  else if c = 'r' then some '\r'
  else if c = 't' then some '\t'
  else none

/-- The pieces up to the closing quote, and what follows it.  Controls may not
stand for themselves. -/
def read : List Char → Option (List Piece × List Char)
  | [] => none
  | '"' :: rest => some ([], rest)
  | '\\' :: 'u' :: a :: b :: c :: d :: rest => do
      let code ← unit? a b c d
      let (pieces, rest) ← read rest
      return (.unit code :: pieces, rest)
  | '\\' :: c :: rest => do
      let c ← letter? c
      let (pieces, rest) ← read rest
      return (.plain c :: pieces, rest)
  | c :: rest =>
      if c = '\\' || c.toNat < 0x20 then none
      else do
        let (pieces, rest) ← read rest
        return (.plain c :: pieces, rest)

/-- The first halves of surrogate pairs. -/
def isHigh (code : Nat) : Bool :=
  0xD800 ≤ code && code < 0xDC00

/-- The second halves of surrogate pairs. -/
def isLow (code : Nat) : Bool :=
  0xDC00 ≤ code && code < 0xE000

/-- The character that a surrogate pair denotes. -/
def paired (high low : Nat) : Char :=
  Char.ofNat (0x10000 + (high - 0xD800) * 0x400 + (low - 0xDC00))

/-- The characters that the pieces denote, unless a surrogate stands alone. -/
def characters? : List Piece → Option (List Char)
  | [] => some []
  | .plain c :: rest => (characters? rest).map (c :: ·)
  | .unit code :: rest =>
      if isHigh code then
        match rest with
        | .unit low :: rest =>
            if isLow low then (characters? rest).map (paired code low :: ·) else none
        | _ => none
      else if isLow code then none
      else (characters? rest).map (Char.ofNat code :: ·)

end Piece

/-! ## Writing -/

/-- One character as it stands between quotes. -/
def escapeChar (c : Char) : List Char :=
  if c = '"' then ['\\', '"']
  else if c = '\\' then ['\\', '\\']
  else if c = '\x08' then ['\\', 'b']
  else if c = '\x0c' then ['\\', 'f']
  else if c = '\n' then ['\\', 'n']
  else if c = '\r' then ['\\', 'r']
  else if c = '\t' then ['\\', 't']
  else if c.toNat < 0x20 then
    ['\\', 'u', '0', '0', Nat.digitChar (c.toNat / 16), Nat.digitChar (c.toNat % 16)]
  else [c]

/-- A text between quotes. -/
def printText (text : String) : List Char :=
  '"' :: text.toList.flatMap escapeChar ++ ['"']

end Json
end ContentCapture

namespace ContentCapture
namespace Text

/-!
# Blank characters and trimming

A name counts as missing when nothing but blank characters is left of it, and
a setting may be padded with them.  Blank is meant in the sense of the Unicode
property White_Space: the twenty-five characters below and no others.  The
zero-width space, for instance, is not among them.
-/

/-- The characters with the Unicode property White_Space. -/
def isBlank (c : Char) : Bool :=
  let code := c.toNat
  (9 ≤ code && code ≤ 13) || code == 0x20 || code == 0x85 || code == 0xA0 ||
    code == 0x1680 || (0x2000 ≤ code && code ≤ 0x200A) || code == 0x2028 ||
    code == 0x2029 || code == 0x202F || code == 0x205F || code == 0x3000

/-- A text without the blank characters at its two ends. -/
def trim (text : List Char) : List Char :=
  ((text.dropWhile isBlank).reverse.dropWhile isBlank).reverse

/-- A text in which nothing is left once it is trimmed. -/
def blank (text : String) : Bool :=
  (trim text.toList).isEmpty

end Text
end ContentCapture

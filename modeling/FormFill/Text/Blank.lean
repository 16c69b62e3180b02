import FormFill.Text.Basic

/-!
# Blank characters

The characters that count as whitespace when text is trimmed: the ASCII blanks and separators, the
next-line control, and the spaces and line separators of the general punctuation blocks.
-/

namespace FormFill.Text

/-- A whitespace character. -/
def isBlank (c : Char) : Bool :=
  let n := c.toNat
  (9 ≤ n && n ≤ 13) || (28 ≤ n && n ≤ 32) || n == 0x85 || n == 0xA0 || n == 0x1680 ||
  (0x2000 ≤ n && n ≤ 0x200A) || n == 0x2028 || n == 0x2029 || n == 0x202F || n == 0x205F ||
  n == 0x3000

/-- Text without the blanks at its end. -/
def trimRight (text : Text) : Text :=
  (text.reverse.dropWhile isBlank).reverse

/-- Text without the blanks at either end. -/
def trim (text : Text) : Text :=
  trimRight (text.dropWhile isBlank)

end FormFill.Text

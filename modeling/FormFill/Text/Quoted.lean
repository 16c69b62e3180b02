import FormFill.Text.Basic
import FormFill.Text.Printable

/-!
# Quoted literals

A text is shown as a literal between single quotes, or between double quotes when it holds single
quotes and no double ones. The quote and the backslash are escaped, and so is every character that is
not printable.
-/

namespace FormFill.Text

/-- The lower-case hexadecimal digits of a number, filled up with zeros to a length. -/
def hexDigits (length n : Nat) : Text :=
  let digits := Nat.toDigits 16 n
  List.replicate (length - digits.length) '0' ++ digits

/-- A character inside a literal with the given quote. -/
def quoteChar (quote c : Char) : Text :=
  if c = quote ∨ c = '\\' then ['\\', c]
  else if c = '\t' then ['\\', 't']
  else if c = '\n' then ['\\', 'n']
  else if c = '\r' then ['\\', 'r']
  else if isPrintable c then [c]
  else if c.toNat ≤ 0xFF then '\\' :: 'x' :: hexDigits 2 c.toNat
  else if c.toNat ≤ 0xFFFF then '\\' :: 'u' :: hexDigits 4 c.toNat
  else '\\' :: 'U' :: hexDigits 8 c.toNat

/-- The quote that surrounds a text. -/
def quoteFor (text : Text) : Char :=
  if text.contains '\'' && !text.contains '"' then '"' else '\''

/-- A text as a literal. -/
def quoted (text : Text) : Text :=
  let quote := quoteFor text
  quote :: (text.flatMap (quoteChar quote) ++ [quote])

end FormFill.Text

import FormFill.Text.Basic
import FormFill.Text.Blank
import FormFill.Text.Digit

/-!
# Whole numbers in text

A whole number may be surrounded by blanks and may carry a sign. Its digits may come from any script
and may be parted by single underscores. Numbers of more than 4300 digits are not read.
-/

namespace FormFill.Text

/-- Why a text is not read as a whole number. -/
inductive IntegerFault where
  | notANumber
  | tooManyDigits (count : Nat)
  deriving DecidableEq, Repr

/-- A blank that may stand around a number. The separators among the control characters may not. -/
def isNumberBlank (c : Char) : Bool := isBlank c && !(28 ≤ c.toNat && c.toNat ≤ 31)

/-- A written number without the blanks around it. -/
def trimNumber (text : Text) : Text :=
  ((text.dropWhile isNumberBlank).reverse.dropWhile isNumberBlank).reverse

/-- The greatest number of digits that are read. -/
def digitLimit : Nat := 4300

/-- The wording for a number with too many digits. -/
def tooManyDigitsMessage (count : Nat) : String :=
  "Exceeds the limit (4300 digits) for integer string conversion: value has " ++ toString count ++
    " digits; use sys.set_int_max_str_digits() to increase the limit"

/-- The values of digits that may be parted by single underscores. -/
def separatedDigits? : Text → Option (List Nat)
  | [] => none
  | [c] => (digitValue? c).map ([·])
  | c :: '_' :: rest =>
    match digitValue? c, separatedDigits? rest with
    | some d, some ds => some (d :: ds)
    | _, _ => none
  | c :: rest =>
    match digitValue? c, separatedDigits? rest with
    | some d, some ds => some (d :: ds)
    | _, _ => none

/-- The number that decimal digits denote, the most significant digit first. -/
def ofDigits (digits : List Nat) : Nat :=
  digits.foldl (fun value d => value * 10 + d) 0

/-- Reads a whole number. -/
def readInteger (text : Text) : Except IntegerFault Int :=
  let (negative, body) := match trimNumber text with
    | '+' :: rest => (false, rest)
    | '-' :: rest => (true, rest)
    | rest => (false, rest)
  match separatedDigits? body with
  | none => .error .notANumber
  | some digits =>
    if digitLimit < digits.length then .error (.tooManyDigits digits.length)
    else .ok (if negative then -(ofDigits digits : Int) else ofDigits digits)

end FormFill.Text

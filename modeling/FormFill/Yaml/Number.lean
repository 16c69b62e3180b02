import FormFill.Decimal.Binary64
import FormFill.Text.Blank
import FormFill.Text.SmallForm
import FormFill.Yaml.Fault

/-!
# Numbers

Whole numbers are written in decimal, with the prefixes `0b` and `0x` in binary and hexadecimal, with a
leading zero in octal, or with colons to the base sixty. Reals have a point. Digits may be parted by
underscores. A scalar that is tagged as a number need not look like one: it denotes one if its parts
do.
-/

namespace FormFill.Yaml.Number

/-! ## The looks of numbers -/

/-- A text without a sign at its start. -/
def unsigned : Text → Text
  | '+' :: rest | '-' :: rest => rest
  | text => text

/-- Whether a text is not empty and all its characters pass a test. -/
def allOf (test : Char → Bool) (text : Text) : Bool := !text.isEmpty && text.all test

/-- A decimal digit or a line below. -/
def isDigitOrLine (c : Char) : Bool := c.isDigit || c == '_'

/-- A hexadecimal digit. -/
def isHexDigit (c : Char) : Bool := c.isDigit || ('a' ≤ c && c ≤ 'f') || ('A' ≤ c && c ≤ 'F')

/-- Whether a text is a digit followed by digits and lines. -/
def isDigits : Text → Bool
  | c :: rest => c.isDigit && rest.all isDigitOrLine
  | [] => false

/-- Whether a text is a place to the base sixty: a digit, or two of which the first is at most five. -/
def isSixtieth : Text → Bool
  | [c] => c.isDigit
  | [c, d] => '0' ≤ c && c ≤ '5' && d.isDigit
  | _ => false

/-- Whether a text looks like a whole number. -/
def looksInteger (text : Text) : Bool :=
  match unsigned text with
  | ['0'] => true
  | '0' :: 'b' :: digits => allOf (fun c => c == '0' || c == '1' || c == '_') digits
  | '0' :: 'x' :: digits => allOf (fun c => isHexDigit c || c == '_') digits
  | '0' :: digits => allOf (fun c => ('0' ≤ c && c ≤ '7') || c == '_') digits
  | body =>
    match Text.splitOn ':' body with
    | first :: rest => isDigits first && rest.all isSixtieth
    | [] => false

/-- Whether a text looks like what may follow the digits of a fraction: nothing, or an exponent with a
sign. -/
def looksExponent : Text → Bool
  | [] => true
  | e :: sign :: digits => (e == 'e' || e == 'E') && (sign == '+' || sign == '-') &&
      allOf Char.isDigit digits
  | _ => false

/-- Whether a text looks like a point followed by digits, and perhaps an exponent. -/
def looksFraction : Text → Bool
  | '.' :: rest => looksExponent (rest.dropWhile isDigitOrLine)
  | _ => false

/-- Whether a text looks like a real number. -/
def looksReal (text : Text) : Bool :=
  let body := unsigned text
  let whole := body.takeWhile (· != '.')
  let fraction := body.dropWhile (· != '.')
  let plain := isDigits whole && looksFraction fraction
  let pointed := match text with
    | '.' :: digit :: _ => digit.isDigit && looksFraction text
    | _ => false
  let sixtieths := match Text.splitOn ':' whole, fraction with
    | first :: place :: places, '.' :: digits =>
      isDigits first && (place :: places).all isSixtieth && digits.all isDigitOrLine
    | _, _ => false
  let infinite := [".inf", ".Inf", ".INF"].contains (String.ofList body)
  let notANumber := [".nan", ".NaN", ".NAN"].contains (String.ofList text)
  plain || pointed || sixtieths || infinite || notANumber

/-! ## The values of numbers -/

/-- The value of a digit or a letter as a digit. -/
def placeValue? (c : Char) : Option Nat :=
  match Text.digitValue? c with
  | some d => some d
  | none =>
    if 'a' ≤ c ∧ c ≤ 'z' then some (c.toNat - 87)
    else if 'A' ≤ c ∧ c ≤ 'Z' then some (c.toNat - 55)
    else none

/-- The number that digits denote to a base. -/
def ofPlaces? (base : Nat) (digits : Text) : Option Nat :=
  if digits.isEmpty then none
  else digits.foldl (fun value? c => do
    let value ← value?
    let d ← placeValue? c
    if d < base then pure (value * base + d) else none) (some 0)

/-- Whether two letters mark a base. -/
def marksBase (base : Nat) (c : Char) : Bool :=
  (base == 16 && (c == 'x' || c == 'X')) || (base == 8 && (c == 'o' || c == 'O')) ||
    (base == 2 && (c == 'b' || c == 'B'))

/-- A text of digits without a mark of the base in front. -/
def withoutMark (base : Nat) : Text → Text
  | '0' :: c :: rest => if marksBase base c then rest else '0' :: c :: rest
  | text => text

/-- Reads a whole number to a base other than ten, with blanks around it and a sign. -/
def ofBase (base : Nat) (text : Text) : Except Fault Int :=
  let trimmed := Text.trimNumber text
  match ofPlaces? base (withoutMark base (unsigned trimmed)) with
  | some n => .ok (if trimmed.head? = some '-' then -(n : Int) else n)
  | none => .error (.notAnInteger base text)

/-- Reads a whole number in decimal. -/
def ofDecimal (text : Text) : Except Fault Int :=
  match Text.readInteger text with
  | .ok n => .ok n
  | .error .notANumber => .error (.notAnInteger 10 text)
  | .error (.tooManyDigits count) => .error (.tooManyDigits count)

/-- The whole number that a scalar denotes, without its sign. -/
def magnitude (body : Text) : Except Fault Int :=
  match body with
  | [] => .error .emptyNumber
  | ['0'] => .ok 0
  | '0' :: 'b' :: digits => ofBase 2 digits
  | '0' :: 'x' :: digits => ofBase 16 digits
  | '0' :: digits => ofBase 8 ('0' :: digits)
  | body =>
    if body.contains ':' then do
      let places ← (Text.splitOn ':' body).mapM ofDecimal
      pure (places.foldl (fun value place => value * 60 + place) 0)
    else ofDecimal body

/-- The whole number that a scalar denotes. -/
def integer (text : Text) : Except Fault Int := do
  let text := text.filter (· != '_')
  let n ← match text with
    | [] => throw .emptyNumber
    | _ => magnitude (unsigned text)
  pure (if text.head? = some '-' then -n else n)

/-- A text in which the digits of all scripts are those of ASCII. -/
def plainDigits (text : Text) : Text :=
  text.map fun c => match Text.digitValue? c with
    | some d => Char.ofNat (48 + d)
    | none => c

/-- The exponent at the end of a number, if all of the text is one. -/
def exponent? : Text → Option Int
  | [] => some 0
  | 'e' :: rest =>
    let digits := unsigned rest
    if allOf Char.isDigit digits then
      let n : Int := Text.ofDigits (digits.map (·.toNat - 48))
      some (if rest.head? = some '-' then -n else n)
    else none
  | _ => none

/-- Reads a real number in small letters, without blanks and sign. -/
def ofPoint? (negative : Bool) (text : Text) : Option Decimal.Binary64 :=
  match String.ofList text with
  | "inf" | "infinity" => some (.infinite negative)
  | "nan" => some .notANumber
  | _ => do
    let whole := text.takeWhile Char.isDigit
    let (places, rest) := match text.dropWhile Char.isDigit with
      | '.' :: rest => (rest.takeWhile Char.isDigit, rest.dropWhile Char.isDigit)
      | rest => ([], rest)
    let digits := whole ++ places
    if digits.isEmpty then none
    let exponent ← exponent? rest
    pure (.ofDecimal negative (Text.ofDigits (digits.map (·.toNat - 48)))
      (exponent - places.length))

/-- Reads a real number in small letters, with blanks around it and a sign. -/
def ofReal (text : Text) : Except Fault Decimal.Binary64 :=
  let trimmed := plainDigits (Text.trimNumber text)
  match ofPoint? (trimmed.head? = some '-') (unsigned trimmed) with
  | some x => .ok x
  | none => .error (.notAReal text)

/-- The real number that places to the base sixty denote, the least significant place first, the first
place being worth `base`. -/
def ofSixtieths (base : Nat) (value : Decimal.Binary64) :
    List Decimal.Binary64 → Except Fault Decimal.Binary64
  | [] => .ok value
  | place :: rest =>
    match place.timesNat? base with
    | some part => ofSixtieths (base * 60) (value.add part) rest
    | none => .error .placeTooLarge

/-- A scalar without lines below and in small letters, as reals are read. -/
def realText (text : Text) : Text := Text.lowered (text.filter (· != '_'))

/-- Whether a scalar is the usual word for what is not a number. -/
def isNotANumber (text : Text) : Bool := unsigned (realText text) == ".nan".toList

/-- The real number that a scalar denotes. -/
def real (text : Text) : Except Fault Decimal.Binary64 := do
  let text := realText text
  let negative := text.head? = some '-'
  let body := unsigned text
  if text.isEmpty then throw .emptyNumber
  let magnitude ←
    if body = ".inf".toList then pure (.infinite false)
    else if body = ".nan".toList then pure .notANumber
    else if body.contains ':' then do
      let places ← (Text.splitOn ':' body).mapM ofReal
      ofSixtieths 1 .zero places.reverse
    else ofReal body
  pure (if negative then magnitude.neg else magnitude)

end FormFill.Yaml.Number

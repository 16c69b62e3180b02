import FormFill.Json.Value
import FormFill.Text.Integer

/-!
# Reading JSON

The reader takes one value and the blanks around it. It also takes the words for infinite numbers and
for the value that is not a number. A fault says what was expected and at which character.
-/

namespace FormFill.Json

/-- What a JSON text does wrong. -/
inductive Problem where
  | byteOrderMark
  | expectedValue
  | expectedKey
  | expectedColon
  | expectedComma
  | extraData
  | unterminatedString
  | controlCharacter
  | badEscape
  | badUnicodeEscape
  deriving DecidableEq, Repr

/-- The wording of a problem. -/
def Problem.message : Problem → String
  | .byteOrderMark => "Unexpected UTF-8 BOM (decode using utf-8-sig)"
  | .expectedValue => "Expecting value"
  | .expectedKey => "Expecting property name enclosed in double quotes"
  | .expectedColon => "Expecting ':' delimiter"
  | .expectedComma => "Expecting ',' delimiter"
  | .extraData => "Extra data"
  | .unterminatedString => "Unterminated string starting at"
  | .controlCharacter => "Invalid control character at"
  | .badEscape => "Invalid \\escape"
  | .badUnicodeEscape => "Invalid \\uXXXX escape"

/-- Why reading stopped, with the number of characters that were left. -/
inductive Stop where
  | problem (problem : Problem) (left : Nat)
  | tooManyDigits (count : Nat)
  deriving DecidableEq, Repr

/-- Why a text is not read as JSON: a problem at a position, or a number that is too long. -/
inductive Fault where
  | malformed (problem : Problem) (position : Nat)
  | tooManyDigits (count : Nat)
  deriving DecidableEq, Repr

/-- A blank between JSON tokens. -/
def isBlank (c : Char) : Bool := c == ' ' || c == '\t' || c == '\n' || c == '\r'

/-- A text without the blanks at its start. -/
def skipBlanks (text : Text) : Text := text.dropWhile isBlank

/-- The value of a hexadecimal digit. -/
def hexValue? (c : Char) : Option Nat :=
  if c.isDigit then some (c.toNat - 48)
  else if 'a' ≤ c ∧ c ≤ 'f' then some (c.toNat - 87)
  else if 'A' ≤ c ∧ c ≤ 'F' then some (c.toNat - 55)
  else none

/-- The number that four hexadecimal digits denote. -/
def hexFour? (a b c d : Char) : Option Nat := do
  pure ((((← hexValue? a) * 16 + (← hexValue? b)) * 16 + (← hexValue? c)) * 16 + (← hexValue? d))

/-- The character that follows a backslash, other than the letter of a code point escape. -/
def shortEscape? : Char → Option Char
  | '"' => some '"'
  | '\\' => some '\\'
  | '/' => some '/'
  | 'b' => some '\x08'
  | 'f' => some '\x0c'
  | 'n' => some '\n'
  | 'r' => some '\r'
  | 't' => some '\t'
  | _ => none

/-- A first half of a surrogate pair. -/
def isHighSurrogate (n : Nat) : Bool := 0xD800 ≤ n && n ≤ 0xDBFF

/-- A second half of a surrogate pair. -/
def isLowSurrogate (n : Nat) : Bool := 0xDC00 ≤ n && n ≤ 0xDFFF

/-- The character of a code point; half of a surrogate pair becomes the replacement character. -/
def charOfCode (n : Nat) : Char :=
  if 0xD800 ≤ n && n ≤ 0xDFFF then '\uFFFD' else Char.ofNat n

/-- Reads the rest of a string after its opening quote. `openedAt` is the number of characters left at
that quote, and `done` holds the characters read so far, from the end. -/
def stringRest (openedAt : Nat) :
    Text → (done : Text) → Except Stop (Text × Text)
  | [], _ => .error (.problem .unterminatedString openedAt)
  | '"' :: rest, done => .ok (done.reverse, rest)
  | '\\' :: 'u' :: a :: b :: c :: d :: next :: rest, done =>
    match hexFour? a b c d with
    | none => .error (.problem .badUnicodeEscape (rest.length + 6))
    | some code =>
      if isHighSurrogate code then
        match _h : next :: rest with
        | '\\' :: 'u' :: e :: f :: g :: k :: last :: more =>
          match hexFour? e f g k with
          | none => .error (.problem .badUnicodeEscape (more.length + 6))
          | some low =>
            if isLowSurrogate low then
              stringRest openedAt (last :: more)
                (Char.ofNat (0x10000 + (code - 0xD800) * 0x400 + (low - 0xDC00)) :: done)
            else stringRest openedAt (next :: rest) (charOfCode code :: done)
        | _ => stringRest openedAt (next :: rest) (charOfCode code :: done)
      else stringRest openedAt (next :: rest) (charOfCode code :: done)
  | '\\' :: c :: rest, done =>
    if c = 'u' then .error (.problem .badUnicodeEscape (rest.length + 1))
    else match shortEscape? c with
      | some e => stringRest openedAt rest (e :: done)
      | none => .error (.problem .badEscape (rest.length + 2))
  | c :: rest, done =>
    if c = '\\' then .error (.problem .unterminatedString openedAt)
    else if c.toNat < 32 then .error (.problem .controlCharacter (rest.length + 1))
    else stringRest openedAt rest (c :: done)
termination_by text => text.length
decreasing_by
  all_goals simp_all
  all_goals omega

/-- Splits off the decimal digits at the start of a text. -/
def splitDigits (text : Text) : Text × Text :=
  (text.takeWhile Char.isDigit, text.dropWhile Char.isDigit)

/-- The number that decimal digits denote. -/
def digitsValue (digits : Text) : Nat :=
  digits.foldl (fun value c => value * 10 + (c.toNat - 48)) 0

/-- Splits off a fraction: a point with at least one digit. -/
def splitFraction : Text → Option (Text) × Text
  | '.' :: rest =>
    match splitDigits rest with
    | ([], _) => (none, '.' :: rest)
    | (digits, after) => (some digits, after)
  | text => (none, text)

/-- Splits off a sign, which is true of a minus. -/
def splitSign : Text → Bool × Text
  | '-' :: rest => (true, rest)
  | '+' :: rest => (false, rest)
  | text => (false, text)

/-- Splits off an exponent: a letter, an optional sign and at least one digit. -/
def splitExponent : Text → Option Int × Text
  | [] => (none, [])
  | e :: rest =>
    if e = 'e' ∨ e = 'E' then
      let (negative, body) := splitSign rest
      match splitDigits body with
      | ([], _) => (none, e :: rest)
      | (digits, after) =>
        let magnitude : Int := digitsValue digits
        (some (if negative then -magnitude else magnitude), after)
    else (none, e :: rest)

/-- Splits off the digits before the point: a zero, or any digits. -/
def splitWhole : Text → Text × Text
  | '0' :: rest => (['0'], rest)
  | text => splitDigits text

/-- Reads a number, whose sign has been taken; `left` characters were left before the sign. -/
def number (negative : Bool) (left : Nat) (text : Text) : Except Stop (Value × Text) :=
  let (whole, rest) := splitWhole text
  match whole with
  | [] => .error (.problem .expectedValue left)
  | _ =>
    let (fraction, rest) := splitFraction rest
    let (exponent, rest) := splitExponent rest
    match fraction, exponent with
    | none, none =>
      if Text.digitLimit < whole.length then .error (.tooManyDigits whole.length)
      else
        let magnitude : Int := digitsValue whole
        .ok (.integer (if negative then -magnitude else magnitude), rest)
    | _, _ =>
      let places := fraction.getD []
      .ok (.real (Decimal.Binary64.ofDecimal negative (digitsValue (whole ++ places))
        (exponent.getD 0 - places.length)), rest)

/-- Splits a word off the start of a text. -/
def dropWord? (word : Text) (text : Text) : Option (Text) :=
  if word.isPrefixOf text then some (text.drop word.length) else none

/-- The words that stand for values, in the order in which they are tried. -/
def words : List (Text × Value) :=
  [("null".toList, .null), ("true".toList, .bool true), ("false".toList, .bool false),
    ("NaN".toList, .real .notANumber), ("Infinity".toList, .real (.infinite false)),
    ("-Infinity".toList, .real (.infinite true))]

/-- Reads the first of the given words that a text begins with. -/
def word? (words : List (Text × Value)) (text : Text) : Option (Value × Text) :=
  words.findSome? fun entry => (dropWord? entry.1 text).map fun rest => (entry.2, rest)

/-- Reads a number with its sign. -/
def signedNumber : Text → Except Stop (Value × Text)
  | '-' :: rest => number true (rest.length + 1) rest
  | text => number false text.length text

/-- Reads a word or a number. -/
def scalar (text : Text) : Except Stop (Value × Text) :=
  match word? words text with
  | some found => .ok found
  | none => signedNumber text

mutual

/-- Reads one value; the fuel bounds the nesting. -/
def value : (fuel : Nat) → Text → Except Stop (Value × Text)
  | 0, text => .error (.problem .expectedValue text.length)
  | fuel + 1, text =>
    match text with
    | '"' :: rest => do
      let (content, rest) ← stringRest text.length rest []
      pure (.string content, rest)
    | '[' :: rest =>
      match skipBlanks rest with
      | ']' :: after => .ok (.array [], after)
      | items => elements fuel items []
    | '\x7b' :: rest =>
      match skipBlanks rest with
      | '\x7d' :: after => .ok (.object [], after)
      | entries => members fuel entries []
    | text => scalar text

/-- Reads the items of an array; `done` holds those read so far, from the end. -/
def elements : (fuel : Nat) → Text → List Value → Except Stop (Value × Text)
  | 0, text, _ => .error (.problem .expectedValue text.length)
  | fuel + 1, text, done => do
    let (item, rest) ← value fuel text
    match skipBlanks rest with
    | ']' :: after => pure (.array (item :: done).reverse, after)
    | ',' :: after => elements fuel (skipBlanks after) (item :: done)
    | rest => .error (.problem .expectedComma rest.length)

/-- Reads the members of an object; `done` holds those read so far. -/
def members : (fuel : Nat) → Text → Table Value →
    Except Stop (Value × Text)
  | 0, text, _ => .error (.problem .expectedKey text.length)
  | fuel + 1, text, done =>
    match text with
    | '"' :: rest => do
      let (key, rest) ← stringRest text.length rest []
      match skipBlanks rest with
      | ':' :: rest =>
        let (item, rest) ← value fuel (skipBlanks rest)
        let done := done.set key item
        match skipBlanks rest with
        | '\x7d' :: after => pure (.object done, after)
        | ',' :: after => members fuel (skipBlanks after) done
        | rest => .error (.problem .expectedComma rest.length)
      | rest => .error (.problem .expectedColon rest.length)
    | text => .error (.problem .expectedKey text.length)

end

/-- Reads a text that holds one value. -/
def read (text : Text) : Except Fault Value :=
  let whole : Except Stop Value := do
    if text.head? = some '\uFEFF' then throw (.problem .byteOrderMark text.length)
    let (found, rest) ← value (2 * text.length + 2) (skipBlanks text)
    match skipBlanks rest with
    | [] => pure found
    | rest => throw (.problem .extraData rest.length)
  match whole with
  | .ok found => .ok found
  | .error (.problem problem left) => .error (.malformed problem (text.length - left))
  | .error (.tooManyDigits count) => .error (.tooManyDigits count)

/-- The line and the column of a position, both counted from one. -/
def lineAndColumn (text : Text) (position : Nat) : Nat × Nat :=
  let before := text.take position
  (before.count '\n' + 1, (before.reverse.takeWhile (· != '\n')).length + 1)

/-- The wording of a fault in a text. -/
def Fault.message (text : Text) : Fault → String
  | .malformed problem position =>
    let (line, column) := lineAndColumn text position
    problem.message ++ ": line " ++ toString line ++ " column " ++ toString column ++ " (char " ++
      toString position ++ ")"
  | .tooManyDigits count => Text.tooManyDigitsMessage count

end FormFill.Json

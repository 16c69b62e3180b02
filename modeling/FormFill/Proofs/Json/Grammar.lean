import FormFill.Json.Reader

/-!
# The grammar of JSON

What a JSON value looks like as a text, apart from how it is read: a word, a number, a string, or entries
between brackets. A text that has not come to its end yet may have opened brackets, within which a value is
expected next.
-/

namespace FormFill.Json

/-! ## Tokens -/

/-- Blanks between tokens, or none. -/
def IsGap (gap : Text) : Prop := ∀ c ∈ gap, isBlank c = true

/-- A hexadecimal digit. -/
def IsHexDigit (c : Char) : Prop :=
  ('0' ≤ c ∧ c ≤ '9') ∨ ('a' ≤ c ∧ c ≤ 'f') ∨ ('A' ≤ c ∧ c ≤ 'F')

/-- What follows a backslash, other than the letter of a code point escape. -/
def escapes : List Char := ['"', '\\', '/', 'b', 'f', 'n', 'r', 't']

/-- What stands between the quotes of a string. -/
inductive StringBody : Text → Prop
  | nil : StringBody []
  | plain {c : Char} {body : Text} (hquote : c ≠ '"') (hbackslash : c ≠ '\\')
      (hcontrol : 32 ≤ c.toNat) (hbody : StringBody body) : StringBody (c :: body)
  | short {c : Char} {body : Text} (hc : c ∈ escapes) (hbody : StringBody body) :
      StringBody ('\\' :: c :: body)
  | codePoint {a b c d : Char} {body : Text} (ha : IsHexDigit a) (hb : IsHexDigit b)
      (hc : IsHexDigit c) (hd : IsHexDigit d) (hbody : StringBody body) :
      StringBody ('\\' :: 'u' :: a :: b :: c :: d :: body)

/-- At least one decimal digit. -/
def IsDigits (digits : Text) : Prop := digits ≠ [] ∧ ∀ c ∈ digits, c.isDigit = true

/-- The sign of a number, which only a negative number has. -/
def IsSign (sign : Text) : Prop := sign = [] ∨ sign = ['-']

/-- The digits before the point: a zero, or digits that do not begin with one. -/
def IsWhole (digits : Text) : Prop :=
  digits = ['0'] ∨ IsDigits digits ∧ digits.head? ≠ some '0'

/-- A point with digits, or nothing. -/
def IsFraction (part : Text) : Prop := part = [] ∨ ∃ digits, IsDigits digits ∧ part = '.' :: digits

/-- The sign of an exponent. -/
def IsExponentSign (sign : Text) : Prop := sign = [] ∨ sign = ['-'] ∨ sign = ['+']

/-- A letter with digits, which may have a sign, or nothing. -/
def IsExponent (part : Text) : Prop :=
  part = [] ∨ ∃ letter sign digits, (letter = 'e' ∨ letter = 'E') ∧ IsExponentSign sign ∧
    IsDigits digits ∧ part = letter :: (sign ++ digits)

/-- A text in front of which a whole number ends: no digits, no fraction and no exponent go on from it. -/
def EndsNumber (rest : Text) : Prop :=
  ∀ part, IsDigits part ∨ IsFraction part ∨ IsExponent part → part <+: rest → part = []

/-! ## Values -/

/-- The brackets of arrays and of objects. -/
inductive Brackets where
  | square
  | curly

namespace Brackets

def opening : Brackets → Char
  | square => '['
  | curly => '\x7b'

def closing : Brackets → Char
  | square => ']'
  | curly => '\x7d'

/-- What stands before the value of an entry: blanks, and in an object a key with a colon among them. -/
def IsHead : Brackets → Text → Prop
  | square, head => IsGap head
  | curly, head => ∃ before body between after, IsGap before ∧ StringBody body ∧ IsGap between ∧
      IsGap after ∧ head = before ++ '"' :: (body ++ '"' :: (between ++ ':' :: after))

end Brackets

/-- An item of an array or a member of an object, with the blanks behind its value. -/
structure Entry (brackets : Brackets) where
  head : Text
  value : Text
  gap : Text
  isHead : brackets.IsHead head
  isGap : IsGap gap

/-- An entry as it is written. -/
def Entry.text {brackets : Brackets} (entry : Entry brackets) : Text :=
  entry.head ++ entry.value ++ entry.gap

/-- Entries with a comma behind each. -/
def led {brackets : Brackets} (entries : List (Entry brackets)) : Text :=
  entries.flatMap fun entry => entry.text ++ [',']

theorem led_cons {brackets : Brackets} (entry : Entry brackets) (entries : List (Entry brackets)) :
    led (entry :: entries) = entry.text ++ ',' :: led entries := by
  rw [led, List.flatMap_cons, List.append_assoc]
  rfl

/-- A text is a JSON value. An integer is one only up to the greatest number of digits. -/
inductive Written : Text → Prop
  | word {text : Text} (h : text ∈ words.map Prod.fst) : Written text
  | number {sign whole fraction exponent : Text} (hsign : IsSign sign) (hwhole : IsWhole whole)
      (hfraction : IsFraction fraction) (hexponent : IsExponent exponent)
      (hlimit : fraction = [] → exponent = [] → whole.length ≤ Text.digitLimit) :
      Written (sign ++ (whole ++ (fraction ++ exponent)))
  | string {body : Text} (h : StringBody body) : Written ('"' :: (body ++ ['"']))
  | empty (brackets : Brackets) {gap : Text} (h : IsGap gap) :
      Written (brackets.opening :: (gap ++ [brackets.closing]))
  | entries (brackets : Brackets) {entries : List (Entry brackets)} {last : Entry brackets}
      (hentries : ∀ entry ∈ entries, Written entry.value) (hlast : Written last.value) :
      Written (brackets.opening :: (led entries ++ (last.text ++ [brackets.closing])))

/-- A text opens brackets, within which a value is expected next. -/
inductive Opens : Text → Prop
  | nil : Opens []
  | entry (brackets : Brackets) {entries : List (Entry brackets)} {head front : Text}
      (hentries : ∀ entry ∈ entries, Written entry.value) (hhead : brackets.IsHead head)
      (hfront : Opens front) : Opens (brackets.opening :: (led entries ++ (head ++ front)))

/-- An integer of so many digits stands at the start of a text. -/
def StartsInteger (count : Nat) (text : Text) : Prop :=
  ∃ sign digits rest, IsSign sign ∧ IsWhole digits ∧ digits.length = count ∧ EndsNumber rest ∧
    text = sign ++ (digits ++ rest)

/-- An integer of so many digits stands where a value is expected, after nothing but what JSON allows. -/
def ReachesInteger (count : Nat) (text : Text) : Prop :=
  ∃ gap front tail, IsGap gap ∧ Opens front ∧ StartsInteger count tail ∧
    text = gap ++ (front ++ tail)

/-- A text is one JSON value between blanks. -/
def IsDocument (text : Text) : Prop :=
  ∃ before value after, IsGap before ∧ Written value ∧ IsGap after ∧ text = before ++ (value ++ after)

end FormFill.Json

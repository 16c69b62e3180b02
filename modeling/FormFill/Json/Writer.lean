import FormFill.Json.Value

/-!
# Writing JSON

The compact form: no blanks between tokens, members sorted by key, and every character written as it
is except quotes, backslashes and controls.
-/

namespace FormFill.Json

/-- A character inside a written string. -/
def escapeChar (c : Char) : Text :=
  match c with
  | '"' => ['\\', '"']
  | '\\' => ['\\', '\\']
  | '\n' => ['\\', 'n']
  | '\r' => ['\\', 'r']
  | '\t' => ['\\', 't']
  | '\x08' => ['\\', 'b']
  | '\x0c' => ['\\', 'f']
  | c => if c.toNat < 32 then '\\' :: 'u' :: Text.hexDigits 4 c.toNat else [c]

/-- A written string. -/
def writeString (text : Text) : Text :=
  '"' :: (text.flatMap escapeChar ++ ['"'])

mutual

/-- The value with the members of every object sorted by key. -/
def Value.sorted : Value → Value
  | .array items => .array (sortedItems items)
  | .object members =>
    .object ((sortedMembers members).mergeSort fun a b => Text.le a.1 b.1)
  | value => value

/-- Every value of a list with sorted members. -/
def sortedItems : List Value → List Value
  | [] => []
  | item :: rest => item.sorted :: sortedItems rest

/-- Every member of an object with a sorted value. -/
def sortedMembers : List (Text × Value) → List (Text × Value)
  | [] => []
  | (key, value) :: rest => (key, value.sorted) :: sortedMembers rest

end

mutual

/-- The compact text of a value, members in the order in which they are held. -/
def Value.compact : Value → Text
  | .null => "null".toList
  | .bool true => "true".toList
  | .bool false => "false".toList
  | .integer n => Text.ofInt n
  | .real (.infinite negative) => (if negative then "-Infinity" else "Infinity").toList
  | .real .notANumber => "NaN".toList
  | .real x => x.text
  | .string text => writeString text
  | .array items => '[' :: (Text.joined [','] (compacts items) ++ [']'])
  | .object members => '\x7b' :: (Text.joined [','] (memberCompacts members) ++ ['\x7d'])

/-- The compact texts of a list of values. -/
def compacts : List Value → List Text
  | [] => []
  | item :: rest => item.compact :: compacts rest

/-- The compact texts of the members of an object. -/
def memberCompacts : List (Text × Value) → List Text
  | [] => []
  | (key, value) :: rest => (writeString key ++ ':' :: value.compact) :: memberCompacts rest

end

/-- The text of a value in the compact sorted form. -/
def write (value : Value) : Text := value.sorted.compact

end FormFill.Json

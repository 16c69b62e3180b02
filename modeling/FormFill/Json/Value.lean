import FormFill.Decimal.Shortest
import FormFill.Table
import FormFill.Text.Quoted

/-!
# JSON values

Objects keep their members in the order of first appearance; a repeated key keeps its place and takes
the last value. A value has two texts: its display, in which strings appear as they are, and its
literal, in which they are quoted.
-/

namespace FormFill.Json

/-- A JSON value, with floating numbers that may be infinite or not a number. -/
inductive Value where
  | null
  | bool (value : Bool)
  | integer (value : Int)
  | real (value : Decimal.Binary64)
  | string (text : Text)
  | array (items : List Value)
  | object (members : List (Text × Value))
  deriving Repr

mutual

/-- The text of a value in which strings are quoted. -/
def Value.literal : Value → Text
  | .null => "None".toList
  | .bool true => "True".toList
  | .bool false => "False".toList
  | .integer n => Text.ofInt n
  | .real x => x.text
  | .string text => Text.quoted text
  | .array items => '[' :: (Text.joined [',', ' '] (literals items) ++ [']'])
  | .object members => '\x7b' :: (Text.joined [',', ' '] (memberLiterals members) ++ ['\x7d'])

/-- The literals of a list of values. -/
def literals : List Value → List Text
  | [] => []
  | item :: rest => item.literal :: literals rest

/-- The literals of the members of an object. -/
def memberLiterals : List (Text × Value) → List Text
  | [] => []
  | (key, value) :: rest => (Text.quoted key ++ ':' :: ' ' :: value.literal) :: memberLiterals rest

end

/-- The text of a value in which a string appears as it is. -/
def Value.display : Value → Text
  | .string text => text
  | value => value.literal

/-- The value of a key of an object. -/
def Value.get? (key : String) : Value → Option Value
  | .object members => Table.get? key members
  | _ => none

end FormFill.Json

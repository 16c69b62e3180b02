import FormFill.Json.Value
import FormFill.Yaml.Moment

/-!
# Configuration data

The values that a configuration may hold before its schema is checked. They come from a configuration
document or from JSON.
-/

namespace FormFill

/-- A value of a configuration. -/
inductive Datum where
  | null
  | bool (value : Bool)
  | integer (value : Int)
  | real (value : Decimal.Binary64)
  | text (value : Text)
  | bytes (value : List UInt8)
  | moment (value : Yaml.Moment)
  | list (items : List Datum)
  | mapping (entries : List (Datum × Datum))
  deriving Repr

namespace Datum

mutual

/-- The datum of a JSON value. -/
def ofJson : Json.Value → Datum
  | .null => null
  | .bool value => bool value
  | .integer value => integer value
  | .real value => real value
  | .string value => text value
  | .array items => list (itemsOfJson items)
  | .object members => mapping (entriesOfJson members)

/-- The data of JSON values. -/
def itemsOfJson : List Json.Value → List Datum
  | [] => []
  | item :: rest => ofJson item :: itemsOfJson rest

/-- The entries of the members of a JSON object. -/
def entriesOfJson : List (Text × Json.Value) → List (Datum × Datum)
  | [] => []
  | (key, value) :: rest => (text key, ofJson value) :: entriesOfJson rest

end

/-- The number that a datum equals as a key, if it is one. Truth values count as one and zero. -/
def number? : Datum → Option (Int × Nat)
  | bool value => some (if value then 1 else 0, 1)
  | integer value => some (value, 1)
  | real value => value.rational?
  | _ => none

/-- Whether two data are the same key. Numbers are compared by value, moments with an offset by the
instant, and collections are no keys. What is not a number equals nothing. -/
def sameKey (a b : Datum) : Bool :=
  match a.number?, b.number? with
  | some (p, q), some (r, s) => p * s == r * q
  | _, _ =>
    match a, b with
    | null, null => true
    | real x, real y => x == y && x != .notANumber
    | text s, text t => s == t
    | bytes s, bytes t => s == t
    | moment s, moment t => s.sameAs t
    | _, _ => false

/-- The literal of a byte inside quotes. -/
def byteLiteral (quote : Char) (byte : UInt8) : Text :=
  let c := Char.ofNat byte.toNat
  if c = quote ∨ c = '\\' then ['\\', c]
  else if c = '\t' then ['\\', 't']
  else if c = '\n' then ['\\', 'n']
  else if c = '\r' then ['\\', 'r']
  else if 32 ≤ c.toNat ∧ c.toNat < 127 then [c]
  else '\\' :: 'x' :: Text.hexDigits 2 byte.toNat

/-- The literal of a whole number, unless it has too many digits to be written. -/
def integerLiteral (n : Int) : Text :=
  if Text.digitLimit < (Text.ofNat n.natAbs).length then "<unprintable int object>" else Text.ofInt n

/-- The literal of a datum that can be a key. -/
def keyLiteral : Datum → Text
  | null => "None"
  | bool value => if value then "True" else "False"
  | integer value => integerLiteral value
  | real value => value.text
  | text value => Text.quoted value
  | bytes value =>
    let quote := Text.quoteFor (value.map fun byte => Char.ofNat byte.toNat)
    'b' :: quote :: (value.flatMap (byteLiteral quote) ++ [quote])
  | moment value => value.literal
  | list _ | mapping _ => []

end Datum

end FormFill

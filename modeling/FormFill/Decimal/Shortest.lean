import FormFill.Decimal.Binary64
import FormFill.Text.Basic

/-!
# Shortest decimal text

A floating number is written with the fewest digits that read back as the same number, and among
those with the digits nearest to it. Numbers of moderate size are written positionally with at least
one digit after the point; the others have an exponent of at least two digits and a sign.
-/

namespace FormFill.Decimal

/-- The numbers that round to a given one, as multiples of a quarter of its last binary place: the
number itself, the lower and the upper end, and whether the ends belong. -/
structure RoundingInterval where
  value : Nat
  lower : Nat
  upper : Nat
  closed : Bool

/-- The interval of the finite number `mantissa * 2 ^ exponent`. -/
def roundingInterval (mantissa : Nat) (exponent : Int) : RoundingInterval :=
  let below := if mantissa = Nat.pow 2 52 ∧ Binary64.leastExponent < exponent then 1 else 2
  ⟨4 * mantissa, 4 * mantissa - below, 4 * mantissa + 2, mantissa % 2 = 0⟩

/-- The multiple of `10 ^ power` that reads back as the number and is nearest to it, if any does.
An exact tie goes to the even multiple. -/
def onGrid? (mantissa : Nat) (exponent power : Int) : Option Nat :=
  let interval := roundingInterval mantissa exponent
  -- All quantities are brought to the common unit of the quarter place and the grid.
  let binary := exponent - 2
  let left := Nat.pow 2 binary.toNat * Nat.pow 10 (-power).toNat
  let right := Nat.pow 2 (-binary).toNat * Nat.pow 10 power.toNat
  let value := interval.value * left
  let inside (candidate : Nat) : Bool :=
    let point := candidate * right
    if interval.closed then interval.lower * left ≤ point && point ≤ interval.upper * left
    else interval.lower * left < point && point < interval.upper * left
  let floor := value / right
  let remainder := value - floor * right
  let ceiling := floor + 1
  match inside floor && floor != 0, inside ceiling with
  | true, true =>
    if 2 * remainder < right then some floor
    else if right < 2 * remainder then some ceiling
    else some (if floor % 2 = 0 then floor else ceiling)
  | true, false => some floor
  | false, true => some ceiling
  | false, false => none

/-- Tries ever finer grids until one holds a number that reads back. -/
def firstOnGrid (mantissa : Nat) (exponent : Int) : (fuel : Nat) → (power : Int) → Nat × Int
  | 0, power => ((onGrid? mantissa exponent power).getD 0, power)
  | fuel + 1, power =>
    match onGrid? mantissa exponent power with
    | some digits => (digits, power)
    | none => firstOnGrid mantissa exponent fuel (power - 1)

/-- The digits and the power of ten of the shortest decimal of a positive finite number. -/
def shortest (mantissa : Nat) (exponent : Int) : Nat × Int :=
  -- The number is below this power of ten, and at most a few grids are too coarse.
  let top : Int := ((mantissa.log2 : Int) + exponent) * 30103 / 100000 + 1
  firstOnGrid mantissa exponent 20 top

/-- Digits without the zeros at their end. -/
def dropTrailingZeros (digits : Text) : Text :=
  (digits.reverse.dropWhile (· == '0')).reverse

/-- The text of `0.digits * 10 ^ point` for digits without zeros at either end. -/
def layout (digits : Text) (point : Int) : Text :=
  let count : Int := digits.length
  if point ≤ -4 ∨ 16 < point then
    let exponent := point - 1
    let magnitude := Text.ofNat exponent.natAbs
    let padded := if magnitude.length < 2 then '0' :: magnitude else magnitude
    let sign := if exponent < 0 then '-' else '+'
    let fraction := match digits.tail with
      | [] => []
      | rest => '.' :: rest
    digits.take 1 ++ fraction ++ 'e' :: sign :: padded
  else if point ≤ 0 then '0' :: '.' :: (List.replicate (-point).toNat '0' ++ digits)
  else if count ≤ point then digits ++ List.replicate (point - count).toNat '0' ++ ['.', '0']
  else digits.take point.toNat ++ '.' :: digits.drop point.toNat

/-- The text of a floating number. -/
def Binary64.text : Binary64 → Text
  | .notANumber => ['n', 'a', 'n']
  | .infinite negative => (if negative then ['-'] else []) ++ ['i', 'n', 'f']
  | .finite negative mantissa exponent =>
    let sign := if negative then ['-'] else []
    if mantissa = 0 then sign ++ ['0', '.', '0']
    else
      let (number, power) := shortest mantissa exponent
      let digits := Text.ofNat number
      sign ++ layout (dropTrailingZeros digits) (power + digits.length)

end FormFill.Decimal

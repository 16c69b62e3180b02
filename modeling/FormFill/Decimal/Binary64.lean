/-!
# Floating numbers

A floating number is a whole mantissa of at most 53 bits times a power of two, with infinities and
one value that is not a number. Decimal text denotes the nearest such number; of two equally near
ones, the one with the even mantissa.
-/

namespace FormFill.Decimal

/-- A floating number of double precision. A finite number is `mantissa * 2 ^ exponent`, where the
mantissa has 53 bits unless the exponent is the least one. -/
inductive Binary64 where
  | finite (negative : Bool) (mantissa : Nat) (exponent : Int)
  | infinite (negative : Bool)
  | notANumber
  deriving DecidableEq, Repr

namespace Binary64

/-- The least exponent of a finite number. -/
def leastExponent : Int := -1074

/-- The greatest exponent of a finite number. -/
def greatestExponent : Int := 971

/-- The quotient of two numbers rounded to the nearest whole number, a half to the even one. -/
def roundQuotient (numerator denominator : Nat) : Nat :=
  let quotient := numerator / denominator
  let twice := 2 * (numerator % denominator)
  if twice < denominator then quotient
  else if denominator < twice then quotient + 1
  else quotient + quotient % 2

/-- The nearest floating number to a positive fraction. -/
def ofFraction (negative : Bool) (numerator denominator : Nat) : Binary64 :=
  let scaled (exponent : Int) : Nat × Nat :=
    (numerator * Nat.pow 2 (-exponent).toNat, denominator * Nat.pow 2 exponent.toNat)
  let guess : Int := (numerator.log2 : Int) - denominator.log2 - 52
  let (top, bottom) := scaled guess
  let exponent := if top / bottom < Nat.pow 2 52 then guess - 1 else guess
  let exponent := max exponent leastExponent
  let (top, bottom) := scaled exponent
  let mantissa := roundQuotient top bottom
  let (mantissa, exponent) :=
    if mantissa = Nat.pow 2 53 then (Nat.pow 2 52, exponent + 1) else (mantissa, exponent)
  if greatestExponent < exponent then .infinite negative
  else .finite negative mantissa exponent

/-- The nearest floating number to `digits * 10 ^ power`. Powers far beyond the range are decided
without computing them. -/
def ofDecimal (negative : Bool) (digits : Nat) (power : Int) : Binary64 :=
  if digits = 0 then .finite negative 0 leastExponent
  else if 400 < power then .infinite negative
  else if power + digits.log2 + 1 < -400 then .finite negative 0 leastExponent
  else if 0 ≤ power then ofFraction negative (digits * Nat.pow 10 power.toNat) 1
  else ofFraction negative digits (Nat.pow 10 (-power).toNat)

/-- Zero. -/
def zero : Binary64 := .finite false 0 leastExponent

/-- The nearest floating number to a fraction. -/
def ofRational (numerator : Int) (denominator : Nat) : Binary64 :=
  if numerator = 0 then zero
  else ofFraction (decide (numerator < 0)) numerator.natAbs denominator

/-- The numerator and the denominator of a finite number. -/
def rational? : Binary64 → Option (Int × Nat)
  | .finite negative mantissa exponent =>
    let magnitude : Int := mantissa * Nat.pow 2 exponent.toNat
    some (if negative then -magnitude else magnitude, Nat.pow 2 (-exponent).toNat)
  | _ => none

/-- The number with the other sign. -/
def neg : Binary64 → Binary64
  | .finite negative mantissa exponent => .finite (!negative) mantissa exponent
  | .infinite negative => .infinite (!negative)
  | .notANumber => .notANumber

/-- The sum of two numbers, rounded to the nearest. Infinities with different signs have none. -/
def add (a b : Binary64) : Binary64 :=
  match a, b with
  | .notANumber, _ | _, .notANumber => .notANumber
  | .infinite s, .infinite t => if s = t then .infinite s else .notANumber
  | .infinite s, _ | _, .infinite s => .infinite s
  | a, b =>
    match a.rational?, b.rational? with
    | some (p, q), some (r, s) => ofRational (p * s + r * q) (q * s)
    | _, _ => .notANumber

/-- A number times a whole number that is not zero, which is rounded first. There is no product if the
whole number is too large for a floating number. -/
def timesNat? (a : Binary64) (n : Nat) : Option Binary64 :=
  match a, (ofRational n 1).rational? with
  | _, none => none
  | .finite negative mantissa exponent, some (r, s) =>
    ((Binary64.finite negative mantissa exponent).rational?).map fun (p, q) =>
      ofRational (p * r) (q * s)
  | a, _ => some a

/-- The whole number that a floating number equals, if there is one. -/
def toInt? : Binary64 → Option Int
  | .finite negative mantissa exponent =>
    let magnitude? : Option Nat :=
      if 0 ≤ exponent then some (mantissa * Nat.pow 2 exponent.toNat)
      else
        let unit := Nat.pow 2 (-exponent).toNat
        if mantissa % unit = 0 then some (mantissa / unit) else none
    magnitude?.map fun n => if negative then -(n : Int) else n
  | _ => none

end Binary64

end FormFill.Decimal

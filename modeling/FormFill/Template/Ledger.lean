import FormFill.Table

/-!
# Issued codes

Fields get distinct codes. The first field with a raw code keeps it; a later one gets the code with its
number appended, where numbers whose code has been issued already are passed over. The ledger also
keeps the marker key of each issued code, with the same suffix.
-/

namespace FormFill

/-- What has been issued so far. -/
structure Ledger where
  /-- The marker key of each issued code that has one. -/
  aliases : Table Text := []
  /-- The number last used for each raw code. -/
  counters : Table Nat := []
  issued : List Text := []
  deriving DecidableEq, Repr

namespace Ledger

/-- The suffix of the field with the given number. -/
def suffix (number : Nat) : Text := if number = 1 then [] else '_' :: Text.ofNat number

/-- The code of the field with the given number among those with one raw code. -/
def candidate (raw : Text) (number : Nat) : Text := raw ++ suffix number

/-- The first number from `number` on whose code is free, among as many numbers as the fuel says. -/
def firstFree (issued : List Text) (raw : Text) : (fuel number : Nat) → Nat
  | 0, number => number
  | fuel + 1, number =>
    if candidate raw number ∈ issued then firstFree issued raw fuel (number + 1) else number

/-- The number for the next field with a raw code: the first free one after the last used. -/
def nextNumber (ledger : Ledger) (raw : Text) : Nat :=
  firstFree ledger.issued raw ledger.issued.length ((ledger.counters.get? raw).getD 0 + 1)

/-- Issues a code for a raw code; the result is the number used and the ledger after it. -/
def issue (ledger : Ledger) (raw : Text) : Nat × Ledger :=
  let number := ledger.nextNumber raw
  (number, { ledger with
    counters := ledger.counters.set raw number
    issued := candidate raw number :: ledger.issued })

/-- Records the marker key of a code. -/
def record (ledger : Ledger) (code key : Text) : Ledger :=
  { ledger with aliases := ledger.aliases.set code key }

end Ledger

end FormFill

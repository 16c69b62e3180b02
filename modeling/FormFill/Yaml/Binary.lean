import FormFill.Text.Basic

/-!
# Bytes in text

Bytes are written with sixty-four letters, four for three bytes, and filled up with equals signs. Other
characters are passed over.
-/

namespace FormFill.Yaml.Binary

/-- The value of a letter. -/
def letterValue? (c : Char) : Option Nat :=
  if 'A' ≤ c ∧ c ≤ 'Z' then some (c.toNat - 65)
  else if 'a' ≤ c ∧ c ≤ 'z' then some (c.toNat - 71)
  else if '0' ≤ c ∧ c ≤ '9' then some (c.toNat + 4)
  else if c = '+' then some 62
  else if c = '/' then some 63
  else none

/-- Reads bytes; `done` holds those read so far, from the end, `place` is the number of letters of the
group that have been read, `left` their bits that are not in a byte yet, and `pads` the number of equals
signs after them. -/
def readFrom (done : List UInt8) (place left pads : Nat) : Text → Option (List UInt8)
  | [] => if place = 0 then some done.reverse else none
  | c :: rest =>
    if c = '=' then
      if 2 ≤ place then
        if 4 ≤ place + pads + 1 then some done.reverse else readFrom done place left (pads + 1) rest
      else readFrom done place left pads rest
    else
      match letterValue? c, place with
      | none, _ => readFrom done place left pads rest
      | some v, 0 => readFrom done 1 v 0 rest
      | some v, 1 => readFrom ((left * 4 + v / 16).toUInt8 :: done) 2 (v % 16) 0 rest
      | some v, 2 => readFrom ((left * 16 + v / 4).toUInt8 :: done) 3 (v % 4) 0 rest
      | some v, _ => readFrom ((left * 64 + v).toUInt8 :: done) 0 0 0 rest

/-- The bytes that a text stands for. -/
def read? (text : Text) : Option (List UInt8) :=
  if text.all (·.toNat < 128) then readFrom [] 0 0 0 text else none

end FormFill.Yaml.Binary

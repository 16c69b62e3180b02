import FormFill.Pattern.Escape
import FormFill.Text.Integer

/-!
# Repetition

A repetition sign, or bounds between braces, applies to the piece before it, which may not be repeated
already. A further sign says whether few or many rounds are preferred, and whether the choice is final.
-/

namespace FormFill.Pattern

open FormFill.Text

/-- The bound that repetition numbers must stay below. -/
def repetitionBound : Nat := Nat.pow 2 32 - 1

/-- The value of a repetition number. -/
def repetitionNumber (digits : Text) : Reading Nat := do
  if digitLimit < digits.length then throw (.tooManyDigits digits.length)
  let number := ofBase 10 digits
  if repetitionBound ≤ number then throw .repetitionTooLarge
  pure number

/-- Reads the bounds of a braced repetition after the opening brace; nothing is taken and there is
no result if the text is no repetition. -/
def bounds? : Reading (Option (Nat × Option Nat)) := do
  let saved ← get
  if (← peek?) == some (.plain '\x7d') then return none
  let low ← takeWhile Char.isDigit saved.rest.length
  let comma ← accept ','
  let high ← if comma then takeWhile Char.isDigit saved.rest.length else pure low
  unless ← accept '\x7d' do
    set saved
    return none
  let _ ← peek?
  let least ← if low.isEmpty then pure 0 else repetitionNumber low
  if high.isEmpty then return some (least, none)
  let most ← repetitionNumber high
  if most < least then breach .reversedBounds
  return some (least, some most)

/-- Reads the mark behind a repetition that says which number of rounds it prefers. -/
def repetitionPreference : Reading Preference := do
  if ← accept '?' then return .fewest
  if ← accept '+' then return .onlyMost
  return .most

/-- Applies a repetition to the last piece of a sequence, whose pieces are given from the end. -/
def repeatLast (least : Nat) (most : Option Nat) (pieces : List Piece) : Reading (List Piece) := do
  match pieces with
  | [] => breach .nothingToRepeat
  | piece :: before =>
    match piece.kind with
    | .anchor => breach .nothingToRepeat
    | .repetition => breach .multipleRepeat
    | .simple =>
      let preference ← repetitionPreference
      modify fun state => { state with repeats := true }
      pure (⟨.repetition, [.repeated least most preference (.ofItems piece.items)]⟩ :: before)

end FormFill.Pattern

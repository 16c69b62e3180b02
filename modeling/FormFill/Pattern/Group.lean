import FormFill.Pattern.Reading
import FormFill.Text.Identifier
import FormFill.Text.Integer

/-!
# Groups

Groups have numbers in the order of their opening, and may have names. The opening of a group may turn
options on and off, and a condition names the group it asks about.
-/

namespace FormFill.Pattern

open FormFill.Text

/-- The option that an option letter turns on; one letter is known but never allowed. -/
def optionLetter (token : Option Token) : Reading Char := do
  match token with
  | some (.plain c) =>
    if c == 'L' then breach .badOption
    if ((({} : Options).turnOn? c)).isNone then breach .badOption
    pure c
  | _ => breach .badOption

/-- Reads the options turned on at the start of a group, and the sign that ends them. -/
def addedOptions : Nat → Options → Char → Reading (Options × Char)
  | 0, _, _ => breach .badOption
  | fuel + 1, added, c => do
    let some added := added.turnOn? c | breach .badOption
    if added.ascii && added.unicode then breach .badOption
    match ← take? with
    | some (.plain ')') => pure (added, ')')
    | some (.plain '-') => pure (added, '-')
    | some (.plain ':') => pure (added, ':')
    | token => addedOptions fuel added (← optionLetter token)

/-- Reads the options turned off at the start of a group, up to the colon. -/
def removedOptions : Nat → Options → Char → Reading Options
  | 0, _, _ => breach .badOption
  | fuel + 1, removed, c => do
    if c == 'a' || c == 'u' then breach .badOption
    let some removed := removed.turnOn? c | breach .badOption
    match ← take? with
    | some (.plain ':') => pure removed
    | token => removedOptions fuel removed (← optionLetter token)

/-- Reads the options of a group: for the whole pattern, or turned on and off in the group. -/
def groupOptions (c : Char) : Reading (Options ⊕ (Options × Options)) := do
  let fuel := (← get).rest.length + 1
  let (added, stop) ←
    if c == '-' then pure (({} : Options), '-')
    else addedOptions fuel {} (← optionLetter (some (.plain c)))
  if stop == ')' then return .inl added
  if added.template then breach .badOption
  let removed ←
    if stop == '-' then removedOptions fuel {} (← optionLetter (← take?))
    else pure {}
  if removed.template || added.overlap removed then breach .badOption
  return .inr (added, removed)

/-- Opens a group and gives its number. -/
def openGroup (name : Option Text) : Reading Nat := do
  let state ← get
  let number := state.widths.size + 1
  let names ← match name with
    | none => pure state.names
    | some name =>
      if state.names.any (·.1 == name) then breach .repeatedName
      pure ((name, number) :: state.names)
  set { state with widths := state.widths.push none, names }
  pure number

/-- Closes a group. -/
def closeGroup (number : Nat) (body : Node) : Reading Unit :=
  modify fun state =>
    { state with widths := state.widths.set! (number - 1) (some (body.width state.groupWidth)) }

/-- The number of the group that a condition names. -/
def conditionGroup (name : Text) : Reading Nat := do
  if isIdentifier name then
    match (← get).names.lookup name with
    | some number => pure number
    | none => breach .unknownName
  else
    match readInteger name with
    | .error _ => breach .badName
    | .ok number =>
      if number < 0 then breach .badName
      if number == 0 then breach .badGroupNumber
      if Nat.pow 2 30 - 1 ≤ number then breach .invalidReference
      modify fun state => { state with conditions := number.toNat :: state.conditions }
      pure number.toNat

end FormFill.Pattern

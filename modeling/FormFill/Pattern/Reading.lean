import FormFill.Pattern.Fault
import FormFill.Pattern.Options
import FormFill.Pattern.Token

/-!
# Steps of reading

A pattern is read in steps that take tokens off its front. A step may stop at a breach of the rules, and
it leaves behind what later steps have to know: the names and the widths of the groups, and the options
of the whole pattern.
-/

namespace FormFill.Pattern

/-- What the reader knows at a place of the pattern. -/
structure ReaderState where
  rest : List Token
  /-- The options of the whole pattern. -/
  options : Options := {}
  names : List (Text × Nat) := []
  /-- The width of each group from number one on, once it is closed. -/
  widths : Array (Option Width) := #[]
  /-- Inside a look-behind, the number of the first group opened in it. -/
  lookBehindStart : Option Nat := none
  /-- Group numbers that conditions have named. -/
  conditions : List Nat := []
  /-- Whether some piece is repeated. -/
  repeats : Bool := false
  /-- A breach that counts only if the rest of the pattern can be read. -/
  deferred : Option Breach := none

/-- Whether a group with this number is closed. -/
def ReaderState.isClosed (state : ReaderState) (number : Nat) : Bool :=
  number != 0 && (state.widths[number - 1]?).join.isSome

/-- The width of a closed group. -/
def ReaderState.groupWidth (state : ReaderState) (number : Nat) : Width :=
  ((state.widths[number - 1]?).join).getD ⟨0, 0⟩

/-- A step of reading, which may find a fault. -/
abbrev Reading := StateT ReaderState (Except Fault)

/-- Stops at a breach of the rules. -/
def breach {α : Type} (reason : Breach) : Reading α := throw (.malformed reason)

/-- The next token, if any. -/
def peek? : Reading (Option Token) := do
  match (← get).rest with
  | [] => pure none
  | .dangling :: _ => breach .danglingEscape
  | token :: _ => pure (some token)

/-- Takes the next token, if any. -/
def take? : Reading (Option Token) := do
  let token ← peek?
  modify fun state => { state with rest := state.rest.tail }
  pure token

/-- Takes the next token if it is the given character. -/
def accept (c : Char) : Reading Bool := do
  if (← peek?) == some (.plain c) then
    let _ ← take?
    pure true
  else pure false

/-- Takes up to `limit` characters that satisfy `p`. -/
def takeWhile (p : Char → Bool) : Nat → Reading Text
  | 0 => pure []
  | limit + 1 => do
    match ← peek? with
    | some (.plain c) =>
      if p c then
        let _ ← take?
        pure (c :: (← takeWhile p limit))
      else pure []
    | _ => pure []

/-- Takes everything up to the terminator, which is taken too, as a name. -/
def takeName (terminator : Char) : Reading Text := do
  let tokens := (← get).rest
  let name := tokens.takeWhile (· != .plain terminator)
  match tokens.drop name.length with
  | [] => breach .missingName
  | _ :: rest =>
    if name.isEmpty then breach .missingName
    modify fun state => { state with rest }
    pure (name.flatMap Token.chars)

end FormFill.Pattern

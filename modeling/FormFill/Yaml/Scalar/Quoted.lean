import FormFill.Json.Reader
import FormFill.Yaml.Cursor
import FormFill.Yaml.Fault

/-!
# Quoted scalars

Between single quotes only the quote itself is special, and is written twice. Between double quotes a
backslash begins an escape. A line end inside quotes becomes a space, and further line ends stay; the
blanks around them go.
-/

namespace FormFill.Yaml.Quoted

/-- The character that a one-letter escape names. -/
def shortEscape? : Char → Option Char
  | '0' => some '\x00'
  | 'a' => some '\x07'
  | 'b' => some '\x08'
  | 't' | '\t' => some '\t'
  | 'n' => some '\n'
  | 'v' => some '\x0b'
  | 'f' => some '\x0c'
  | 'r' => some '\r'
  | 'e' => some '\x1b'
  | ' ' => some ' '
  | '"' => some '"'
  | '\\' => some '\\'
  | '/' => some '/'
  | 'N' => some '\x85'
  | '_' => some '\xa0'
  | 'L' => some '\u2028'
  | 'P' => some '\u2029'
  | _ => none

/-- The number of hexadecimal digits after the letter of a numeric escape. -/
def escapeLength? : Char → Option Nat
  | 'x' => some 2
  | 'u' => some 4
  | 'U' => some 8
  | _ => none

/-- The number that hexadecimal digits denote. -/
def hexNumber? (digits : Text) : Option Nat :=
  digits.foldl (fun value? c => do pure ((← value?) * 16 + (← Json.hexValue? c))) (some 0)

/-- The greatest number that an escape may have without being beyond all limits. -/
def greatestEscape : Nat := 0x7FFFFFFF

/-- The character of an escaped number. -/
def charOfNumber (number : Nat) : Except Fault Char :=
  if greatestEscape < number then .error .escapeTooLarge
  else if 0x10FFFF < number then .error .noSuchCharacter
  else .ok (Json.charOfCode number)

/-- Takes the line ends at a place and the blanks around them; `fuel` bounds the number of lines. -/
def takeBreaks : (fuel : Nat) → (done : Text) → Cursor → Except Fault (Text × Cursor)
  | 0, done, cursor => .ok (done, cursor)
  | fuel + 1, done, cursor =>
    if cursor.atSeparator then .error .malformed
    else
      let cursor := cursor.skip isGap
      if isBreak cursor.head then
        let (lineEnd, cursor) := cursor.takeBreak
        takeBreaks fuel (done ++ lineEnd) cursor
      else .ok (done, cursor)

/-- Takes the line ends at a place, with as much fuel as there is text. -/
def breaks (cursor : Cursor) : Except Fault (Text × Cursor) :=
  takeBreaks (cursor.rest.length + 1) [] cursor

/-- Reads the escape after a backslash. -/
def escape (cursor : Cursor) : Except Fault (Text × Cursor) :=
  match shortEscape? cursor.head, escapeLength? cursor.head with
  | some c, _ => .ok ([c], cursor.next)
  | none, some length =>
    let digits := cursor.next.rest.take length
    match hexNumber? digits with
    | some number =>
      if digits.length = length then do
        pure ([← charOfNumber number], cursor.forward (length + 1))
      else .error .malformed
    | none => .error .malformed
  | none, none =>
    if isBreak cursor.head then breaks cursor.takeBreak.2 else .error .malformed

/-- Whether a character stands for itself inside quotes wherever it is. -/
def isOrdinary (c : Char) : Bool := !(isGapOrEnd c || c == '\'' || c == '"' || c == '\\')

/-- Reads up to a gap or the closing quote; `done` holds what was read before. -/
def solid (double : Bool) : (fuel : Nat) → (done : Text) → Cursor → Except Fault (Text × Cursor)
  | 0, done, cursor => .ok (done, cursor)
  | fuel + 1, done, cursor =>
    let (taken, cursor) := cursor.span isOrdinary
    let done := done ++ taken
    match double, cursor.head with
    | false, '\'' =>
      if cursor.peek 1 == '\'' then solid double fuel (done ++ ['\'']) (cursor.forward 2)
      else .ok (done, cursor)
    | false, '"' => solid double fuel (done ++ ['"']) cursor.next
    | false, '\\' => solid double fuel (done ++ ['\\']) cursor.next
    | true, '\'' => solid double fuel (done ++ ['\'']) cursor.next
    | true, '\\' => do
      let (escaped, cursor) ← escape cursor.next
      solid double fuel (done ++ escaped) cursor
    | _, _ => .ok (done, cursor)

/-- Reads a gap. -/
def gap (cursor : Cursor) : Except Fault (Text × Cursor) := do
  let (blanks, cursor) := cursor.span isGap
  if cursor.rest.isEmpty then throw .malformed
  if isBreak cursor.head then
    let (lineEnd, cursor) := cursor.takeBreak
    let (more, cursor) ← breaks cursor
    let fold : Text := if lineEnd != ['\n'] then lineEnd else if more.isEmpty then [' '] else []
    pure (fold ++ more, cursor)
  else pure (blanks, cursor)

/-- Reads gaps and what is between them up to the closing quote. -/
def parts (double : Bool) : (fuel : Nat) → (done : Text) → Cursor → Except Fault (Text × Cursor)
  | 0, _, _ => .error .malformed
  | fuel + 1, done, cursor =>
    if cursor.head == (if double then '"' else '\'') then .ok (done, cursor.next)
    else do
      let (blank, cursor) ← gap cursor
      let (text, cursor) ← solid double (cursor.rest.length + 1) [] cursor
      parts double fuel (done ++ blank ++ text) cursor

/-- Reads the scalar whose opening quote is at the place. -/
def read (double : Bool) (cursor : Cursor) : Except Fault (Text × Cursor) := do
  let (text, inside) ← solid double (cursor.rest.length + 1) [] cursor.next
  parts double (inside.rest.length + 2) text inside

end FormFill.Yaml.Quoted

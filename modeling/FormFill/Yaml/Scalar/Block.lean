import FormFill.Yaml.Cursor
import FormFill.Yaml.Fault

/-!
# Block scalars

A block scalar is what stands on the lines after its header that are indented at least as far as its
first line. A literal one keeps the line ends; a folded one replaces each line end between two lines
that do not begin with a gap by a space. The header says which line ends at the end are kept.
-/

namespace FormFill.Yaml.Block

/-- What becomes of the line ends at the end: one is kept, none, or all. -/
inductive Chomping where
  | clip
  | strip
  | keep
  deriving DecidableEq, Repr

/-- The header of a block scalar: what becomes of the last line ends, and the indentation, if it is
given. -/
structure Header where
  chomping : Chomping := .clip
  increment : Option Nat := none
  deriving DecidableEq, Repr

/-- The chomping that an indicator stands for. -/
def chomping? : Char → Option Chomping
  | '+' => some .keep
  | '-' => some .strip
  | _ => none

/-- Reads an indentation indicator, which must not be zero. -/
def increment (cursor : Cursor) : Except Fault (Option Nat × Cursor) :=
  if cursor.head.isDigit then
    if cursor.head == '0' then .error .malformed
    else .ok (some (cursor.head.toNat - 48), cursor.next)
  else .ok (none, cursor)

/-- Reads the indicators of a header, in either order. -/
def indicators (cursor : Cursor) : Except Fault (Header × Cursor) := do
  let (header, cursor) ← match chomping? cursor.head with
    | some chomping => do
      let (increment, cursor) ← increment cursor.next
      pure (({ chomping, increment } : Header), cursor)
    | none => do
      match ← increment cursor with
      | (some n, cursor) =>
        match chomping? cursor.head with
        | some chomping => pure (({ chomping, increment := some n } : Header), cursor.next)
        | none => pure (({ increment := some n } : Header), cursor)
      | (none, cursor) => pure (({} : Header), cursor)
  if isSpaceOrEnd cursor.head then pure (header, cursor) else throw .malformed

/-- Takes the spaces, the comment and the line end after a header or a directive. -/
def restOfLine (cursor : Cursor) : Except Fault Cursor :=
  let cursor := (cursor.skip (· == ' ')).skipComment
  if isBreakOrEnd cursor.head then .ok cursor.takeBreak.2 else .error .malformed

/-- Takes the empty lines at a place and the spaces of the first other line: the line ends, the
greatest column of a space, and the place. -/
def leadingBreaks : (fuel : Nat) → (done : Text) → (widest : Nat) → Cursor → Text × Nat × Cursor
  | 0, done, widest, cursor => (done, widest, cursor)
  | fuel + 1, done, widest, cursor =>
    if cursor.head == ' ' then
      let cursor := cursor.next
      leadingBreaks fuel done (max widest cursor.column) cursor
    else if isBreak cursor.head then
      let (lineEnd, cursor) := cursor.takeBreak
      leadingBreaks fuel (done ++ lineEnd) widest cursor
    else (done, widest, cursor)

/-- Takes spaces up to a column. -/
def skipIndent (indent : Nat) (cursor : Cursor) : Cursor :=
  let spaces := (cursor.rest.takeWhile (· == ' ')).length
  cursor.forward (min spaces (indent - cursor.column))

/-- Takes empty lines, and the indentation of the line after them. -/
def emptyLines (indent : Nat) : (fuel : Nat) → (done : Text) → Cursor → Text × Cursor
  | 0, done, cursor => (done, cursor)
  | fuel + 1, done, cursor =>
    let cursor := skipIndent indent cursor
    if isBreak cursor.head then
      let (lineEnd, cursor) := cursor.takeBreak
      emptyLines indent fuel (done ++ lineEnd) cursor
    else (done, cursor)

/-- Reads the lines of a block scalar; `done` is what was read before, `breaks` the line ends of the
empty lines before the place. -/
def lines (folded : Bool) (chomping : Chomping) (indent : Nat) :
    (fuel : Nat) → (done breaks : Text) → Cursor → Text × Cursor
  | 0, done, _, cursor => (done, cursor)
  | fuel + 1, done, breaks, cursor =>
    let leadingGap := isGap cursor.head
    let (line, cursor) := cursor.span (!isBreak ·)
    let (lineEnd, cursor) := cursor.takeBreak
    let done := done ++ breaks ++ line
    let (breaks, cursor) := emptyLines indent (cursor.rest.length + 1) [] cursor
    if cursor.column = indent ∧ ¬cursor.rest.isEmpty then
      let fold := folded && lineEnd == ['\n'] && !leadingGap && !isGap cursor.head
      let joint : Text := if fold then (if breaks.isEmpty then [' '] else []) else lineEnd
      lines folded chomping indent fuel (done ++ joint) breaks cursor
    else
      match chomping with
      | .clip => (done ++ lineEnd, cursor)
      | .strip => (done, cursor)
      | .keep => (done ++ lineEnd ++ breaks, cursor)

/-- Reads the block scalar whose indicator is at the place, in a collection with the given
indentation. -/
def read (folded : Bool) (parent : Int) (cursor : Cursor) : Except Fault (Text × Cursor) := do
  let (header, cursor) ← indicators cursor.next
  let cursor ← restOfLine cursor
  let least := max 1 (parent + 1).toNat
  let fuel := cursor.rest.length + 1
  let (indent, breaks, cursor) := match header.increment with
    | none =>
      let (breaks, widest, cursor) := leadingBreaks fuel [] 0 cursor
      (max least widest, breaks, cursor)
    | some n =>
      let indent := least + n - 1
      let (breaks, cursor) := emptyLines indent fuel [] cursor
      (indent, breaks, cursor)
  if cursor.column = indent ∧ ¬cursor.rest.isEmpty then
    pure (lines folded header.chomping indent fuel [] breaks cursor)
  else
    pure (if header.chomping = .keep then breaks else [], cursor)

end FormFill.Yaml.Block

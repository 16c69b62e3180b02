import FormFill.Yaml.Cursor

/-!
# Plain scalars

A plain scalar has no quotes. It ends before a comment, before a colon that is followed by a gap,
before an indicator of the flow collection it stands in, or where the indentation ends. Line ends
inside it are folded as they are inside quotes.
-/

namespace FormFill.Yaml.Plain

/-- A character that ends a key or a value inside a flow collection. -/
def isFlowIndicator (c : Char) : Bool :=
  c == ',' || c == '[' || c == ']' || c == '\x7b' || c == '\x7d'

/-- Whether a plain scalar ends before a character that another one follows. -/
def endsBefore (flow : Bool) (c following : Char) : Bool :=
  isGapOrEnd c ||
  (c == ':' && (isGapOrEnd following || (flow && isFlowIndicator following))) ||
  (flow && (c == '?' || isFlowIndicator c))

/-- The number of characters up to the end of a piece of a plain scalar. -/
def pieceLength (flow : Bool) : Text → Nat
  | [] => 0
  | c :: rest => if endsBefore flow c (rest.head?.getD '\x00') then 0 else pieceLength flow rest + 1

/-- Takes further line ends and the spaces around them, up to a line that separates documents, before
which there is nothing. -/
def takeBreaks : (fuel : Nat) → (done : Text) → Cursor → Option Text × Cursor
  | 0, done, cursor => (some done, cursor)
  | fuel + 1, done, cursor =>
    if cursor.head == ' ' then takeBreaks fuel done cursor.next
    else if isBreak cursor.head then
      let (lineEnd, cursor) := cursor.takeBreak
      if cursor.atSeparator then (none, cursor) else takeBreaks fuel (done ++ lineEnd) cursor
    else (some done, cursor)

/-- What stands between two pieces: its text, which is empty at the end of the scalar, whether it holds
a line end, and the place after it. -/
structure Between where
  text : Text
  crossesLine : Bool
  cursor : Cursor

/-- Reads what stands between two pieces. -/
def between (cursor : Cursor) : Between :=
  let (blanks, cursor) := cursor.span (· == ' ')
  if isBreak cursor.head then
    let (lineEnd, cursor) := cursor.takeBreak
    if cursor.atSeparator then ⟨[], true, cursor⟩
    else
      match takeBreaks (cursor.rest.length + 1) [] cursor with
      | (none, cursor) => ⟨[], true, cursor⟩
      | (some more, cursor) =>
        let fold : Text :=
          if lineEnd != ['\n'] then lineEnd else if more.isEmpty then [' '] else []
        ⟨fold ++ more, true, cursor⟩
  else ⟨blanks, false, cursor⟩

/-- A plain scalar that has been read: its text, whether a line end follows it, and the place after
what follows it. -/
structure Result where
  text : Text
  endsLine : Bool
  cursor : Cursor

/-- Reads the pieces of a plain scalar; `done` is what was read before, and `pending` what stands
between it and the next piece. -/
def pieces (flow : Bool) (indent : Int) : (fuel : Nat) → (done : Text) → (pending : Between) → Result
  | 0, done, pending => ⟨done, pending.crossesLine, pending.cursor⟩
  | fuel + 1, done, pending =>
    let here := pending.cursor
    let length := if here.head == '#' then 0 else pieceLength flow here.rest
    if length = 0 then ⟨done, pending.crossesLine, here⟩
    else
      let done := done ++ pending.text ++ here.rest.take length
      let following := between (here.forward length)
      if following.text.isEmpty || following.cursor.head == '#' ||
          (!flow && decide ((following.cursor.column : Int) < indent)) then
        ⟨done, following.crossesLine, following.cursor⟩
      else pieces flow indent fuel done following

/-- Reads the plain scalar at the place, in a collection with the given indentation. -/
def read (flow : Bool) (indent : Int) (cursor : Cursor) : Result :=
  pieces flow (indent + 1) (cursor.rest.length + 1) [] ⟨[], false, cursor⟩

end FormFill.Yaml.Plain

import FormFill.Text.Basic

/-!
# Cursors

A cursor is a place in a document: the text from there on, and the index, the line and the column of
the place. After the end of the text every character reads as the null character, which no document
holds.
-/

namespace FormFill.Yaml

/-- A place in a document. -/
structure Cursor where
  rest : Text
  index : Nat := 0
  line : Nat := 0
  column : Nat := 0
  deriving Repr

/-- Whether a character ends a line. -/
def isBreak (c : Char) : Bool :=
  c == '\n' || c == '\r' || c == '\x85' || c == '\u2028' || c == '\u2029'

/-- Whether a character ends a line or the document. -/
def isBreakOrEnd (c : Char) : Bool := c == '\x00' || isBreak c

/-- Whether a character is a space, ends a line or ends the document. -/
def isSpaceOrEnd (c : Char) : Bool := c == ' ' || isBreakOrEnd c

/-- Whether a character is a space or a tab, ends a line or ends the document. -/
def isGapOrEnd (c : Char) : Bool := c == '\t' || isSpaceOrEnd c

/-- Whether a character is a space or a tab. -/
def isGap (c : Char) : Bool := c == ' ' || c == '\t'

/-- Whether a character may stand in a name: a letter or a digit of ASCII, a hyphen or a line below. -/
def isNameLetter (c : Char) : Bool := c.isAlphanum || c == '-' || c == '_'

namespace Cursor

/-- The character at a distance from the place. -/
def peek (cursor : Cursor) (distance : Nat) : Char := (cursor.rest[distance]?).getD '\x00'

/-- The character at the place. -/
def head (cursor : Cursor) : Char := cursor.rest.head?.getD '\x00'

/-- The place after the next character. A byte order mark takes no column. -/
def next (cursor : Cursor) : Cursor :=
  match cursor.rest with
  | [] => cursor
  | c :: rest =>
    let inside := c == '\r' && rest.head? == some '\n'
    if isBreak c && !inside then ⟨rest, cursor.index + 1, cursor.line + 1, 0⟩
    else if c == '\uFEFF' then { cursor with rest, index := cursor.index + 1 }
    else { cursor with rest, index := cursor.index + 1, column := cursor.column + 1 }

/-- The place some characters further on. -/
def forward : (count : Nat) → Cursor → Cursor
  | 0, cursor => cursor
  | count + 1, cursor => forward count cursor.next

/-- Splits off the characters that pass a test. -/
def span (test : Char → Bool) (cursor : Cursor) : Text × Cursor :=
  let taken := cursor.rest.takeWhile test
  (taken, cursor.forward taken.length)

/-- The place after the characters that pass a test. -/
def skip (test : Char → Bool) (cursor : Cursor) : Cursor := (cursor.span test).2

/-- The place at the end of the line. -/
def skipLine (cursor : Cursor) : Cursor := cursor.skip (!isBreak ·)

/-- The place after the comment that begins at the place, if one does. -/
def skipComment (cursor : Cursor) : Cursor := if cursor.head == '#' then cursor.skipLine else cursor

/-- Takes the end of a line, if one is here. All ends of lines count as line feeds, except the line
and paragraph separators, which stay. -/
def takeBreak (cursor : Cursor) : Text × Cursor :=
  match cursor.rest with
  | '\r' :: '\n' :: _ => (['\n'], cursor.forward 2)
  | c :: _ =>
    if c == '\u2028' || c == '\u2029' then ([c], cursor.next)
    else if isBreak c then (['\n'], cursor.next)
    else ([], cursor)
  | [] => ([], cursor)

/-- Whether a line here, in the first column, separates documents. -/
def atSeparator (cursor : Cursor) : Bool :=
  (cursor.rest.take 3 == "---".toList || cursor.rest.take 3 == "...".toList) &&
    isGapOrEnd (cursor.peek 3)

end Cursor

end FormFill.Yaml

import FormFill.Text.Utf8
import FormFill.Yaml.Scalar.Block
import FormFill.Yaml.Scalar.Quoted
import FormFill.Yaml.Token

/-!
# Directives, anchors and tags

What may stand before a document or a node: directives, the anchor that names a node, the alias that
repeats it, and the tag that gives its kind.
-/

namespace FormFill.Yaml.Property

/-- Whether a character may stand in a tag. -/
def isTagLetter (c : Char) : Bool :=
  c.isAlphanum || "-;/?:@&=+$,_.!~*'()[]%".toList.contains c

/-- Reads the bytes that percent signs escape. -/
def escapedBytes : (fuel : Nat) → (done : List UInt8) → Cursor → Except Fault (List UInt8 × Cursor)
  | 0, done, cursor => .ok (done, cursor)
  | fuel + 1, done, cursor =>
    if cursor.head == '%' then
      match Json.hexValue? (cursor.peek 1), Json.hexValue? (cursor.peek 2) with
      | some high, some low =>
        escapedBytes fuel (done ++ [(high * 16 + low).toUInt8]) (cursor.forward 3)
      | _, _ => .error .malformed
    else .ok (done, cursor)

/-- Reads the text of a tag; `done` is what was read before, if anything was. -/
def uriParts : (fuel : Nat) → (done : Option Text) → Cursor → Except Fault (Text × Cursor)
  | 0, _, _ => .error .malformed
  | fuel + 1, done, cursor =>
    if cursor.head == '%' then do
      let (bytes, cursor) ← escapedBytes (cursor.rest.length + 1) [] cursor
      match Utf8.decode bytes with
      | .ok text => uriParts fuel (some (done.getD [] ++ text)) cursor
      | .error _ => throw .malformed
    else if isTagLetter cursor.head then
      let (taken, cursor) := cursor.span fun c => isTagLetter c && c != '%'
      uriParts fuel (some (done.getD [] ++ taken)) cursor
    else
      match done with
      | some text => .ok (text, cursor)
      | none => .error .malformed

/-- Reads the text of a tag, which must not be missing. -/
def uri (cursor : Cursor) : Except Fault (Text × Cursor) :=
  uriParts (cursor.rest.length + 1) none cursor

/-- Reads a handle: one exclamation mark, or a name between two of them. -/
def handle (cursor : Cursor) : Except Fault (Text × Cursor) :=
  if cursor.head != '!' then .error .malformed
  else if cursor.peek 1 == ' ' then .ok (['!'], cursor.next)
  else
    let (name, after) := cursor.next.span isNameLetter
    if after.head == '!' then .ok ('!' :: (name ++ ['!']), after.next) else .error .malformed

/-- Reads the tag at the place. -/
def tag (cursor : Cursor) : Except Fault (WrittenTag × Cursor) := do
  let (written, cursor) ←
    if cursor.peek 1 == '<' then do
      let (suffix, cursor) ← uri (cursor.forward 2)
      if cursor.head != '>' then throw .malformed
      pure ((⟨none, suffix⟩ : WrittenTag), cursor.next)
    else if isGapOrEnd (cursor.peek 1) then
      pure ((⟨none, ['!']⟩ : WrittenTag), cursor.next)
    else do
      let word := cursor.next.rest.takeWhile (!isSpaceOrEnd ·)
      let (handle, cursor) ←
        if word.contains '!' then handle cursor else pure (['!'], cursor.next)
      let (suffix, cursor) ← uri cursor
      pure ((⟨some handle, suffix⟩ : WrittenTag), cursor)
  if isSpaceOrEnd cursor.head then pure (written, cursor) else throw .malformed

/-- Reads the name of an anchor or an alias after its indicator. -/
def anchorName (cursor : Cursor) : Except Fault (Text × Cursor) :=
  let (name, after) := cursor.span isNameLetter
  if name.isEmpty then .error .malformed
  else if isGapOrEnd after.head || "?:,]%@`\x7d".toList.contains after.head then .ok (name, after)
  else .error .malformed

/-- Reads a number of a version. -/
def versionNumber (cursor : Cursor) : Except Fault (Nat × Cursor) :=
  let (digits, after) := cursor.span Char.isDigit
  if digits.isEmpty then .error .malformed
  else if Text.digitLimit < digits.length then .error (.tooManyDigits digits.length)
  else .ok (Json.digitsValue digits, after)

/-- Reads the numbers of a version. -/
def version (cursor : Cursor) : Except Fault (Directive × Cursor) := do
  let (major, cursor) ← versionNumber (cursor.skip (· == ' '))
  if cursor.head != '.' then throw .malformed
  let (_, cursor) ← versionNumber cursor.next
  if isSpaceOrEnd cursor.head then pure (.version major, cursor) else throw .malformed

/-- Reads a handle and what it stands for. -/
def handleDirective (cursor : Cursor) : Except Fault (Directive × Cursor) := do
  let (handle, cursor) ← handle (cursor.skip (· == ' '))
  if cursor.head != ' ' then throw .malformed
  let (beginning, cursor) ← uri (cursor.skip (· == ' '))
  if isSpaceOrEnd cursor.head then pure (.handle handle beginning, cursor) else throw .malformed

/-- Reads the directive at the place, up to the end of its line. -/
def directive (cursor : Cursor) : Except Fault (Directive × Cursor) := do
  let (name, cursor) := cursor.next.span isNameLetter
  if name.isEmpty then throw .malformed
  if !isSpaceOrEnd cursor.head then throw .malformed
  let (directive, cursor) ←
    if name = "YAML".toList then version cursor
    else if name = "TAG".toList then handleDirective cursor
    else pure (.other, cursor.skipLine)
  pure (directive, ← Block.restOfLine cursor)

end FormFill.Yaml.Property

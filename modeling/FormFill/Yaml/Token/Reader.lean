import FormFill.Yaml.Scalar.Plain
import FormFill.Yaml.Token.Property

/-!
# Reading tokens

Tokens are read off a document one after the other. Whether a token is a key shows only at the colon
after it, so each token stays open for being declared a key; and a block collection starts and ends
where the indentation says so. Inside flow collections, which brackets surround, indentation means
nothing.
-/

namespace FormFill.Yaml

/-- A token, with what has been found out about it later: whether it begins a key, and whether that key
is the first of a block mapping. -/
structure Slot where
  token : Token
  isKey : Bool := false
  opensMapping : Bool := false

namespace Slot

/-- The tokens that a slot stands for. -/
def tokens (slot : Slot) : List Token :=
  (if slot.opensMapping then [.blockMappingStart] else []) ++
    (if slot.isKey then [.key] else []) ++ [slot.token]

end Slot

/-- A token that may turn out to begin a key: its slot, where it begins, and whether it has to be a key
because of its indentation. -/
structure KeyCandidate where
  slot : Nat
  required : Bool
  index : Nat
  line : Nat
  column : Nat

/-- How far the reading of tokens has come. -/
structure TokenState where
  cursor : Cursor
  slots : Array Slot := #[]
  /-- The number of flow collections around the place. -/
  flowLevel : Nat := 0
  /-- The indentation of the innermost block collection, or -1 outside all of them. -/
  indent : Int := -1
  /-- The indentations around it, from the inside out. -/
  indents : List Int := []
  /-- Whether a key may begin here. -/
  keyAllowed : Bool := true
  /-- The token that may begin a key, for each flow level that has one. -/
  candidates : List (Nat × KeyCandidate) := []

namespace TokenState

/-- The greatest number of characters in a key that is not marked as one. -/
def keyLimit : Nat := 1024

/-- Adds a token. -/
def push (state : TokenState) (token : Token) : TokenState :=
  { state with slots := state.slots.push { token } }

/-- Moves to a place. -/
def moveTo (state : TokenState) (cursor : Cursor) : TokenState := { state with cursor }

/-- Whether the place is inside a flow collection. -/
def inFlow (state : TokenState) : Bool := state.flowLevel != 0

/-- Takes blanks, comments and line ends up to the next token. After a line end in a block collection a
key may begin. -/
def skipBlanks : (fuel : Nat) → TokenState → TokenState
  | 0, state => state
  | fuel + 1, state =>
    let cursor := (state.cursor.skip (· == ' ')).skipComment
    if isBreak cursor.head then
      skipBlanks fuel { state with
        cursor := cursor.takeBreak.2
        keyAllowed := state.keyAllowed || !state.inFlow }
    else state.moveTo cursor

/-- Takes what stands before the next token, and the byte order mark at the start. -/
def toNextToken (state : TokenState) : TokenState :=
  let start :=
    if state.cursor.index = 0 ∧ state.cursor.head = '\uFEFF' then state.moveTo state.cursor.next
    else state
  skipBlanks (start.cursor.rest.length + 1) start

/-- Whether a token can no longer begin a key: a key lies within one line and has a limited length. -/
def isStale (cursor : Cursor) (candidate : KeyCandidate) : Bool :=
  candidate.line != cursor.line || decide (keyLimit < cursor.index - candidate.index)

/-- Drops the candidates that can no longer be keys. -/
def dropStale (state : TokenState) : Except Fault TokenState :=
  let (stale, others) := state.candidates.partition fun entry => isStale state.cursor entry.2
  if stale.any (·.2.required) then .error .malformed else .ok { state with candidates := others }

/-- The candidate of the present flow level. -/
def candidate? (state : TokenState) : Option KeyCandidate := state.candidates.lookup state.flowLevel

/-- Drops the candidate of the present flow level without a check. -/
def forgetCandidate (state : TokenState) : TokenState :=
  { state with candidates := state.candidates.filter (·.1 != state.flowLevel) }

/-- Drops the candidate of the present flow level. -/
def dropCandidate (state : TokenState) : Except Fault TokenState :=
  match state.candidate? with
  | some candidate => if candidate.required then .error .malformed else .ok state.forgetCandidate
  | none => .ok state

/-- Makes the next token a candidate, if a key may begin here. -/
def saveCandidate (state : TokenState) : Except Fault TokenState :=
  if state.keyAllowed then do
    let state ← state.dropCandidate
    let cursor := state.cursor
    let candidate : KeyCandidate := {
      slot := state.slots.size
      required := !state.inFlow && state.indent == cursor.column
      index := cursor.index
      line := cursor.line
      column := cursor.column }
    pure { state with candidates := (state.flowLevel, candidate) :: state.candidates }
  else .ok state

/-- Ends the block collections that are indented further than a column. -/
def unwindFrom (column : Int) : List Int → TokenState → TokenState
  | [], state => { state with indents := [] }
  | outer :: indents, state =>
    if column < state.indent then
      unwindFrom column indents ({ state with indent := outer }.push .blockEnd)
    else { state with indents := outer :: indents }

/-- Ends the block collections that are indented further than a column, outside flow collections. -/
def unwind (column : Int) (state : TokenState) : TokenState :=
  if state.inFlow then state else unwindFrom column state.indents state

/-- Begins a block collection at a column, if it is indented further than the present one. -/
def indentTo? (column : Nat) (state : TokenState) : Option TokenState :=
  if state.indent < column then
    some { state with indent := column, indents := state.indent :: state.indents }
  else none

/-- Begins a block collection at the place, if it is indented further than the present one. -/
def openBlock (token : Token) (state : TokenState) : TokenState :=
  match state.indentTo? state.cursor.column with
  | some state => state.push token
  | none => state

/-- Adds a token that one character shows. -/
def indicator (token : Token) (state : TokenState) : TokenState :=
  (state.push token).moveTo state.cursor.next

/-- Ends all block collections in front of a directive or a separator of documents. -/
def leaveBlocks (state : TokenState) : Except Fault TokenState := do
  let state ← (state.unwind (-1)).dropCandidate
  pure { state with keyAllowed := false }

/-- The end of the document. -/
def streamEnd (state : TokenState) : Except Fault TokenState := do
  pure ((← state.leaveBlocks).push .streamEnd)

/-- A directive. -/
def directive (state : TokenState) : Except Fault TokenState := do
  let state ← state.leaveBlocks
  let (directive, cursor) ← Property.directive state.cursor
  pure ((state.push (.directive directive)).moveTo cursor)

/-- A line that separates documents. -/
def separator (token : Token) (state : TokenState) : Except Fault TokenState := do
  let state ← state.leaveBlocks
  pure ((state.push token).moveTo (state.cursor.forward 3))

/-- The opening bracket of a flow collection. -/
def flowStart (token : Token) (state : TokenState) : Except Fault TokenState := do
  let state ← state.saveCandidate
  pure ({ state with flowLevel := state.flowLevel + 1, keyAllowed := true }.indicator token)

/-- The closing bracket of a flow collection. -/
def flowEnd (token : Token) (state : TokenState) : Except Fault TokenState := do
  let state ← state.dropCandidate
  pure ({ state with flowLevel := state.flowLevel - 1, keyAllowed := false }.indicator token)

/-- A comma in a flow collection. -/
def flowEntry (state : TokenState) : Except Fault TokenState := do
  let state ← { state with keyAllowed := true }.dropCandidate
  pure (state.indicator .flowEntry)

/-- The hyphen before an item of a block sequence. -/
def blockEntry (state : TokenState) : Except Fault TokenState := do
  if !state.inFlow && !state.keyAllowed then throw .malformed
  let state := if state.inFlow then state else state.openBlock .blockSequenceStart
  let state ← { state with keyAllowed := true }.dropCandidate
  pure (state.indicator .blockEntry)

/-- The question mark before a key. -/
def key (state : TokenState) : Except Fault TokenState := do
  if !state.inFlow && !state.keyAllowed then throw .malformed
  let state := if state.inFlow then state else state.openBlock .blockMappingStart
  let state ← { state with keyAllowed := !state.inFlow }.dropCandidate
  pure (state.indicator .key)

/-- The colon between a key and its value. It declares the candidate, if there is one, a key. -/
def value (state : TokenState) : Except Fault TokenState :=
  match state.candidate? with
  | some candidate =>
    let state := state.forgetCandidate
    let (state, opens) :=
      if state.inFlow then (state, false)
      else match state.indentTo? candidate.column with
        | some state => (state, true)
        | none => (state, false)
    let slots := state.slots.modify candidate.slot fun slot =>
      { slot with isKey := true, opensMapping := opens }
    .ok ({ state with slots, keyAllowed := false }.indicator .value)
  | none => do
    if !state.inFlow && !state.keyAllowed then throw .malformed
    let state := if state.inFlow then state else state.openBlock .blockMappingStart
    let state ← { state with keyAllowed := !state.inFlow }.dropCandidate
    pure (state.indicator .value)

/-- An anchor, an alias or a tag, which may begin a key. -/
def property (read : Cursor → Except Fault (Token × Cursor)) (state : TokenState) :
    Except Fault TokenState := do
  let state ← state.saveCandidate
  let (token, cursor) ← read state.cursor
  pure ({ state with keyAllowed := false, cursor }.push token)

/-- A block scalar, after which a key may begin. -/
def blockScalar (folded : Bool) (state : TokenState) : Except Fault TokenState := do
  let state ← { state with keyAllowed := true }.dropCandidate
  let (text, cursor) ← Block.read folded state.indent state.cursor
  pure ({ state with cursor }.push (.scalar text false))

/-- A quoted scalar, which may be a key. -/
def quoted (double : Bool) (state : TokenState) : Except Fault TokenState :=
  state.property fun cursor => do
    let (text, cursor) ← Quoted.read double cursor
    pure (.scalar text false, cursor)

/-- A plain scalar, which may be a key. If a line end follows it, another key may begin after it. -/
def plain (state : TokenState) : Except Fault TokenState := do
  let state ← state.saveCandidate
  let result := Plain.read state.inFlow state.indent state.cursor
  pure ({ state with keyAllowed := result.endsLine, cursor := result.cursor }.push
    (.scalar result.text true))

/-- Whether a plain scalar may begin with a character that another one follows. -/
def mayBeginPlain (flow : Bool) (c following : Char) : Bool :=
  !(isGapOrEnd c || "-?:,[]#&*!|>'\"%@`\x7b\x7d".toList.contains c) ||
    (!isGapOrEnd following && (c == '-' || (!flow && (c == '?' || c == ':'))))

/-- Reads the token that begins with a given character, which is not the end of the document. -/
def readToken (c : Char) (state : TokenState) : Except Fault TokenState :=
  let cursor := state.cursor
  let following := cursor.peek 1
  let flow := state.inFlow
  if c == '%' && cursor.column == 0 then state.directive
  else if cursor.column == 0 && cursor.atSeparator then
    state.separator (if c == '-' then .documentStart else .documentEnd)
  else if c == '[' then state.flowStart .flowSequenceStart
  else if c == '\x7b' then state.flowStart .flowMappingStart
  else if c == ']' then state.flowEnd .flowSequenceEnd
  else if c == '\x7d' then state.flowEnd .flowMappingEnd
  else if c == ',' then state.flowEntry
  else if c == '-' && isGapOrEnd following then state.blockEntry
  else if c == '?' && (flow || isGapOrEnd following) then state.key
  else if c == ':' && (flow || isGapOrEnd following) then state.value
  else if c == '*' then state.property fun cursor => do
    let (name, cursor) ← Property.anchorName cursor.next
    pure (.alias name, cursor)
  else if c == '&' then state.property fun cursor => do
    let (name, cursor) ← Property.anchorName cursor.next
    pure (.anchor name, cursor)
  else if c == '!' then state.property fun cursor => do
    let (tag, cursor) ← Property.tag cursor
    pure (.tag tag, cursor)
  else if c == '|' && !flow then state.blockScalar false
  else if c == '>' && !flow then state.blockScalar true
  else if c == '\'' then state.quoted false
  else if c == '"' then state.quoted true
  else if mayBeginPlain flow c following then state.plain
  else .error .malformed

/-- Reads the next token. -/
def step (state : TokenState) : Except Fault TokenState := do
  let state ← state.toNextToken.dropStale
  let state := state.unwind state.cursor.column
  match state.cursor.rest with
  | [] => state.streamEnd
  | c :: _ => state.readToken c

/-- The tokens read so far. -/
def tokens (state : TokenState) : List Token := state.slots.toList.flatMap Slot.tokens

/-- The tokens read so far, up to the first that may still turn out to begin a key: to tell, the text
after it has to be read. -/
def settledTokens (state : TokenState) : List Token :=
  let open? := state.candidates.filter fun entry => !isStale state.cursor entry.2
  let settled := open?.foldl (fun count entry => min count entry.2.slot) state.slots.size
  (state.slots.toList.take settled).flatMap Slot.tokens

/-- Reads tokens up to the end of the document or a fault. A fault comes in place of the tokens that
wait for what is read next. -/
def run : (fuel : Nat) → TokenState → List Token
  | 0, state => state.tokens
  | fuel + 1, state =>
    match state.step with
    | .error fault => state.settledTokens ++ [.fault fault]
    | .ok after =>
      match after.slots.back? with
      | some ⟨.streamEnd, _, _⟩ => after.tokens
      | _ => run fuel after

end TokenState

/-- Whether a character may stand in a document. -/
def isAdmitted (c : Char) : Bool :=
  let n := c.toNat
  n == 0x9 || n == 0xA || n == 0xD || (0x20 ≤ n && n ≤ 0x7E) || n == 0x85 ||
    (0xA0 ≤ n && n ≤ 0xD7FF) || (0xE000 ≤ n && n ≤ 0xFFFD) || 0x10000 ≤ n

/-- The tokens of a document. -/
def Token.all (text : Text) : List Token :=
  if text.all isAdmitted then TokenState.run (text.length + 2) { cursor := { rest := text } }
  else [.fault .malformed]

end FormFill.Yaml

import FormFill.Pattern.Group
import FormFill.Pattern.Repetition

/-!
# Reading patterns

A pattern is a list of branches parted by bars; a branch is a sequence of pieces, and a repetition
sign applies to the piece before it. Options such as case folding hold for the whole pattern when
they stand at its start, and for one group when they stand at the group's start. The first breach of
the rules in reading order decides the fault.
-/

namespace FormFill.Pattern

open FormFill.Text

/-- The items of a sequence of pieces, which are given from the end. -/
def itemsOf (pieces : List Piece) : Branch := pieces.reverse.flatMap Piece.items

/-- Where a sequence stands. -/
structure Place where
  options : Options
  /-- Not inside any group. -/
  outermost : Bool
  /-- In the first branch. -/
  firstBranch : Bool

/-- What a parenthesis adds to a sequence. -/
inductive Parenthesis where
  | nothing
  | options
  | piece (piece : Piece)

/-- A blank that verbose patterns skip. -/
def isVerboseBlank (c : Char) : Bool :=
  c == ' ' || (9 ≤ c.toNat && c.toNat ≤ 13)

/-- The tokens after a comment of a verbose pattern, which ends with its line. -/
def afterLineComment : List Token → List Token
  | .plain '\n' :: rest => rest
  | [.dangling] => [.dangling]
  | _ :: rest => afterLineComment rest
  | [] => []

/-- Skips a comment of a verbose pattern. -/
def skipLineComment : Reading Unit :=
  modify fun state => { state with rest := afterLineComment state.rest }

/-- The length of the texts that a look-behind reads; it is a breach if they differ in length. -/
def fixedWidth (body : Node) : Reading Nat := do
  let width := body.width (← get).groupWidth
  let found : Option Breach :=
    if width.least ≠ width.most then some .variableLookBehind else none
  modify fun state => { state with deferred := state.deferred.or found }
  pure width.least

/-- Takes the parenthesis that closes a group. -/
def closeParenthesis : Reading Unit := do
  unless ← accept ')' do breach .unterminatedGroup

mutual

/-- Reads branches parted by bars. -/
def branches (fuel : Nat) (place : Place) : Reading (List Branch) := do
  match fuel with
  | 0 => breach .unterminatedGroup
  | fuel + 1 =>
    let first ← sequence fuel place []
    if ← accept '|' then
      let state ← get
      let options := if place.outermost then state.options else place.options
      let others ← branches fuel { place with options, firstBranch := false }
      pure (first :: others)
    else pure [first]

/-- Reads the pieces of a sequence; `pieces` holds those already read, from the end. -/
def sequence (fuel : Nat) (place : Place) (pieces : List Piece) : Reading Branch := do
  match fuel with
  | 0 => breach .unterminatedGroup
  | fuel + 1 =>
    let token ← peek?
    if token.isNone || token == some (.plain '|') || token == some (.plain ')') then
      return itemsOf pieces
    let token ← take?
    let options := place.options
    let continueWith (piece : Piece) := sequence fuel place (piece :: pieces)
    match token with
    | none | some .dangling => breach .danglingEscape
    | some (.escaped c) => continueWith (← escape options c)
    | some (.plain c) =>
      if options.verbose && isVerboseBlank c then sequence fuel place pieces
      else if options.verbose && c == '#' then
        skipLineComment
        sequence fuel place pieces
      else match c with
      | '[' => continueWith (.simple (← characterSet options))
      | '.' => continueWith (.simple (.one (.any options.dotAll)))
      | '^' =>
        continueWith ⟨.anchor, [.anchor (if options.multiline then .lineStart else .textStart)]⟩
      | '$' =>
        continueWith ⟨.anchor, [.anchor (if options.multiline then .lineEnd else .lastLineEnd)]⟩
      | '?' => sequence fuel place (← repeatLast 0 (some 1) pieces)
      | '*' => sequence fuel place (← repeatLast 0 none pieces)
      | '+' => sequence fuel place (← repeatLast 1 none pieces)
      | '\x7b' =>
        match ← bounds? with
        | none => continueWith (.simple (literal options c.toNat))
        | some (least, most) => sequence fuel place (← repeatLast least most pieces)
      | '(' =>
        match ← parenthesis fuel place pieces.isEmpty with
        | .nothing => sequence fuel place pieces
        | .options => sequence fuel { place with options := (← get).options } pieces
        | .piece piece => continueWith piece
      | _ => continueWith (.simple (literal options c.toNat))

/-- Reads what follows an opening parenthesis; `leading` says that nothing stands before it in its
sequence. -/
def parenthesis (fuel : Nat) (place : Place) (leading : Bool) : Reading Parenthesis := do
  match fuel with
  | 0 => breach .unterminatedGroup
  | fuel + 1 =>
    let options := place.options
    let contents (options : Options) : Reading Branch := do
      pure (Branch.alternatives (← branches fuel ⟨options, false, false⟩))
    let inside (options : Options) : Reading Node := do pure (.ofItems (← contents options))
    let capture (name : Option Text) : Reading Parenthesis := do
      let number ← openGroup name
      let body ← inside options
      closeParenthesis
      closeGroup number body
      pure (.piece (.simple (.group number body)))
    let look (behind negated : Bool) : Reading Parenthesis := do
      let saved := (← get).lookBehindStart
      if behind && saved.isNone then
        modify fun state => { state with lookBehindStart := some (state.widths.size + 1) }
      let body ← inside options
      if behind then
        modify fun state => { state with lookBehindStart := saved }
      closeParenthesis
      if behind then
        let width ← fixedWidth body
        pure (.piece (.simple (.look (.behind width) negated body)))
      else pure (.piece (.simple (.look .ahead negated body)))
    unless ← accept '?' do
      return ← capture none
    match ← take? with
    | some (.plain 'P') =>
      if ← accept '<' then
        let name ← takeName '>'
        unless isIdentifier name do breach .badName
        capture (some name)
      else if ← accept '=' then
        let name ← takeName ')'
        unless isIdentifier name do breach .badName
        match (← get).names.lookup name with
        | none => breach .unknownName
        | some number => (.piece ∘ .simple) <$> referenceTo number options
      else breach .unknownExtension
    | some (.plain ':') =>
      let items ← contents options
      closeParenthesis
      pure (.piece ⟨.simple, items⟩)
    | some (.plain '>') =>
      let body ← inside options
      closeParenthesis
      pure (.piece (.simple (.atomic body)))
    | some (.plain '#') =>
      let rest := (← get).rest.dropWhile (· != .plain ')')
      if rest.isEmpty then breach .unterminatedComment
      modify fun state => { state with rest := rest.tail }
      pure .nothing
    | some (.plain '=') => look false false
    | some (.plain '!') => look false true
    | some (.plain '<') =>
      match ← take? with
      | some (.plain '=') => look true false
      | some (.plain '!') => look true true
      | _ => breach .unknownExtension
    | some (.plain '(') =>
      let number ← conditionGroup (← takeName ')')
      checkLookBehind number
      let branch : Place := { place with outermost := false, firstBranch := false }
      let yes ← sequence fuel branch []
      let no ← if ← accept '|' then
          let no ← sequence fuel branch []
          if (← peek?) == some (.plain '|') then breach .tooManyBranches
          pure no
        else pure []
      closeParenthesis
      pure (.piece (.simple (.conditional number (.ofItems yes) (.ofItems no))))
    | some (.plain c) =>
      match ← groupOptions c with
      | .inl added =>
        modify fun state => { state with options := state.options.union added }
        unless place.outermost && place.firstBranch && leading do breach .lateOptions
        pure .options
      | .inr (added, removed) =>
        let body ← inside (options.inGroup added removed)
        closeParenthesis
        pure (.piece (.simple body))
    | _ => breach .unknownExtension

end

/-- Reads a text as a pattern. -/
def Node.read (text : Text) : Except Fault Node := do
  let tokens := Token.scan text
  let start : ReaderState := { rest := tokens }
  let (parts, state) ← (branches (3 * tokens.length + 3) ⟨{}, true, true⟩).run start
  if state.options.ascii && state.options.unicode then throw .contradictoryOptions
  unless state.rest.isEmpty do throw (.malformed .unbalancedParenthesis)
  if state.conditions.any (state.widths.size < ·) then throw (.malformed .invalidReference)
  if state.options.template && state.repeats then throw (.malformed .repetitionDisabled)
  match state.deferred with
  | some reason => throw (.malformed reason)
  | none => pure (.ofItems (Branch.alternatives parts))

end FormFill.Pattern

import FormFill.Pattern.Memory
import FormFill.Pattern.Reader

/-!
# Matching a whole text

Matching tries the ways in which a pattern can match in order of preference and goes back to the
next way when the rest fails. A repetition stops when a round beyond the required ones would start
where the round before it started, so every pattern is decided in finitely many steps. Where matching goes
on behind a repetition that keeps to the most rounds depends on the release of the language: `(?:ab?c)*+`
takes nothing of `aca` but its first two characters, and in earlier releases the last one too.
-/

namespace FormFill.Pattern

/-- Whether a character is a word character. -/
def isWordAt (text : Array Char) (ascii : Bool) (position : Nat) : Bool :=
  match text[position]? with
  | some c => CharClass.word.contains ascii c.toNat
  | none => false

/-- Whether a line feed stands at a position. -/
def isLineFeedAt (text : Array Char) (position : Nat) : Bool :=
  text[position]? == some '\n'

/-- Whether an anchor holds at a position. -/
def Anchor.holds (text : Array Char) (position : Nat) : Anchor → Bool
  | .textStart => position == 0
  | .textEnd => position == text.size
  | .lastLineEnd =>
    position == text.size || (position + 1 == text.size && isLineFeedAt text position)
  | .lineStart => position == 0 || isLineFeedAt text (position - 1)
  | .lineEnd => position == text.size || isLineFeedAt text position
  | .wordBorder negated ascii =>
    let before := position != 0 && isWordAt text ascii (position - 1)
    text.size != 0 && (before != isWordAt text ascii position) != negated

/-- Whether the character at a position passes a test. -/
def CharTest.passesAt (test : CharTest) (text : Array Char) (position : Nat) : Bool :=
  (text[position]?).any test.passes

/-- The number of characters from a position on that pass a test, up to a limit. -/
def CharTest.run (test : CharTest) (text : Array Char) (position : Nat) : (limit : Nat) → Nat
  | 0 => 0
  | limit + 1 =>
    if test.passesAt text position then test.run text (position + 1) limit + 1 else 0

/-- Measures the run of characters that pass a test, after handing its position on. -/
def CharTest.measure (test : CharTest) (text : Array Char) (position : Nat) (limit : Option Nat) :
    StateM Memory Nat := do
  reach position
  let left := text.size - position
  let length := test.run text position (limit.elim left (min left))
  if test.isGradual then reach (position + length)
  pure length

/-- The direct test that a pattern begins with, given the one that what follows begins with. -/
def Node.opening : Node → Option CharTest → Option CharTest
  | .empty, next => next
  | .one test, _ => if test.isDirect then some test else none
  | .seq first rest, next => first.opening (rest.opening next)
  | _, _ => none

/-- Tries a branch of a choice, unless the direct test that it begins with fails. A branch that stands
for several further branches is left to them. -/
def tryBranch (text : Array Char) (branch : Node) (attempt : Nat → Attempt) (here : Nat) : Attempt :=
  match branch with
  | .either .. => attempt here
  | branch =>
    if (branch.opening none).any fun test => !test.passesAt text here then pure false
    else do
      reach here
      attempt here

/-- Whether a rest begins with a character that does not stand at a position. -/
def Rest.isRuledOut (next : Rest) (text : Array Char) (position : Nat) : Bool :=
  match next.opening with
  | some (.literal code negated folding) =>
    !(CharTest.literal code negated folding).passesAt text position
  | _ => false

/-- Tries the rest after a run of characters, and after a shorter run if it fails; `extra` characters
can be given back. -/
def giveBack (text : Array Char) (next : Rest) (kept : Bool) (before : Memory) (least : Nat) :
    (extra : Nat) → Attempt
  | 0 => tryRest least
  | extra + 1 => do
    if ← tryRest (least + extra + 1) then return true
    giveBack text next kept before least extra
where
  /-- Tries the rest at a position, unless its first character rules it out. -/
  tryRest (position : Nat) : Attempt := do
    if next.isRuledOut text position then return false
    reach position
    if ← next.go position then return true
    goBack before kept
    return false

/-- Tries the rest after a run of characters, and after a longer run if it fails; `extra` more
characters may be taken. -/
def takeMore (text : Array Char) (test : CharTest) (next : Rest) (kept : Bool) (before : Memory) :
    (extra position : Nat) → Attempt
  | extra, position => do
    reach position
    if ← next.go position then return true
    goBack before kept
    if (← test.measure text position (some 1)) = 0 then return false
    match extra with
    | 0 => return false
    | extra + 1 => takeMore text test next kept before extra (position + 1)

/-- Repeats a test of one character; `kept` says whether marks are kept for going back. -/
def repeatTest (text : Array Char) (test : CharTest) (least : Nat) (most : Option Nat)
    (preference : Preference) (kept : Bool) (next : Rest) (here : Nat) : Attempt := do
  let left := text.size - here
  if left < least then return false
  match preference with
  | .most =>
    let length ← test.measure text here most
    if length < least then return false
    giveBack text next kept (← get) (here + least) (length - least)
  | .fewest =>
    reach here
    if least ≠ 0 then
      if (← test.measure text here (some least)) < least then return false
    takeMore text test next kept (← get) ((most.elim left (min left)) - least) (here + least)
  | .onlyMost =>
    let length ← test.measure text here most
    if length < least then return false
    next.go (here + length)

/-- A part of a pattern, as a function of what has to match after it and of where it starts. -/
abbrev Matcher := Rest → Nat → Attempt

/-- Whether another round is allowed after `count` rounds, the last of which, if it was not a
required one, started at `last`. -/
def mayRepeat (most : Option Nat) (count : Nat) (last : Option Nat) (position : Nat) : Bool :=
  most.all (count < ·) && last != some position

/-- Repeats as often as possible, and less often if the rest then fails. -/
def repeatMost (body : Matcher) (least : Nat) (most : Option Nat) (next : Rest) :
    (fuel count : Nat) → (last : Option Nat) → (here : Nat) → Attempt
  | 0, _, _, _ => pure false
  | fuel + 1, count, last, here => do
    reach here
    if count < least then
      if ← body ⟨none, repeatMost body least most next fuel (count + 1) last⟩ here then
        return true
    else
      if mayRepeat most count last here then
        let before ← get
        if ← body ⟨none, repeatMost body least most next fuel (count + 1) (some here)⟩ here then
          return true
        goBack before true
        reach here
      if ← next.go here then return true
    reach here
    return false

/-- Repeats as rarely as possible, and more often if the rest then fails; `kept` says whether marks are
kept for going back from the rest. -/
def repeatFewest (body : Matcher) (least : Nat) (most : Option Nat) (kept : Bool) (next : Rest) :
    (fuel count : Nat) → (last : Option Nat) → (here : Nat) → Attempt
  | 0, _, _, _ => pure false
  | fuel + 1, count, last, here => do
    reach here
    if count < least then
      if ← body ⟨none, repeatFewest body least most kept next fuel (count + 1) last⟩ here then
        return true
    else
      let before ← get
      if ← next.go here then return true
      goBack before kept
      if mayRepeat most count last here then
        reach here
        if ← body ⟨none, repeatFewest body least most kept next fuel (count + 1) (some here)⟩ here
          then return true
    reach here
    return false

/-- Repeats as often as possible and keeps to that. The position reached is where the rounds have come
to; in earlier releases a failed round beyond the required ones leaves it further on. -/
def repeatOnlyMost (release : Release) (body : Matcher) (least : Nat) (most : Option Nat) :
    (fuel count : Nat) → (last : Option Nat) → Attempt
  | 0, _, _ => pure false
  | fuel + 1, count, last => do
    let before ← get
    let here := before.reached
    if count < least then
      if ← body .stop here then repeatOnlyMost release body least most fuel (count + 1) last
      else return false
    else if mayRepeat most count last here then
      if ← body .stop here then repeatOnlyMost release body least most fuel (count + 1) (some here)
      else
        goBack before true
        if release = .later then reach here
        return true
    else return true

/-- Whether the text between two positions is repeated at a third, letters being compared as the
folding says. -/
def repeatedAt (text : Array Char) (folding : Folding) (first last position : Nat) : Bool :=
  position + (last - first) ≤ text.size &&
    (List.range (last - first)).all fun i =>
      match text[first + i]?, text[position + i]? with
      | some a, some b => folding.fold a.toNat == folding.fold b.toNat
      | _, _ => false

/-- Matches a pattern from a position on, before what `next` matches. Inside a repetition marks are kept
for going back. -/
def Node.run (release : Release) (text : Array Char) (kept : Bool) : Node → Matcher
  | .empty, next, here => next.go here
  | .one test, next, here => if test.passesAt text here then next.go (here + 1) else pure false
  | .anchor condition, next, here => if condition.holds text here then next.go here else pure false
  | .seq first rest, next, here =>
    first.run release text kept ⟨rest.opening next.opening, rest.run release text kept next⟩ here
  | .either first second, next, here => do
    let before ← get
    if ← tryBranch text first (first.run release text kept next.behindStep) here then return true
    goBack before kept
    if ← tryBranch text second (second.run release text kept next.behindStep) here then return true
    goBack before kept
    return false
  | .repeated least most preference body, next, here =>
    match body.single? with
    | some test => repeatTest text test least most preference kept next here
    | none => do
      reach here
      let fuel := least + (text.size - here) + 2
      match preference with
      | .most => repeatMost (body.run release text true) least most next.behindStep fuel 0 none here
      | .fewest =>
        repeatFewest (body.run release text true) least most kept next.behindStep fuel 0 none here
      | .onlyMost =>
        if ← repeatOnlyMost release (body.run release text kept) least most fuel 0 none then
          next.go (← get).reached
        else
          reach here
          return false
  | .group number body, next, here => do
    modify fun memory => memory.set (Memory.openingMark number) here
    body.run release text kept ⟨none, fun there => do
      modify fun memory => memory.set (Memory.closingMark number) there
      next.go there⟩ here
  | .atomic body, next, here => do
    reach here
    if ← body.run release text kept .stop here then next.go (← get).reached
    else
      reach here
      return false
  | .look direction negated body, next, here => do
    let width := match direction with
      | .ahead => 0
      | .behind width => width
    if here < width then
      if negated then next.go here else return false
    else
      let before ← get
      reach (here - width)
      let found ← body.run release text kept .stop (here - width)
      if found = negated then
        return false
      if negated then goBack before kept
      next.go here
  | .reference number folding, next, here => do
    match (← get).group? number with
    | some (first, last) =>
      if repeatedAt text folding first last here then next.go (here + (last - first))
      else return false
    | none => return false
  | .conditional number yes no, next, here => do
    if ((← get).group? number).isSome then
      match no with
      | .empty => yes.run release text kept next here
      | _ => yes.run release text kept next.behindStep here
    else no.run release text kept next here

/-- The greatest group number of a pattern. -/
def Node.groupCount : Node → Nat
  | .empty | .one _ | .anchor _ | .reference .. => 0
  | .seq first rest => max first.groupCount rest.groupCount
  | .either first second => max first.groupCount second.groupCount
  | .repeated _ _ _ body | .atomic body | .look _ _ body => body.groupCount
  | .group number body => max number body.groupCount
  | .conditional _ yes no => max yes.groupCount no.groupCount

/-- Whether a pattern matches a text from its start to its end in a release of the language. It is a fault
if the match leaves a group with its end before its start. -/
def Node.matchesAll (release : Release) (node : Node) (text : Text) : Except Fault Bool :=
  let text := text.toArray
  let finish : Rest := ⟨none, fun position => pure (position == text.size)⟩
  let (matched, memory) := (node.run release text false finish 0).run (Memory.start node.groupCount)
  if matched && memory.isCrossed node.groupCount then .error .crossedGroup else .ok matched

end FormFill.Pattern

import FormFill.Pattern.Syntax

/-!
# What a match remembers

While a pattern is tried on a text, the places where groups were opened and closed are kept as marks,
together with the position last handed on. An attempt that fails leaves its memory behind. What is
tried next takes back how many marks count, and inside a repetition the marks themselves; elsewhere a
mark that counted before keeps the place of the failed attempt. Releases of the pattern language differ in
whether the position of a failed attempt is taken back everywhere.
-/

namespace FormFill.Pattern

/-- A release of the pattern language. The releases differ in where matching goes on when a further round of
a repetition that keeps to the most rounds fails. -/
inductive Release where
  /-- Where the failed round got to. -/
  | earlier
  /-- Where the last whole round ended. -/
  | later
  deriving DecidableEq, Repr

/-- What a match remembers. -/
structure Memory where
  /-- Where groups were opened and closed: two marks for each group, from group one on. -/
  marks : Array (Option Nat)
  /-- How many marks count. -/
  counted : Nat := 0
  /-- The position last handed on to a part of the pattern. -/
  reached : Nat := 0

namespace Memory

/-- The memory of a match that has not begun, with room for a number of groups. -/
def start (groups : Nat) : Memory := { marks := Array.replicate (2 * groups) none }

/-- The mark of a group's opening. -/
def openingMark (group : Nat) : Nat := 2 * (group - 1)

/-- The mark of a group's closing. -/
def closingMark (group : Nat) : Nat := openingMark group + 1

/-- Sets a mark. Marks between those that count and this one are wiped out. -/
def set (memory : Memory) (mark position : Nat) : Memory :=
  let marks := (List.range (mark - memory.counted)).foldl
    (fun marks i => marks.setIfInBounds (memory.counted + i) none) memory.marks
  { memory with
    marks := marks.setIfInBounds mark (some position)
    counted := max memory.counted (mark + 1) }

/-- A mark that has been set. -/
def mark? (memory : Memory) (mark : Nat) : Option Nat := (memory.marks[mark]?).join

/-- The places where a group was opened and closed, if it has been closed. -/
def borders? (memory : Memory) (group : Nat) : Option (Nat × Nat) := do
  if memory.counted ≤ closingMark group then none
  else pure (← memory.mark? (openingMark group), ← memory.mark? (closingMark group))

/-- The start and the end of the text of a group that has matched. -/
def group? (memory : Memory) (group : Nat) : Option (Nat × Nat) :=
  (memory.borders? group).filter fun (first, last) => first ≤ last

/-- Whether some group is left with its end before its start. -/
def isCrossed (memory : Memory) (groups : Nat) : Bool :=
  (List.range groups).any fun i =>
    (memory.borders? (i + 1)).any fun (first, last) => last < first

/-- The memory after an attempt that failed: as many marks count as before it. The marks themselves are
those from before the attempt if they were kept. -/
def back (after before : Memory) (kept : Bool) : Memory :=
  if kept then { before with reached := after.reached } else { after with counted := before.counted }

end Memory

/-- An attempt to match, which succeeds or fails and changes the memory in either case. -/
abbrev Attempt := StateM Memory Bool

/-- Hands a position on. -/
def reach (position : Nat) : StateM Memory Unit :=
  modify fun memory => { memory with reached := position }

/-- Takes back what a failed attempt did to the marks. -/
def goBack (before : Memory) (kept : Bool) : StateM Memory Unit :=
  modify fun memory => memory.back before kept

/-- What has to match after a part of the pattern. -/
structure Rest where
  /-- The direct test that it begins with, if any. -/
  opening : Option CharTest
  /-- The attempt to match it from a position on. -/
  go : Nat → Attempt

/-- The end of a part that is matched on its own. -/
def Rest.stop : Rest where
  opening := none
  go position := do
    reach position
    pure true

/-- The same rest behind a step of the match that hides what it begins with. -/
def Rest.behindStep (next : Rest) : Rest := { next with opening := none }

end FormFill.Pattern

import FormFill.Text.Blank
import FormFill.Text.Digit
import FormFill.Text.LetterCase
import FormFill.Text.Word

/-!
# Patterns

The tree of a pattern: single characters, sets, anchors, groups, repetition, alternatives,
look-around and conditions. Every node carries the options in force where it stands, so the tree
means the same wherever it is used. A character set is a list of code points, ranges and classes.
-/

namespace FormFill.Pattern

open FormFill.Text

/-- How letters are compared: as they are, without regard to the case of ASCII letters, or without
regard to the case of any letter. -/
inductive Folding where
  | exact
  | ascii
  | full
  deriving DecidableEq, Repr

namespace Folding

/-- The form in which a code point is compared. -/
def fold : Folding → Nat → Nat
  | .exact, code => code
  | .ascii, code => lowerAscii code
  | .full, code => lowerCode code

/-- The folded code points that equal a given code point. -/
def images (folding : Folding) (code : Nat) : List Nat :=
  match folding with
  | .full => caseEquivalents (lowerCode code)
  | _ => [folding.fold code]

/-- The code points that a given folded code point equals. -/
def sources (folding : Folding) (folded : Nat) : List Nat :=
  match folding with
  | .exact => [folded]
  | .ascii => [folded, folded - 32].filter (lowerAscii · == folded)
  | .full => (caseEquivalents folded).flatMap lettersOf

/-- Whether the folding matters where a code point is written. -/
def touches (folding : Folding) (code : Nat) : Bool :=
  match folding with
  | .exact => false
  | .ascii => lowerAscii code != code || (97 ≤ code && code ≤ 122)
  | .full => hasCase code

/-- Whether the folding matters for some code point of a closed range. -/
def touchesBetween (folding : Folding) (low high : Nat) : Bool :=
  match folding with
  | .exact => false
  | .ascii => (low ≤ 90 && 65 ≤ high) || (low ≤ 122 && 97 ≤ high)
  | .full => hasCaseBetween low high

/-- Whether the code point `code` is accepted where `wanted` is written. -/
def accepts (folding : Folding) (wanted code : Nat) : Bool :=
  (folding.images wanted).contains (folding.fold code)

end Folding

/-- The classes of characters that an escape names. -/
inductive CharClass where
  | digit
  | blank
  | word
  deriving DecidableEq, Repr

/-- Whether a code point belongs to a class; `ascii` restricts the class to ASCII characters. -/
def CharClass.contains (cls : CharClass) (ascii : Bool) (code : Nat) : Bool :=
  let c := Char.ofNat code
  if ascii then
    code < 128 && match cls with
      | .digit => c.isDigit
      | .blank => c == ' ' || (9 ≤ code && code ≤ 13)
      | .word => c.isAlphanum || c == '_'
  else match cls with
    | .digit => isDigit c
    | .blank => isBlank c
    | .word => isWord c

/-- A member of a character set. -/
inductive SetItem where
  /-- One code point. -/
  | point (code : Nat)
  /-- A closed range of code points. -/
  | range (first last : Nat)
  /-- A class, or the characters outside it. -/
  | named (cls : CharClass) (negated : Bool)
  deriving DecidableEq, Repr

/-- The last code point of the basic plane. -/
def basicPlaneEnd : Nat := 0xFFFF

/-- Whether a set item holds a code point. Letters of the basic plane count with all that equal them.
Beyond it a single member is compared with the folded code point as it stands, and a range with the
folded code point and its capital. -/
def SetItem.accepts (folding : Folding) (ascii : Bool) (code : Nat) : SetItem → Bool
  | .point wanted =>
    if basicPlaneEnd < wanted then folding.fold code == wanted else folding.accepts wanted code
  | .range first last =>
    let folded := folding.fold code
    (folding.sources folded).any (fun code => first ≤ code && code ≤ min last basicPlaneEnd) ||
      (basicPlaneEnd < last && first ≤ folded && folded ≤ last) ||
      (basicPlaneEnd < last && folding != .exact &&
        first ≤ capitalCode folded && capitalCode folded ≤ last)
  | .named cls negated => cls.contains ascii (folding.fold code) != negated

/-- Whether folding matters for a set item. Beyond the basic plane it always does. -/
def SetItem.isFolded (folding : Folding) : SetItem → Bool
  | .point code => folding != .exact && (basicPlaneEnd < code || folding.touches code)
  | .range first last =>
    folding != .exact && (basicPlaneEnd < last || folding.touchesBetween first last)
  | .named .. => false

/-- A test of one character. -/
inductive CharTest where
  /-- One code point, or any other one if `negated`. -/
  | literal (code : Nat) (negated : Bool) (folding : Folding)
  /-- Any character; a line feed only if `lineFeed`. -/
  | any (lineFeed : Bool)
  /-- A member of the set, or any character outside it if `negated`. -/
  | set (items : List SetItem) (negated : Bool) (folding : Folding) (ascii : Bool)
  deriving DecidableEq, Repr

/-- Whether a character passes the test. -/
def CharTest.passes : CharTest → Char → Bool
  | .literal code negated folding, c => folding.accepts code c.toNat != negated
  | .any lineFeed, c => lineFeed || c != '\n'
  | .set items negated folding ascii, c =>
    items.any (·.accepts folding ascii c.toNat) != negated

/-- Whether the test needs no folding: it is for one code point or for a set as they stand. -/
def CharTest.isDirect : CharTest → Bool
  | .literal code negated folding => !negated && !folding.touches code
  | .any _ => false
  | .set items _ folding _ => !items.any (·.isFolded folding)

/-- Whether a run of characters that pass is measured one character at a time: the test folds and has
several members. -/
def CharTest.isGradual : CharTest → Bool
  | .literal code _ folding =>
    folding == .full && folding.touches code && (folding.images code).length != 1
  | .any _ => false
  | .set items _ folding _ => items.any (·.isFolded folding)

/-- A condition on a position. -/
inductive Anchor where
  | textStart
  | textEnd
  /-- The end of the text, or just before a line feed that ends it. -/
  | lastLineEnd
  | lineStart
  | lineEnd
  /-- A border between a word character and another one, or not such a border if `negated`. -/
  | wordBorder (negated ascii : Bool)
  deriving DecidableEq, Repr

/-- The direction in which a look-around reads. -/
inductive Direction where
  | ahead
  /-- The text of this many characters before the position. -/
  | behind (width : Nat)
  deriving DecidableEq, Repr

/-- Which of several possible numbers of repetitions is tried first, and whether others follow. -/
inductive Preference where
  | most
  | fewest
  /-- The most, and no other number. -/
  | onlyMost
  deriving DecidableEq, Repr

/-- A pattern. A sequence ends with `empty`, and a choice of several branches stands in the second
place of a choice only as its further branches. -/
inductive Node where
  | empty
  | one (test : CharTest)
  | anchor (condition : Anchor)
  | seq (first rest : Node)
  | either (first second : Node)
  | repeated (least : Nat) (most : Option Nat) (preference : Preference) (body : Node)
  /-- A numbered group, whose text is remembered. -/
  | group (number : Nat) (body : Node)
  /-- A part that is not reconsidered once it has matched. -/
  | atomic (body : Node)
  | look (direction : Direction) (negated : Bool) (body : Node)
  /-- The text that a group matched. -/
  | reference (number : Nat) (folding : Folding)
  /-- The first branch if a group has matched, the second otherwise. -/
  | conditional (number : Nat) (yes no : Node)
  deriving Repr

/-- A sequence of items. -/
def Node.ofItems (items : List Node) : Node := items.foldr .seq .empty

/-- The test of a pattern that is nothing but a test of one character. -/
def Node.single? : Node → Option CharTest
  | .one test => some test
  | .seq first .empty => first.single?
  | _ => none

/-- The least and the greatest number of characters that a pattern can match. -/
structure Width where
  least : Nat
  most : Nat
  deriving DecidableEq, Repr

namespace Width

/-- The greatest width; a width beyond it counts as this one. -/
def limit : Nat := Nat.pow 2 32 - 1

/-- A width within the limits; the least number stays below the limit. -/
def cut (least most : Nat) : Width := ⟨min least (limit - 1), min most limit⟩

/-- The width of one of two patterns. -/
def either (a b : Width) : Width := ⟨min a.least b.least, max a.most b.most⟩

end Width

/-- The width of a pattern, given the widths of the groups closed before it. -/
def Node.width (groups : Nat → Width) : Node → Width
  | .empty | .anchor _ | .look .. => ⟨0, 0⟩
  | .one _ => ⟨1, 1⟩
  | .seq first rest =>
    let a := first.width groups
    let b := rest.width groups
    .cut (a.least + b.least) (a.most + b.most)
  | .either first second => (first.width groups).either (second.width groups)
  | .repeated least most _ body =>
    let a := body.width groups
    .cut (a.least * least) (a.most * most.getD Width.limit)
  | .group _ body | .atomic body => body.width groups
  | .reference number _ => groups number
  | .conditional _ yes no => (yes.width groups).either (no.width groups)

end FormFill.Pattern

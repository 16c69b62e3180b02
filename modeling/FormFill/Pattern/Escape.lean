import FormFill.Pattern.Branch
import FormFill.Pattern.Reading
import FormFill.Text.CharacterName

/-!
# Escapes and sets

A backslash and the character after it stand for a character, for a class of characters, for an anchor, or
for what a group has matched. A set lists characters, ranges and classes between brackets.
-/

namespace FormFill.Pattern

open FormFill.Text

/-- A hexadecimal digit. -/
def isHexDigit (c : Char) : Bool :=
  c.isDigit || ('a' ≤ c && c ≤ 'f') || ('A' ≤ c && c ≤ 'F')

/-- An octal digit. -/
def isOctalDigit (c : Char) : Bool := '0' ≤ c && c ≤ '7'

/-- The value of a hexadecimal digit. -/
def hexValue (c : Char) : Nat :=
  if c.isDigit then c.toNat - 48 else (lowerAscii c.toNat) - 87

/-- The number that digits denote in a base. -/
def ofBase (base : Nat) (digits : Text) : Nat :=
  digits.foldl (fun value c => value * base + hexValue c) 0

/-- The bound that the number of an escape must stay below for the escape to be looked at. -/
def escapeBound : Nat := Nat.pow 2 31

/-- The code point that hexadecimal digits denote. A number that is none makes the pattern malformed, unless
it is beyond the bound. -/
def codePoint (digits : Text) : Reading Nat := do
  let code := ofBase 16 digits
  if escapeBound ≤ code then throw .escapeTooLarge
  if 0x10FFFF < code then breach .badEscape
  pure code

/-- Reads the digits of a hexadecimal escape of fixed length. -/
def hexEscape (length : Nat) : Reading Nat := do
  let digits ← takeWhile isHexDigit length
  if digits.length < length then breach .incompleteEscape
  codePoint digits

/-- Reads the braced name of a character. -/
def namedCharacter : Reading Nat := do
  unless ← accept '\x7b' do breach .missingName
  match characterNamed? (← takeName '\x7d') with
  | some c => pure c.toNat
  | none => breach .unknownCharacterName

/-- The character that a letter escape stands for. -/
def controlEscape? : Char → Option Nat
  | 'a' => some 7
  | 'f' => some 12
  | 'n' => some 10
  | 'r' => some 13
  | 't' => some 9
  | 'v' => some 11
  | '\\' => some 92
  | _ => none

/-- The class that a letter escape names. -/
def classEscape? : Char → Option SetItem
  | 'd' => some (.named .digit false)
  | 'D' => some (.named .digit true)
  | 's' => some (.named .blank false)
  | 'S' => some (.named .blank true)
  | 'w' => some (.named .word false)
  | 'W' => some (.named .word true)
  | _ => none

/-- Reads an escape that stands for one code point, both inside and outside sets. -/
def pointEscape (c : Char) : Reading Nat := do
  match controlEscape? c with
  | some code => pure code
  | none =>
    match c with
    | 'x' => hexEscape 2
    | 'u' => hexEscape 4
    | 'U' => hexEscape 8
    | 'N' => namedCharacter
    | _ => if c.isAlpha then breach .badEscape else pure c.toNat

/-- Reads an escape inside a set. -/
def setEscape (c : Char) : Reading SetItem := do
  match classEscape? c with
  | some item => pure item
  | none =>
    if c == 'b' then pure (.point 8)
    else if isOctalDigit c then
      let code := ofBase 8 (c :: (← takeWhile isOctalDigit 2))
      if 0o377 < code then breach .octalTooLarge
      pure (.point code)
    else if c.isDigit then breach .badEscape
    else .point <$> pointEscape c

/-- Reads the members of a set up to its closing bracket. -/
def setItems : Nat → List SetItem → Reading (List SetItem)
  | 0, _ => breach .unterminatedSet
  | fuel + 1, items => do
    match ← take? with
    | none => breach .unterminatedSet
    | some token =>
      if token == .plain ']' && !items.isEmpty then
        return items.reverse
      let low ← member token
      if ← accept '-' then
        match ← take? with
        | none => breach .unterminatedSet
        | some (.plain ']') => return (.point 45 :: low :: items).reverse
        | some other =>
          match low, ← member other with
          | .point first, .point last =>
            if last < first then breach .badRange
            setItems fuel (.range first last :: items)
          | _, _ => breach .badRange
      else setItems fuel (low :: items)
where
  /-- One member of a set. -/
  member : Token → Reading SetItem
    | .plain c => pure (.point c.toNat)
    | .escaped c => setEscape c
    | .dangling => breach .danglingEscape

/-- Inside a look-behind only groups closed before it may be referred to. -/
def checkLookBehind (number : Nat) : Reading Unit := do
  let state ← get
  match state.lookBehindStart with
  | none => pure ()
  | some start =>
    unless state.isClosed number do breach .openGroup
    if start ≤ number then breach .referenceInLookBehind

/-- A reference to a group that must be closed. -/
def referenceTo (number : Nat) (options : Options) : Reading Node := do
  unless (← get).isClosed number do breach .openGroup
  checkLookBehind number
  pure (.reference number options.folding)

/-- A node for a single code point. -/
def literal (options : Options) (code : Nat) : Node :=
  .one (.literal code false options.folding)

/-- How a piece of a sequence may be repeated. -/
inductive PieceKind where
  | simple
  | anchor
  | repetition
  deriving DecidableEq

/-- A piece of a sequence: what is repeated together. -/
structure Piece where
  kind : PieceKind
  items : Branch

/-- A single item that may be repeated. -/
def Piece.simple (node : Node) : Piece := ⟨.simple, [node]⟩

/-- Reads a decimal escape that does not begin with zero: three octal digits, or a group number. -/
def numberEscape (options : Options) (c : Char) : Reading Node := do
  let more ← takeWhile Char.isDigit 1
  match more with
  | [second] =>
    if isOctalDigit c && isOctalDigit second then
      match ← takeWhile isOctalDigit 1 with
      | [third] =>
        let code := ofBase 8 [c, second, third]
        if 0o377 < code then breach .octalTooLarge
        return literal options code
      | _ => pure ()
  | _ => pure ()
  let number := ofBase 10 (c :: more)
  if (← get).widths.size < number then breach .invalidReference
  referenceTo number options

/-- Reads an escape outside a set. -/
def escape (options : Options) (c : Char) : Reading Piece := do
  match classEscape? c with
  | some item => pure (.simple (.one (.set [item] false options.folding options.ascii)))
  | none =>
    match c with
    | 'A' => pure ⟨.anchor, [.anchor .textStart]⟩
    | 'Z' => pure ⟨.anchor, [.anchor .textEnd]⟩
    | 'b' => pure ⟨.anchor, [.anchor (.wordBorder false options.ascii)]⟩
    | 'B' => pure ⟨.anchor, [.anchor (.wordBorder true options.ascii)]⟩
    | '0' =>
      let digits ← takeWhile isOctalDigit 2
      pure (.simple (literal options (ofBase 8 digits)))
    | _ =>
      if c.isDigit then .simple <$> numberEscape options c
      else (.simple ∘ literal options) <$> pointEscape c

/-- Reads a set after its opening bracket. -/
def characterSet (options : Options) : Reading Node := do
  let negated ← accept '^'
  let items ← setItems ((← get).rest.length + 1) []
  match items.eraseDups with
  | [.point code] => pure (.one (.literal code negated options.folding))
  | items => pure (.one (.set items negated options.folding options.ascii))

end FormFill.Pattern

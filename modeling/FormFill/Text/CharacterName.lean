import FormFill.Text.CharacterName.Abugida
import FormFill.Text.CharacterName.Alphabet
import FormFill.Text.CharacterName.Ancient
import FormFill.Text.CharacterName.EastAsia
import FormFill.Text.CharacterName.Further
import FormFill.Text.CharacterName.Letterform
import FormFill.Text.CharacterName.Logogram
import FormFill.Text.CharacterName.Marking
import FormFill.Text.CharacterName.Pictograph
import FormFill.Text.CharacterName.Presentation
import FormFill.Text.CharacterName.Sign

/-!
# Character names

A pattern may name a character. Most names are listed, and may be written in capital or small letters.
The names of unified ideographs hold the code point, those of Hangul syllables are put together from
the short names of their parts, and both are written in capital letters only.
-/

namespace FormFill.Text.CharacterName

/-- All runs of names. -/
def runs : List Run :=
  alphabet ++ abugida ++ letterform ++ sign ++ eastAsia ++ presentation ++ ancient ++ logogram ++
    marking ++ pictograph

/-- The value of a hexadecimal digit in capital letters. -/
def digit? (c : Char) : Option Nat :=
  if c.isDigit then some (c.toNat - 48)
  else if 'A' ≤ c ∧ c ≤ 'F' then some (c.toNat - 55)
  else none

/-- The number that hexadecimal digits in capital letters denote. -/
def hexNumber? (digits : Text) : Option Nat := do
  pure ((← digits.mapM digit?).foldl (fun value digit => value * 16 + digit) 0)

/-- A code point, if it lies in one of the ranges. -/
def within? (ranges : List (Nat × Nat)) (code : Nat) : Option Nat :=
  if ranges.any fun range => range.1 ≤ code && code ≤ range.2 then some code else none

/-- The beginning of the names of unified ideographs. -/
def ideographStem : Text := "CJK UNIFIED IDEOGRAPH-"

/-- The ranges of the unified ideographs. -/
def ideographs : List (Nat × Nat) :=
  [(0x3400, 0x4DBF), (0x4E00, 0x9FFF), (0x20000, 0x2A6DF), (0x2A700, 0x2B738), (0x2B740, 0x2B81D),
  (0x2B820, 0x2CEA1), (0x2CEB0, 0x2EBE0), (0x30000, 0x3134A)]

/-- The unified ideograph with a number of four or five digits. -/
def ideograph? (digits : Text) : Option Nat :=
  if digits.length = 4 ∨ digits.length = 5 then (hexNumber? digits).bind (within? ideographs)
  else none

/-- Other names that hold the code point, by what they begin with. -/
def numberedStems : List (Text × List (Nat × Nat)) :=
  [("CJK COMPATIBILITY IDEOGRAPH-".toList, [(0xF900, 0xFA6D), (0xFA70, 0xFAD9), (0x2F800, 0x2FA1D)]),
  ("NUSHU CHARACTER-".toList, [(0x1B170, 0x1B2FB)]),
  ("KHITAN SMALL SCRIPT CHARACTER-".toList, [(0x18B00, 0x18CD5)])]

/-- The code point of a name that holds it in as many digits as it needs. -/
def numbered? (name : Text) : Option Nat :=
  numberedStems.findSome? fun (stem, ranges) => do
    let digits ← after? stem name
    if digits.head? = some '0' then none
    else (hexNumber? digits).bind (within? ranges)

/-- The short names of the variation selectors, by number. -/
def selector? (name : Text) : Option Nat := do
  let digits ← after? "VS".toList name
  let number := (List.range 257).find? fun n => n ≠ 0 && Text.ofNat n == digits
  number.map fun n => if n ≤ 16 then 0xFE00 + n - 1 else 0xE0100 + n - 17

/-- The beginning of the names of Hangul syllables. -/
def syllableStem : Text := "HANGUL SYLLABLE "

/-- The short names of the consonants that begin a syllable. -/
def initials : List Text :=
  ["G", "GG", "N", "D", "DD", "R", "M", "B", "BB", "S", "SS", "", "J", "JJ", "C", "K", "T", "P",
  "H"].map String.toList

/-- The short names of the vowels of a syllable. -/
def vowels : List Text :=
  ["A", "AE", "YA", "YAE", "EO", "E", "YEO", "YE", "O", "WA", "WAE", "OE", "YO", "U", "WEO", "WE",
  "WI", "YU", "EU", "YI", "I"].map String.toList

/-- The short names of the consonants that end a syllable. -/
def finals : List Text :=
  ["", "G", "GG", "GS", "N", "NJ", "NH", "D", "L", "LG", "LM", "LB", "LS", "LT", "LP", "LH", "M",
  "B", "BS", "S", "SS", "NG", "J", "C", "K", "T", "P", "H"].map String.toList

/-- The place of the longest short name that a text begins with, and what follows it. -/
def longest? (names : List Text) (text : Text) : Option (Nat × Text) :=
  (names.zipIdx.foldl
    (fun (best : Option (Nat × Nat × Text)) (name, place) =>
      match after? name text with
      | none => best
      | some rest => if best.all (·.1 < name.length) then some (name.length, place, rest) else best)
    none).map (·.2)

/-- The syllable with the given short names, each taken as long as possible. -/
def syllable? (text : Text) : Option Nat := do
  let (initial, rest) ← longest? initials text
  let (vowel, rest) ← longest? vowels rest
  let (final, rest) ← longest? finals rest
  if rest.isEmpty then pure (0xAC00 + (initial * 21 + vowel) * 28 + final) else none

/-- The code point of a listed name, which is given in capital letters. -/
def listed? (name : Text) : Option Nat :=
  ((runs.findSome? (·.find? name)).or ((further.find? fun entry => entry.1.toList = name).map (·.2))).or
    ((numbered? name).or (selector? name))

/-- The code point of a name. -/
def code? (name : Text) : Option Nat :=
  match after? syllableStem name, after? ideographStem name with
  | some parts, _ => syllable? parts
  | none, some digits => ideograph? digits
  | none, none => listed? (name.map Char.toUpper)

end FormFill.Text.CharacterName

namespace FormFill.Text

/-- The character with the given name. -/
def characterNamed? (name : Text) : Option Char :=
  (CharacterName.code? name).map Char.ofNat

end FormFill.Text

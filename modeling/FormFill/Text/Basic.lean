/-!
# Text

A text is a list of characters. Lengths and offsets count characters, and readers take characters off
the front of a text and hand back the rest.
-/

namespace FormFill

/-- A text as the list of its characters. -/
abbrev Text := List Char

instance : Coe String Text := ⟨String.toList⟩

instance : LawfulBEq Text := inferInstance

namespace Text

/-- The text after a given beginning, if it begins so. -/
def after? : (beginning text : Text) → Option Text
  | [], text => some text
  | c :: beginning, d :: text => if c = d then after? beginning text else none
  | _ :: _, [] => none

/-- A text begins so exactly if it is the beginning followed by the rest. -/
theorem after?_eq_some_iff {beginning text rest : Text} :
    after? beginning text = some rest ↔ text = beginning ++ rest := by
  induction beginning generalizing text with
  | nil => simp [after?]
  | cons c beginning ih =>
    cases text with
    | nil => simp [after?]
    | cons d text =>
      by_cases h : c = d
      · simp [after?, h, ih]
      · simp [after?, h, Ne.symm h]

/-- Parts with a separator between them. -/
def joined (separator : Text) : List Text → Text
  | [] => []
  | [part] => part
  | part :: rest => part ++ separator ++ joined separator rest

/-- Lines as one text. -/
def ofLines (lines : List Text) : Text := joined ['\n'] lines

/-- The parts of a text between the places where a character stands. -/
def splitOn (separator : Char) : Text → List Text
  | [] => [[]]
  | c :: rest =>
    if c = separator then [] :: splitOn separator rest
    else match splitOn separator rest with
      | [] => [[c]]
      | part :: parts => (c :: part) :: parts

/-- The decimal digits of a number. -/
def ofNat (n : Nat) : Text := Nat.toDigits 10 n

/-- The decimal text of a whole number. -/
def ofInt (n : Int) : Text :=
  if n < 0 then '-' :: ofNat n.natAbs else ofNat n.natAbs

/-- Whether one text comes before another or equals it, by code points. -/
def le (a b : Text) : Bool := !decide (b < a)

end Text

end FormFill

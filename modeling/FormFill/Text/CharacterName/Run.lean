import FormFill.Text.Basic

/-!
# Runs of character names

Characters that follow each other often have names that begin alike. A run keeps the common beginning
once and the rest of each name in the order of the characters.
-/

namespace FormFill.Text.CharacterName

/-- The names of characters that follow each other. -/
structure Run where
  /-- The code point of the first name. -/
  first : Nat
  /-- What all names begin with. -/
  stem : String
  /-- The rest of each name, parted by semicolons; it is empty for a code point without a name. -/
  ends : List String
  deriving Repr

namespace Run

/-- The code point of a text in a list whose first member stands for the code point `code`. -/
def search (wanted : Text) : (code : Nat) → List Text → Option Nat
  | _, [] => none
  | code, other :: rest => if other = wanted then some code else search wanted (code + 1) rest

/-- The code point of a name in a run. -/
def find? (name : Text) (run : Run) : Option Nat := do
  let wanted ← after? run.stem.toList name
  if wanted.isEmpty then none
  else search wanted run.first (run.ends.flatMap fun ends => splitOn ';' ends.toList)

end Run

end FormFill.Text.CharacterName

import FormFill.Text.Basic

/-!
# Terminal sequences

A terminal takes some texts as orders, for instance to change the colour: an escape character, an opening
bracket, parameters, and a letter. What is printed leaves such sequences out.
-/

namespace FormFill.Text

/-- Whether a character may stand among the parameters of a terminal sequence. -/
def isTerminalParameter (c : Char) : Bool := c == ';' || c == '?' || c.isDigit

/-- The length of the terminal sequence that a text begins with, if it begins with one. -/
def terminalSequence? : Text → Option Nat
  | '\x1b' :: '[' :: rest =>
    let parameters := rest.takeWhile isTerminalParameter
    match rest.drop parameters.length with
    | c :: _ => if c.isAlpha then some (parameters.length + 3) else none
    | [] => none
  | _ => none

/-- A text without its first characters and without the terminal sequences after them. -/
def printableFrom : (hidden : Nat) → Text → Text
  | _, [] => []
  | hidden + 1, _ :: rest => printableFrom hidden rest
  | 0, c :: rest =>
    match terminalSequence? (c :: rest) with
    | some length => printableFrom (length - 1) rest
    | none => c :: printableFrom 0 rest

/-- A text without terminal sequences. -/
def withoutTerminalSequences (text : Text) : Text := printableFrom 0 text

/-- A text without escape characters stays as it is. -/
theorem withoutTerminalSequences_eq_self {text : Text} (h : '\x1b' ∉ text) :
    withoutTerminalSequences text = text := by
  unfold withoutTerminalSequences
  induction text with
  | nil => rfl
  | cons c rest ih =>
    have hc : c ≠ '\x1b' := fun heq => h (heq ▸ List.mem_cons_self)
    have hrest : '\x1b' ∉ rest := fun hmem => h (List.mem_cons_of_mem _ hmem)
    have hnone : terminalSequence? (c :: rest) = none := by
      unfold terminalSequence?
      split
      next heq => exact absurd (List.cons.inj heq).1 hc
      next => rfl
    simp [printableFrom, hnone, ih hrest]

end FormFill.Text

/-!
# What can be wrong with a pattern

A pattern that breaks the rules of the pattern language is malformed. Five faults are of another kind:
a repetition number beyond the limit of the language, a number with more digits than are read, an escape
whose number is beyond all limits, contradictory options for the whole pattern, and a match that leaves a
group with its end before its start. They are told apart because only malformed patterns are forgiven where
patterns are used.
-/

namespace FormFill.Pattern

/-- The rule of the pattern language that a malformed pattern breaks. -/
inductive Breach where
  | danglingEscape
  | badEscape
  | incompleteEscape
  | octalTooLarge
  | unknownCharacterName
  | unterminatedSet
  | badRange
  | nothingToRepeat
  | multipleRepeat
  | reversedBounds
  | unterminatedGroup
  | unbalancedParenthesis
  | unknownExtension
  | unterminatedComment
  | missingName
  | badName
  | repeatedName
  | unknownName
  | openGroup
  | invalidReference
  | referenceInLookBehind
  | badGroupNumber
  | tooManyBranches
  | badOption
  | lateOptions
  | variableLookBehind
  | repetitionDisabled
  deriving DecidableEq, Repr

/-- Why a text is not a pattern, or why a pattern cannot be used. -/
inductive Fault where
  | malformed (breach : Breach)
  | repetitionTooLarge
  | tooManyDigits (count : Nat)
  /-- An escape whose number is beyond all limits. -/
  | escapeTooLarge
  | contradictoryOptions
  | crossedGroup
  deriving DecidableEq, Repr

/-- The wording of the faults that are not malformed patterns. -/
def Fault.message : Fault → String
  | .malformed _ => "malformed pattern"
  | .repetitionTooLarge => "the repetition number is too large"
  | .tooManyDigits count =>
    "Exceeds the limit (4300 digits) for integer string conversion: value has " ++ toString count ++
      " digits; use sys.set_int_max_str_digits() to increase the limit"
  | .escapeTooLarge => "Python int too large to convert to C int"
  | .contradictoryOptions => "ASCII and UNICODE flags are incompatible"
  | .crossedGroup =>
    "The span of capturing group is wrong, please report a bug for the re module."

/-- The class that such a fault is shown as. -/
def Fault.label : Fault → String
  | .repetitionTooLarge | .escapeTooLarge => "OverflowError"
  | .crossedGroup => "SystemError"
  | _ => "ValueError"

end FormFill.Pattern

import FormFill.Text.Integer
import FormFill.Text.Quoted

/-!
# Faults of configuration documents

A document that breaks the rules of the format is malformed, whichever rule it is. The other faults
are those of values: an escape that names no character, scalars that do not denote what their tag or
their look says, and mappings that stand for a text which is looked for without end.
-/

namespace FormFill.Yaml

/-- What is wrong with a date or a time of day. -/
inductive MomentFault where
  | year
  | month
  | day
  | hour
  | minute
  | second
  /-- An offset of a day or more, in minutes. -/
  | offset (minutes : Int)
  deriving DecidableEq, Repr

/-- Why a document is not read. -/
inductive Fault where
  | malformed
  /-- An escape that names no character. -/
  | noSuchCharacter
  /-- An escape whose number is beyond all limits. -/
  | escapeTooLarge
  | notAnInteger (base : Nat) (text : Text)
  | tooManyDigits (count : Nat)
  | emptyNumber
  | notAReal (text : Text)
  /-- A place to the base sixty that is worth more than any real number. -/
  | placeTooLarge
  | notABool (text : Text)
  | notAMoment
  /-- A mapping where the text of a moment is wanted. -/
  | notAText
  /-- A mapping that stands for the value of its default key, which leads back to the mapping. -/
  | endlessText
  | impossibleMoment (fault : MomentFault)
  deriving DecidableEq, Repr

/-- The literal of a span of minutes, as days and seconds. -/
def spanLiteral (minutes : Int) : Text :=
  let days := minutes / 1440
  let seconds := minutes % 1440 * 60
  let parts : List Text :=
    (if days = 0 then [] else ["days=".toList ++ Text.ofInt days]) ++
    (if seconds = 0 then [] else ["seconds=".toList ++ Text.ofInt seconds])
  "datetime.timedelta(".toList ++
    (if parts.isEmpty then ['0'] else Text.joined [',', ' '] parts) ++ [')']

/-- The wording of a fault of a date or a time of day. -/
def MomentFault.message : MomentFault → Text
  | .year => "year 0 is out of range"
  | .month => "month must be in 1..12"
  | .day => "day is out of range for month"
  | .hour => "hour must be in 0..23"
  | .minute => "minute must be in 0..59"
  | .second => "second must be in 0..59"
  | .offset minutes =>
    ("offset must be a timedelta strictly between -timedelta(hours=24) and timedelta(hours=24), " ++
      "not ").toList ++ spanLiteral minutes ++ ['.']

/-- The length to which a literal is cut in a message. -/
def literalLimit : Nat := 200

/-- The wording of a fault. -/
def Fault.message : Fault → Text
  | .malformed => "malformed document"
  | .noSuchCharacter => "chr() arg not in range(0x110000)"
  | .escapeTooLarge => "Python int too large to convert to C int"
  | .notAnInteger base text =>
    "invalid literal for int() with base ".toList ++ Text.ofNat base ++ ':' :: ' ' ::
      (Text.quoted text).take literalLimit
  | .tooManyDigits count => (Text.tooManyDigitsMessage count).toList
  | .emptyNumber => "string index out of range"
  | .notAReal text => "could not convert string to float: ".toList ++ Text.quoted text
  | .placeTooLarge => "int too large to convert to float"
  | .notABool text => Text.quoted text
  | .notAText => "expected string or bytes-like object, got 'list'"
  | .endlessText => "maximum recursion depth exceeded"
  | .notAMoment => "'NoneType' object has no attribute 'groupdict'"
  | .impossibleMoment fault => fault.message

/-- The class of a fault, as it is shown before its wording. -/
def Fault.label : Fault → Text
  | .escapeTooLarge | .placeTooLarge => "OverflowError"
  | .notAText => "TypeError"
  | .endlessText => "RecursionError"
  | .emptyNumber => "IndexError"
  | .notABool _ => "KeyError"
  | .notAMoment => "AttributeError"
  | _ => "ValueError"

end FormFill.Yaml

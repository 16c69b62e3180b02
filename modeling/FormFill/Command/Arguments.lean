import FormFill.Disk

/-!
# Command line arguments

Arguments are options, which begin with two hyphens, and words. An option that takes a value takes it
from behind an equals sign or from the next argument, whatever that is. After a lone `--` all
arguments are words.
-/

namespace FormFill.Command

/-- The options that a command knows: those that take a value, and those that do not. -/
structure Known where
  valued : List Text
  plain : List Text

/-- The arguments of a command: the options with their values, the options without, and the words. -/
structure Arguments where
  values : List (Text × Text) := []
  plain : List Text := []
  words : List Text := []
  deriving DecidableEq, Repr

/-- What an argument looks like. -/
inductive Look where
  /-- The end of the options. -/
  | terminator
  | word
  | option (name : Text) (value : Option Text)

/-- The look of an argument: it is an option if it begins with a hyphen and is longer than that. -/
def lookOf (argument : Text) : Look :=
  match argument with
  | ['-', '-'] => .terminator
  | '-' :: _ :: _ =>
    match Text.splitAt? ['='] (fun _ => true) argument with
    | some (name, value) => .option name (some value)
    | none => .option argument none
  | _ => .word

/-- What is wrong with an option. -/
inductive OptionFault where
  | unknown
  | missingValue (name : Text)
  | superfluousValue (name : Text)
  deriving DecidableEq, Repr

namespace Arguments

/-- Reads the arguments of a command, up to the first fault of an option. If `interspersed` is false,
options end at the first word. -/
def read (known : Known) (interspersed : Bool) :
    (found : Arguments) → List Text → Except OptionFault Arguments
  | found, [] => .ok found
  | found, argument :: rest =>
    match lookOf argument with
    | .terminator => .ok { found with words := found.words ++ rest }
    | .word =>
      if interspersed then
        read known interspersed { found with words := found.words ++ [argument] } rest
      else .ok { found with words := found.words ++ argument :: rest }
    | .option name value? =>
      if name ∈ known.valued then
        match value?, rest with
        | some value, rest =>
          read known interspersed { found with values := found.values ++ [(name, value)] } rest
        | none, value :: rest =>
          read known interspersed { found with values := found.values ++ [(name, value)] } rest
        | none, [] => .error (.missingValue name)
      else if name ∈ known.plain then
        if value?.isSome then .error (.superfluousValue name)
        else read known interspersed { found with plain := found.plain ++ [name] } rest
      else .error .unknown

/-- The value of an option, of which the last one counts. -/
def value? (arguments : Arguments) (name : Text) : Option Text :=
  (arguments.values.reverse.find? (·.1 == name)).map (·.2)

/-- All values of an option. -/
def valuesOf (arguments : Arguments) (name : Text) : List Text :=
  (arguments.values.filter (·.1 == name)).map (·.2)

/-- Whether an option without a value is given. -/
def has (arguments : Arguments) (name : Text) : Bool := arguments.plain.contains name

end Arguments

end FormFill.Command

import FormFill.Command.Arguments

/-!
# Orders

An order is what a command line asks for: to parse a template or to fill it, with the locations of what
is needed. Files that are only read must be there before anything is done. A command line that is not
understood, and one that asks for help, is answered with a description of the usage.
-/

namespace FormFill.Command

/-- What is asked for with `parse`. -/
structure ParseOrder where
  template : Location
  dictionary : Location
  outputFolder : Location
  config : Option Location
  /-- The codes of blocks that are left out besides those of the configuration. -/
  excluded : List Text
  noOverwrite : Bool
  deriving DecidableEq, Repr

/-- What is asked for with `fill`. -/
structure FillOrder where
  template : Location
  dictionary : Location
  values : Location
  outputFolder : Location
  config : Option Location
  profile : Option Location
  /-- Whether values that fail their check are substituted all the same. -/
  allowInvalid : Bool
  noOverwrite : Bool
  deriving DecidableEq, Repr

/-- What a command line asks for. -/
inductive Order where
  | parse (order : ParseOrder)
  | fill (order : FillOrder)
  deriving DecidableEq, Repr

/-- Why a command line is not carried out: the usage was asked for, the line is not understood, or the
value of an option is missing or superfluous. -/
inductive Usage where
  | asked
  | misused
  | missingValue (name : Text)
  | superfluousValue (name : Text)
  deriving DecidableEq, Repr

/-- The exit code of a command line that is not carried out. -/
def Usage.exitCode : Usage → Nat
  | .asked => 0
  | _ => 2

/-- The line that tells what is wrong. Without one the usage is described. -/
def Usage.line? : Usage → Option Text
  | .asked | .misused => none
  | .missingValue name =>
    some ("Error: Option ".toList ++ Text.quoted name ++ " requires an argument.".toList)
  | .superfluousValue name =>
    some ("Error: Option ".toList ++ Text.quoted name ++ " does not take a value.".toList)

/-- What a fault of an option leads to. -/
def OptionFault.usage : OptionFault → Usage
  | .unknown => .misused
  | .missingValue name => .missingValue name
  | .superfluousValue name => .superfluousValue name

namespace Order

/-- The option that asks for help. -/
def help : Text := "--help"

/-- The options that precede the name of a command. -/
def knownFirst : Known := ⟨[], [help, "--install-completion".toList, "--show-completion".toList]⟩

/-- The options of `parse`. -/
def knownToParse : Known where
  valued := ["--template".toList, "--dictionary".toList, "--out-dir".toList, "--config".toList,
    "--exclude".toList]
  plain := ["--no-overwrite".toList, help]

/-- The options of `fill`. -/
def knownToFill : Known where
  valued := ["--template".toList, "--dictionary".toList, "--values".toList, "--out-dir".toList,
    "--config".toList, "--profile".toList]
  plain := ["--allow-invalid".toList, "--no-overwrite".toList, help]

/-- The file that an option names, if it is there. -/
def fileAt? (disk : Disk) (text : Text) : Option Location :=
  let location := Location.ofText text
  if Location.canNameFile text && disk.isFile location then some location else none

/-- The file that an option has to name. -/
def requiredFile (disk : Disk) (arguments : Arguments) (name : Text) : Except Usage Location :=
  match (arguments.value? name).bind (fileAt? disk) with
  | some location => .ok location
  | none => .error .misused

/-- The file that an option may name. -/
def optionalFile (disk : Disk) (arguments : Arguments) (name : Text) :
    Except Usage (Option Location) :=
  match arguments.value? name with
  | none => .ok none
  | some text =>
    match fileAt? disk text with
    | some location => .ok (some location)
    | none => .error .misused

/-- Reads the arguments of a command, which takes options only. -/
def arguments (known : Known) (rest : List Text) : Except Usage Arguments :=
  match Arguments.read known true {} rest with
  | .error fault => .error fault.usage
  | .ok arguments =>
    if arguments.has help then .error .asked
    else if arguments.words.isEmpty then .ok arguments
    else .error .misused

/-- The folder for the output, which is the working folder unless another is named. -/
def outputFolder (arguments : Arguments) : Location :=
  Location.ofText ((arguments.value? "--out-dir").getD [])

/-- The location of the configuration, if one is named. -/
def config? (arguments : Arguments) : Option Location :=
  (arguments.value? "--config").map Location.ofText

/-- Reads an order to parse. -/
def readParse (disk : Disk) (rest : List Text) : Except Usage ParseOrder := do
  let arguments ← arguments knownToParse rest
  pure {
    template := ← requiredFile disk arguments "--template"
    dictionary := ← requiredFile disk arguments "--dictionary"
    outputFolder := outputFolder arguments
    config := config? arguments
    excluded := arguments.valuesOf "--exclude"
    noOverwrite := arguments.has "--no-overwrite" }

/-- Reads an order to fill. -/
def readFill (disk : Disk) (rest : List Text) : Except Usage FillOrder := do
  let arguments ← arguments knownToFill rest
  pure {
    template := ← requiredFile disk arguments "--template"
    dictionary := ← requiredFile disk arguments "--dictionary"
    values := ← requiredFile disk arguments "--values"
    outputFolder := outputFolder arguments
    config := config? arguments
    profile := ← optionalFile disk arguments "--profile"
    allowInvalid := arguments.has "--allow-invalid"
    noOverwrite := arguments.has "--no-overwrite" }

/-- Reads a command line. -/
def read (disk : Disk) (line : List Text) : Except Usage Order := do
  match Arguments.read knownFirst false {} line with
  | .error fault => throw fault.usage
  | .ok first =>
    if first.has help then throw .asked
    match first.words with
    | name :: rest =>
      if name = "parse".toList then pure (.parse (← readParse disk rest))
      else if name = "fill".toList then pure (.fill (← readFill disk rest))
      else throw .misused
    | [] => throw .misused

end Order

end FormFill.Command

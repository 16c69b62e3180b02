import FormFill.Command.Order
import FormFill.Command.Output
import FormFill.Fault
import FormFill.Form.Summary
import FormFill.Text.Terminal

/-!
# Carrying out orders

A command line changes a disk, prints lines, and ends with an exit code: 0 if the order was carried out,
2 if values fail their check or the line is not understood, and 1 if anything else goes wrong. Input
texts may begin with a byte order mark, and their lines may end in any way.
-/

namespace FormFill.Command

/-- What is printed: lines, or a description of the usage. -/
inductive Printed where
  | lines (lines : List Text)
  | usage
  deriving DecidableEq, Repr

/-- What a command line leads to. -/
structure Outcome where
  exitCode : Nat
  printed : Printed
  disk : Disk
  deriving Repr

/-! ## Input -/

/-- Reads the text of a file. -/
def readText (disk : Disk) (location : Location) : Except Fault Text :=
  match disk.read location with
  | .error fault => .error (.disk fault)
  | .ok bytes =>
    match Utf8.decodeMarkedStream bytes with
    | .error fault => .error (.encoding fault)
    | .ok text => .ok (Text.withLineFeeds text)

/-- Reads a JSON document of some kind, which has to be an object. -/
def readObject (kind : Text) (disk : Disk) (location : Location) : Except Fault Json.Value := do
  let text ← readText disk location
  match Json.read text with
  | .error fault => throw (.json text fault)
  | .ok (.object members) => pure (.object members)
  | .ok _ => throw (.notAnObject kind)

/-- Reads the values of fields. -/
def readValues (disk : Disk) (location : Location) : Except Fault Values := do
  pure ((Values.ofJson? (← readObject "Values" disk location)).getD [])

/-- Reads a profile. -/
def readProfile (disk : Disk) (location : Location) : Except Fault Profile := do
  match Profile.ofJson (← readObject "Profile" disk location) with
  | .ok profile => pure profile
  | .error problems => throw (.profile problems)

/-- Reads the configuration at a location, or takes the shipped one. -/
def readConfig (disk : Disk) (location : Option Location) : Except Fault Config :=
  match location with
  | none => .ok .shipped
  | some location =>
    match disk.read location with
    | .error fault =>
      if fault.problem = .missing then .error (.config (.missing location.text))
      else .error (.disk fault)
    | .ok bytes =>
      match Config.ofBytes location.text bytes with
      | .ok config => .ok config
      | .error fault => .error (.config fault)

/-! ## Orders -/

/-- The line that refuses to overwrite files. -/
def overwriteRefusal : Text := "ERROR: outputs already exist and --no-overwrite is enabled."

/-- The line of a fault. -/
def faultLine (fault : Fault) : Text :=
  "ERROR: ".toList ++ fault.label ++ ": ".toList ++ fault.message

/-- The line after success. -/
def successLine : Text := "INFO: success"

/-- An outcome that leaves the disk as it is. -/
def refuse (disk : Disk) (line : Text) : Outcome := ⟨1, .lines [line], disk⟩

/-- The form that an order asks for. -/
def formOf (order : ParseOrder) (disk : Disk) : Except Fault Form := do
  let config ← readConfig disk order.config
  let template ← readText disk order.template
  let dictionary ← readText disk order.dictionary
  pure (Form.read template dictionary
    { config with excluded := config.excluded ++ order.excluded })

/-- Goes on unless files that must not be overwritten stand in a folder. If the name of the folder is too
long to tell, the command ends without a word. -/
def sparing (noOverwrite : Bool) (folder : Location) (artifacts : List Artifact) (disk : Disk)
    (goOn : Outcome) : Outcome :=
  if noOverwrite then
    match artifacts.mapM fun artifact => disk.holds? (artifact.location folder) with
    | none => ⟨1, .lines [], disk⟩
    | some found => if found.any id then refuse disk overwriteRefusal else goOn
  else goOn

/-- Carries out an order to parse. -/
def runParse (order : ParseOrder) (disk : Disk) : Outcome :=
  sparing order.noOverwrite order.outputFolder [.form] disk <|
    match formOf order disk with
    | .error fault => refuse disk (faultLine fault)
    | .ok form =>
      match writeForm order.outputFolder form disk with
      | (disk, some fault) => refuse disk (faultLine (.disk fault))
      | (disk, none) => ⟨0, .lines [form.summary, successLine], disk⟩

/-- What a fill order needs, or the fault that keeps it from being read. -/
structure FillInput where
  template : Text
  dictionary : Text
  values : Values
  config : Config
  profile : Option Profile

/-- Reads what a fill order needs. -/
def fillInput (order : FillOrder) (disk : Disk) : Except Fault FillInput := do
  let config ← readConfig disk order.config
  let values ← readValues disk order.values
  let profile ← order.profile.mapM (readProfile disk)
  let template ← readText disk order.template
  let dictionary ← readText disk order.dictionary
  pure {
    template
    dictionary
    values
    config := if order.allowInvalid then { config with blocking := false } else config
    profile }

/-- The lines that list messages by code. -/
def messageLines (errors : Table Text) : List Text :=
  (errors.mergeSort fun a b => Text.le a.1 b.1).map fun entry =>
    "  ".toList ++ entry.1 ++ ": ".toList ++ entry.2

/-- Reports values that keep a form from being filled. -/
def rejectValues (order : FillOrder) (errors : Table Text) (disk : Disk) : Outcome :=
  let (disk, fault?) := writeErrors order.outputFolder errors disk
  let failure := match fault? with
    | some fault => ["ERROR: write validation errors failed: ".toList ++ fault.message]
    | none => []
  ⟨2, .lines ("ERROR: validation failed".toList :: messageLines errors ++ failure), disk⟩

/-- Fills the form of a fill order. -/
def filledOf (release : Pattern.Release) (input : FillInput) : Except FillFault Filled :=
  Fill.run input.template input.dictionary input.values input.config input.profile release

/-- Carries out an order to fill. -/
def runFill (release : Pattern.Release) (order : FillOrder) (disk : Disk) : Outcome :=
  sparing order.noOverwrite order.outputFolder Artifact.all disk <|
    match fillInput order disk with
    | .error fault => refuse disk (faultLine fault)
    | .ok input =>
      match filledOf release input with
      | .error (.pattern fault) => refuse disk (faultLine (.pattern fault))
      | .error (.rejected errors _) => rejectValues order errors disk
      | .ok filled =>
        match writeFilled order.outputFolder filled disk with
        | (disk, some fault) =>
          refuse disk ("ERROR: write output failed: ".toList ++ fault.message)
        | (disk, none) => ⟨0, .lines [filled.summary, successLine], disk⟩

/-- Carries out an order. -/
def Order.run (release : Pattern.Release) : Order → Disk → Outcome
  | .parse order, disk => runParse order disk
  | .fill order, disk => runFill release order disk

/-- Carries out a command line. -/
def run (line : List Text) (disk : Disk) (release : Pattern.Release := .earlier) : Outcome :=
  match Order.read disk line with
  | .ok order => order.run release disk
  | .error usage =>
    let printed := match usage.line? with
      | some line => .lines [line]
      | none => .usage
    ⟨usage.exitCode, printed, disk⟩

/-- The text that is printed. Terminal sequences are left out of lines. -/
def Printed.text (usage : Text) : Printed → Text
  | .lines all => all.flatMap fun line => Text.withoutTerminalSequences line ++ ['\n']
  | .usage => usage

end FormFill.Command

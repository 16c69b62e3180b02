import FormFill.Disk
import FormFill.Fill
import FormFill.Json.Writer
import FormFill.Substitution.Payload

/-!
# Output files

A command writes up to four files with fixed names into one folder. Each is replaced as a whole; a
command that fails half way leaves what it has written so far.
-/

namespace FormFill

open Json (Value)

namespace Command

/-- The files that commands write. -/
inductive Artifact where
  | form
  | document
  | report
  | errors
  deriving DecidableEq, Repr

namespace Artifact

/-- The files in the order in which they are looked for. -/
def all : List Artifact := [.form, .document, .report, .errors]

/-- The name of a file. -/
def name : Artifact → Text
  | .form => "out.structure.json"
  | .document => "out.xml"
  | .report => "out.substitution_report.json"
  | .errors => "out.validation_errors.json"

/-- The location of a file in a folder. -/
def location (folder : Location) (artifact : Artifact) : Location := folder.child artifact.name

end Artifact

/-- A disk after some writing, and the fault that ended it, if one did. -/
abbrev Written := Disk × Option DiskFault

/-- Goes on writing unless a fault has ended it. -/
def Written.andThen (written : Written) (next : Disk → Written) : Written :=
  match written with
  | (disk, none) => next disk
  | (disk, some fault) => (disk, some fault)

/-- Makes the folder for the output. -/
def prepare (folder : Location) (disk : Disk) : Written :=
  match disk.makeFolders folder with
  | .ok disk => (disk, none)
  | .error fault => (disk, some fault)

/-- Writes a text to a file. -/
def writeText (folder : Location) (artifact : Artifact) (text : Text) (disk : Disk) : Written :=
  disk.replace (artifact.location folder) (Utf8.encode text)

/-- Writes a JSON value to a file. -/
def writeJson (folder : Location) (artifact : Artifact) (value : Value) (disk : Disk) : Written :=
  writeText folder artifact (Json.write value) disk

/-- Writes messages to the file for errors. -/
def writeMessages (folder : Location) (errors : Table Text) (disk : Disk) : Written :=
  writeJson folder .errors (.object [("errors".toList, messagesPayload errors)]) disk

/-- Writes the form of a template. -/
def writeForm (folder : Location) (form : Form) (disk : Disk) : Written :=
  (prepare folder disk).andThen (writeJson folder .form (form.payload none))

/-- Writes the messages of values that keep a form from being filled. -/
def writeErrors (folder : Location) (errors : Table Text) (disk : Disk) : Written :=
  (prepare folder disk).andThen (writeMessages folder errors)

/-- Writes a form that has been filled. Without messages the file for them is removed. -/
def writeFilled (folder : Location) (filled : Filled) (disk : Disk) : Written :=
  let written := (prepare folder disk).andThen (writeText folder .document filled.output.text)
  let written := written.andThen (writeJson folder .report filled.output.report.payload)
  written.andThen fun disk =>
    if filled.errors.isEmpty then disk.remove (Artifact.errors.location folder)
    else writeMessages folder filled.errors disk

end Command

end FormFill

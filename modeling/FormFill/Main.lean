import FormFill.Command.Reach
import FormFill.Command.Run
import FormFill.Disk.Change

/-!
# The command

The command takes note of what stands at the locations that the command line may lead to, carries the
command line out on that, and makes the same changes to the files.
-/

namespace FormFill.Command

/-- The description of the usage. -/
def usageText : Text :=
  Text.ofLines [
    "Usage: formfill COMMAND [OPTIONS]",
    "",
    "  parse  --template FILE --dictionary FILE [--out-dir FOLDER] [--config FILE]",
    "         [--exclude CODE]... [--no-overwrite]",
    "  fill   --template FILE --dictionary FILE --values FILE [--out-dir FOLDER]",
    "         [--config FILE] [--profile FILE] [--allow-invalid] [--no-overwrite]",
    ""]

/-- The text that names a location to the operating system. -/
def nameOf (location : Location) : String := String.ofList location.text

/-- What stands at a location. -/
def look (location : Location) : IO (Option DiskEntry) := do
  try
    return some (.file (← IO.FS.readBinFile (nameOf location)).toList)
  catch error =>
    match error with
    | .inappropriateType _ code _ => return if code = 21 then some .folder else none
    | _ => return none

/-- Takes note of what stands at a location. -/
def observe (disk : Disk) (location : Location) : IO Disk := do
  match ← look location with
  | some entry => return disk.set (pathOf location) entry
  | none => return disk

/-- Makes a change to the files of the machine. -/
def perform : DiskChange → IO Unit
  | .makeFolder path => IO.FS.createDirAll (nameOf ⟨path⟩)
  | .write path bytes => do
    let draft := nameOf (Disk.temporary ⟨path⟩)
    IO.FS.writeBinFile draft ⟨bytes.toArray⟩
    IO.FS.rename draft (nameOf ⟨path⟩)
  | .remove path => IO.FS.removeFile (nameOf ⟨path⟩)

/-- Carries out a command line on the files of the machine. -/
def execute (line : List Text) : IO UInt32 := do
  let before ← ((reach line).flatMap wayTo).foldlM observe (⟨[]⟩ : Disk)
  let outcome := run line before
  for change in before.changes outcome.disk do
    perform change
  IO.print (String.ofList (outcome.printed.text usageText))
  return outcome.exitCode.toUInt32

end FormFill.Command

/-- The command. -/
def main (arguments : List String) : IO UInt32 :=
  FormFill.Command.execute (arguments.map (·.toList))

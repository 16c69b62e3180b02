import FormFill.Command.Output
import FormFill.Proofs.Disk

/-!
# What is read from the output

The output files have different names, so each write leaves the other files as they were. If the folder can
be made and nothing but files stands where the output goes, then a fill that succeeds leaves its document
and its report, and one whose values fail their check leaves their messages.
-/

namespace FormFill.Command

/-- The messages of values as they are kept. -/
def keptMessages (errors : Table Text) : Json.Value :=
  .object [("errors".toList, messagesPayload errors)]

/-- Where the files of a fill go, nothing but files stands, and they can be written there. -/
structure Writable (folder : Location) (artifacts : List Artifact) (disk : Disk) : Prop where
  file : ∀ artifact ∈ artifacts, ∃ path, disk.resolve (artifact.location folder) = .ok path ∧
    disk.get? path ≠ some .folder
  draft : ∀ artifact ∈ artifacts, ∃ path,
    disk.resolve (Disk.temporary (artifact.location folder)) = .ok path

variable {folder : Location} {artifacts : List Artifact} {disk before after : Disk}
  {artifact : Artifact}

theorem Artifact.plainName (artifact : Artifact) :
    Location.isRoot artifact.name = false ∧ artifact.name ≠ Disk.upward := by
  cases artifact <;> decide

theorem Artifact.name_injective {first second : Artifact} (h : first.name = second.name) :
    first = second := by
  cases first <;> cases second <;> first | rfl | exact absurd h (by decide)

/-- Two output files of a folder are never the same file. -/
theorem Artifact.eq_of_resolve {first second : Artifact} {path : List Text}
    (hfirst : disk.resolve (first.location folder) = .ok path)
    (hsecond : disk.resolve (second.location folder) = .ok path) : first = second := by
  obtain ⟨around, rfl⟩ := Disk.exists_resolve_child first.plainName.1 first.plainName.2 hfirst
  obtain ⟨around', heq⟩ := Disk.exists_resolve_child second.plainName.1 second.plainName.2 hsecond
  exact name_injective (by simpa using List.append_inj_right' heq rfl)

/-- A change to one output file: those that go on being written can be written, and those that are others
are read as before. -/
structure Touches (folder : Location) (artifacts : List Artifact) (artifact : Artifact)
    (before after : Disk) : Prop where
  writable : Writable folder artifacts after
  others : ∀ other ∈ artifacts, other ≠ artifact →
    after.read (other.location folder) = before.read (other.location folder)

theorem Writable.touches (h : Writable folder artifacts before) {path : List Text}
    (hpath : before.resolve (artifact.location folder) = .ok path)
    (hchange : Disk.ChangesOnly path before after) (hafter : after.get? path ≠ some .folder) :
    Touches folder artifacts artifact before after where
  writable := {
    file := by
      intro other hmem
      obtain ⟨otherPath, hother, hfile⟩ := h.file other hmem
      refine ⟨otherPath, hchange.resolve hother, ?_⟩
      by_cases heq : otherPath = path
      · rwa [heq]
      · rwa [hchange.elsewhere otherPath heq]
    draft := by
      intro other hmem
      obtain ⟨draft, hdraft⟩ := h.draft other hmem
      exact ⟨draft, hchange.resolve hdraft⟩ }
  others := by
    intro other hmem hne
    obtain ⟨otherPath, hother, -⟩ := h.file other hmem
    refine hchange.read_eq_of_ne hother ?_
    rintro rfl
    exact hne (Artifact.eq_of_resolve hother hpath)

/-- A text that is written to an output file is read from it. -/
theorem Writable.exists_writeText (h : Writable folder artifacts disk) (artifact : Artifact)
    (hmem : artifact ∈ artifacts) (text : Text) : ∃ after, writeText folder artifact text disk = (after, none) ∧
      after.read (artifact.location folder) = .ok (Utf8.encode text) ∧
      Touches folder artifacts artifact disk after := by
  obtain ⟨path, hpath, hfile⟩ := h.file artifact hmem
  obtain ⟨draft, hdraft⟩ := h.draft artifact hmem
  have hchange := Disk.changesOnly_set hfile (.file (Utf8.encode text))
  have hwritten := Disk.get?_set_self (Disk.isGiven_eq_false hfile) disk (.file (Utf8.encode text))
  exact ⟨_, Disk.replace_eq hdraft hpath hfile _, Disk.read_eq_ok (hchange.resolve hpath) hwritten,
    h.touches hpath hchange (by simp [hwritten])⟩

/-- An output file that has been removed is missing. -/
theorem Writable.exists_remove (h : Writable folder artifacts disk) (artifact : Artifact)
    (hmem : artifact ∈ artifacts) : ∃ after, disk.remove (artifact.location folder) = (after, none) ∧
      after.read (artifact.location folder) =
        .error { problem := .missing, location := artifact.location folder } ∧
      Touches folder artifacts artifact disk after := by
  obtain ⟨path, hpath, hfile⟩ := h.file artifact hmem
  obtain ⟨after, hremove, hnone, hchange⟩ := Disk.exists_remove hpath hfile
  exact ⟨after, hremove, Disk.read_eq_missing (hchange.resolve hpath) hnone,
    h.touches hpath hchange (by simp [hnone])⟩

/-- The files that a fill may write. -/
def fillArtifacts : List Artifact := [.document, .report, .errors]

/-- A folder for output can be made on a disk, and the files of a fill can be written to it. -/
def Receives (folder : Location) (disk : Disk) : Prop :=
  ∃ made, prepare folder disk = (made, none) ∧ Writable folder fillArtifacts made

/-- Output files of the working folder can be written unless folders with their names are in the way. -/
theorem writable_here (hfree : ∀ artifact ∈ artifacts, disk.get? [artifact.name] ≠ some .folder) :
    Writable ⟨[]⟩ artifacts disk where
  file := by
    intro artifact hmem
    refine ⟨[artifact.name], ?_, hfree artifact hmem⟩
    exact Disk.resolve_name disk artifact.plainName.1 artifact.plainName.2
      (by cases artifact <;> decide) (by cases artifact <;> decide)
  draft := by
    intro artifact _
    refine ⟨[artifact.name ++ ".*.tmp".toList], ?_⟩
    cases artifact <;> exact Disk.resolve_name disk (by decide) (by decide) (by decide) (by decide)

/-- The working folder receives the output unless folders with the names of the files are in the way. -/
theorem receives_here
    (hfree : ∀ artifact ∈ fillArtifacts, disk.get? [artifact.name] ≠ some .folder) :
    Receives ⟨[]⟩ disk := by
  refine ⟨disk, ?_, writable_here hfree⟩
  have hresolve : disk.resolve ⟨[]⟩ = .ok [] := rfl
  have hfolder : disk.get? [] = some .folder := by simp [Disk.get?, Disk.isGiven]
  simp [prepare, Disk.makeFolders, Disk.makeAll, Disk.makeOrKeep, Disk.makeOne, hresolve, hfolder,
    Disk.isFolder, Disk.at?]

/-- A form that has been filled leaves its document and its report. If values have failed their check there
are their messages, and else there are none. -/
theorem Receives.exists_writeFilled (h : Receives folder disk) (filled : Filled) :
    ∃ after, writeFilled folder filled disk = (after, none) ∧
      after.read (Artifact.document.location folder) = .ok (Utf8.encode filled.output.text) ∧
      after.read (Artifact.report.location folder) =
        .ok (Utf8.encode (Json.write filled.output.report.payload)) ∧
      after.read (Artifact.errors.location folder) =
        if filled.errors.isEmpty then
          .error { problem := .missing, location := Artifact.errors.location folder }
        else .ok (Utf8.encode (Json.write (keptMessages filled.errors))) := by
  obtain ⟨made, hprepare, hmade⟩ := h
  obtain ⟨first, hdocument, hreadDocument, hfirst⟩ :=
    hmade.exists_writeText .document (by decide) filled.output.text
  obtain ⟨second, hreport, hreadReport, hsecond⟩ :=
    hfirst.writable.exists_writeText .report (by decide)
      (Json.write filled.output.report.payload)
  have hwriting : writeFilled folder filled disk =
      if filled.errors.isEmpty then second.remove (Artifact.errors.location folder)
      else writeMessages folder filled.errors second := by
    simp only [writeFilled, hprepare, Written.andThen, hdocument, writeJson, hreport]
  -- Whatever becomes of the messages, the document and the report stay.
  have hstay : ∀ {after : Disk}, Touches folder fillArtifacts .errors second after →
      after.read (Artifact.document.location folder) = .ok (Utf8.encode filled.output.text) ∧
      after.read (Artifact.report.location folder) =
        .ok (Utf8.encode (Json.write filled.output.report.payload)) := by
    intro after hafter
    rw [hafter.others .document (by decide) (by decide),
      hsecond.others .document (by decide) (by decide),
      hafter.others .report (by decide) (by decide)]
    exact ⟨hreadDocument, hreadReport⟩
  rw [hwriting]
  split
  next =>
    obtain ⟨after, hremove, hmissing, hafter⟩ :=
      hsecond.writable.exists_remove .errors (by decide)
    exact ⟨after, hremove, (hstay hafter).1, (hstay hafter).2, hmissing⟩
  next =>
    obtain ⟨after, hmessages, hread, hafter⟩ :=
      hsecond.writable.exists_writeText .errors (by decide)
        (Json.write (keptMessages filled.errors))
    exact ⟨after, hmessages, (hstay hafter).1, (hstay hafter).2, hread⟩

/-- Values that fail their check leave their messages. -/
theorem Receives.exists_writeErrors (h : Receives folder disk) (errors : Table Text) :
    ∃ after, writeErrors folder errors disk = (after, none) ∧
      after.read (Artifact.errors.location folder) =
        .ok (Utf8.encode (Json.write (keptMessages errors))) := by
  obtain ⟨made, hprepare, hmade⟩ := h
  obtain ⟨after, hmessages, hread, -⟩ :=
    hmade.exists_writeText .errors (by decide) (Json.write (keptMessages errors))
  refine ⟨after, ?_, hread⟩
  rw [writeErrors, hprepare]
  exact hmessages

end FormFill.Command

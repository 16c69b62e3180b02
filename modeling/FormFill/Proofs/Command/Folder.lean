import FormFill.Proofs.Command.Output

/-!
# The folder for output

A folder for output that can be written to leads to a path. Making it, if it is not there, does nothing to
the output files, and each write or removal changes what stands in the place of one output file. So whatever
a run writes is known by what stands in the places of all output files.
-/

namespace FormFill.Command

/-- What stands in the place of an output file in the folder at a path. -/
def standing (root : List Text) (disk : Disk) (artifact : Artifact) : Option DiskEntry :=
  disk.get? (root ++ [artifact.name])

/-- A folder that leads to a path and in which all output files can be written. -/
structure Opens (root : List Text) (folder : Location) (disk : Disk) : Prop
    extends Writable folder Artifact.all disk where
  leads : ∀ artifact : Artifact, disk.resolve (artifact.location folder) = .ok (root ++ [artifact.name])

/-- A folder for output that leads to a path and can be written to: it is there, or it can be made and no
output files are in it yet. -/
inductive Ready (root : List Text) (folder : Location) (disk : Disk) : Prop where
  | there (hopens : Opens root folder disk)
  | toBeMade {made : Disk} (hprepare : prepare folder disk = (made, none))
    (hopens : Opens root folder made) (hempty : ∀ artifact, standing root disk artifact = none)

/-- A change to one output file at most, and what stands there then. -/
structure Puts (root : List Text) (artifact : Artifact) (held? : Option DiskEntry)
    (before after : Disk) : Prop where
  here : standing root after artifact = held?
  elsewhere : ∀ other, other ≠ artifact → standing root after other = standing root before other

variable {root : List Text} {folder : Location} {disk before after : Disk} {artifact : Artifact}

theorem Artifact.mem_all (artifact : Artifact) : artifact ∈ all := by
  cases artifact <;> decide

namespace Opens

theorem not_folder (h : Opens root folder disk) (artifact : Artifact) :
    standing root disk artifact ≠ some .folder := by
  obtain ⟨path, hpath, hfile⟩ := h.file artifact artifact.mem_all
  obtain rfl := Except.ok.inj ((h.leads artifact).symm.trans hpath)
  exact hfile

/-- A change to an output file leaves the folder open and the other output files as they were. -/
theorem changed (h : Opens root folder before) {held? : Option DiskEntry}
    (hchange : Disk.ChangesOnly (root ++ [artifact.name]) before after)
    (hafter : standing root after artifact = held?) (hheld : held? ≠ some .folder) :
    Opens root folder after ∧ Puts root artifact held? before after := by
  have hfile : after.get? (root ++ [artifact.name]) ≠ some .folder := by
    rw [← standing, hafter]
    exact hheld
  refine ⟨⟨(h.touches (h.leads artifact) hchange hfile).writable,
    fun other => hchange.resolve (h.leads other)⟩, hafter, fun other hne => ?_⟩
  refine hchange.elsewhere _ fun heq => hne (Artifact.name_injective ?_)
  exact List.singleton_inj.mp (List.append_cancel_left heq)

theorem exists_writeText (h : Opens root folder disk) (artifact : Artifact) (text : Text) :
    ∃ after, writeText folder artifact text disk = (after, none) ∧ Opens root folder after ∧
      Puts root artifact (some (.file (Utf8.encode text))) disk after := by
  obtain ⟨draft, hdraft⟩ := h.draft artifact artifact.mem_all
  have hfile := h.not_folder artifact
  exact ⟨_, Disk.replace_eq hdraft (h.leads artifact) hfile _,
    h.changed (Disk.changesOnly_set hfile _)
      (Disk.get?_set_self (Disk.isGiven_eq_false hfile) disk _) (by simp)⟩

theorem exists_remove (h : Opens root folder disk) (artifact : Artifact) :
    ∃ after, disk.remove (artifact.location folder) = (after, none) ∧ Opens root folder after ∧
      Puts root artifact none disk after := by
  obtain ⟨after, hremove, hnone, hchange⟩ :=
    Disk.exists_remove (h.leads artifact) (h.not_folder artifact)
  exact ⟨after, hremove, h.changed hchange hnone (by simp)⟩

end Opens

/-- A folder that is there need not be made. -/
theorem Opens.prepare_eq (h : Opens root folder disk) : prepare folder disk = (disk, none) := by
  obtain ⟨around, hfolder, hthere⟩ :=
    Disk.exists_folder_of_resolve_child Artifact.form.plainName.1 (h.leads .form)
  have hone : disk.makeOne folder = .error .exists := by
    simp only [Disk.makeOne, hfolder, hthere]
  have hkeep : disk.makeOrKeep folder = .ok disk := by
    simp [Disk.makeOrKeep, hone, Disk.isFolder, Disk.at?, hfolder, hthere]
  have hall : disk.makeFolders folder = .ok disk := by
    unfold Disk.makeFolders
    cases folder.parts.length with
    | zero => exact hkeep
    | succ fuel =>
        rw [Disk.makeAll, hone]
        exact hkeep
  rw [prepare, hall]

/-- Making the folder does nothing to the output files. -/
theorem Ready.exists_made (h : Ready root folder disk) :
    ∃ made, prepare folder disk = (made, none) ∧ Opens root folder made ∧
      ∀ artifact, standing root made artifact = standing root disk artifact := by
  cases h with
  | there hopens => exact ⟨disk, hopens.prepare_eq, hopens, fun _ => rfl⟩
  | @toBeMade made hprepare hopens hempty =>
      refine ⟨made, hprepare, hopens, fun artifact => ?_⟩
      have hadds : Disk.AddsFolders disk made := by
        unfold prepare at hprepare
        split at hprepare
        next hall =>
          obtain rfl := (Prod.mk.inj hprepare).1
          exact Disk.addsFolders_makeAll hall
        next => cases (Prod.mk.inj hprepare).2
      rcases hadds (root ++ [artifact.name]) with hsame | ⟨-, hfolder⟩
      · exact hsame
      · exact absurd hfolder (hopens.not_folder artifact)

/-- An output file that is not found is not there. -/
theorem Ready.standing_eq_none (h : Ready root folder disk)
    (hfound : disk.holds? (artifact.location folder) = some false) :
    standing root disk artifact = none := by
  cases h with
  | there hopens => simpa [Disk.holds?, hopens.leads artifact, standing] using hfound
  | toBeMade hprepare hopens hempty => exact hempty artifact

/-- After the folder has been made, an output file can be written to it. -/
theorem Ready.exists_put (h : Ready root folder before) (artifact : Artifact) (text : Text) :
    ∃ made after, prepare folder before = (made, none) ∧
      writeText folder artifact text made = (after, none) ∧ Opens root folder after ∧
      Puts root artifact (some (.file (Utf8.encode text))) before after := by
  obtain ⟨made, hprepare, hopens, hmade⟩ := h.exists_made
  obtain ⟨after, hwrite, hafter, hputs⟩ := hopens.exists_writeText artifact text
  exact ⟨made, after, hprepare, hwrite, hafter, hputs.here,
    fun other hne => (hputs.elsewhere other hne).trans (hmade other)⟩

theorem Ready.exists_writeForm (h : Ready root folder before) (form : Form) :
    ∃ after, writeForm folder form before = (after, none) ∧ Opens root folder after ∧
      Puts root .form (some (.file (Utf8.encode (Json.write (form.payload none))))) before after := by
  obtain ⟨made, after, hprepare, hwrite, hafter, hputs⟩ :=
    h.exists_put .form (Json.write (form.payload none))
  refine ⟨after, ?_, hafter, hputs⟩
  rw [writeForm, hprepare]
  exact hwrite

theorem Ready.exists_writeErrors (h : Ready root folder before) (errors : Table Text) :
    ∃ after, writeErrors folder errors before = (after, none) ∧ Opens root folder after ∧
      Puts root .errors (some (.file (Utf8.encode (Json.write (keptMessages errors)))))
        before after := by
  obtain ⟨made, after, hprepare, hwrite, hafter, hputs⟩ :=
    h.exists_put .errors (Json.write (keptMessages errors))
  refine ⟨after, ?_, hafter, hputs⟩
  rw [writeErrors, hprepare]
  exact hwrite

/-- A form that has been filled leaves its document, its report and its messages, if there are any. -/
theorem Ready.exists_writeFilled (h : Ready root folder before) (filled : Filled) :
    ∃ after, writeFilled folder filled before = (after, none) ∧ Opens root folder after ∧
      standing root after .document = some (.file (Utf8.encode filled.output.text)) ∧
      standing root after .report =
        some (.file (Utf8.encode (Json.write filled.output.report.payload))) ∧
      standing root after .errors = (if filled.errors.isEmpty then none
        else some (.file (Utf8.encode (Json.write (keptMessages filled.errors))))) ∧
      standing root after .form = standing root before .form := by
  obtain ⟨made, hprepare, hopens, hmade⟩ := h.exists_made
  obtain ⟨first, hdocument, hfirst, hputsFirst⟩ :=
    hopens.exists_writeText .document filled.output.text
  obtain ⟨second, hreport, hsecond, hputsSecond⟩ :=
    hfirst.exists_writeText .report (Json.write filled.output.report.payload)
  -- The messages are written or removed last.
  obtain ⟨after, hmessages, hafter, hputs⟩ : ∃ after,
      (if filled.errors.isEmpty then second.remove (Artifact.errors.location folder)
        else writeMessages folder filled.errors second) = (after, none) ∧
      Opens root folder after ∧ Puts root .errors (if filled.errors.isEmpty then none
        else some (.file (Utf8.encode (Json.write (keptMessages filled.errors))))) second after := by
    split
    next =>
      exact hsecond.exists_remove .errors
    next =>
      exact hsecond.exists_writeText .errors (Json.write (keptMessages filled.errors))
  refine ⟨after, ?_, hafter, ?_, ?_, hputs.here, ?_⟩
  · simp only [writeFilled, hprepare, Written.andThen, hdocument, writeJson, hreport]
    exact hmessages
  · rw [hputs.elsewhere _ (by decide), hputsSecond.elsewhere _ (by decide), hputsFirst.here]
  · rw [hputs.elsewhere _ (by decide), hputsSecond.here]
  · rw [hputs.elsewhere _ (by decide), hputsSecond.elsewhere _ (by decide),
      hputsFirst.elsewhere _ (by decide), hmade]

/-- The working folder is there, and can be written to unless folders are in the way. -/
theorem opens_here (hfree : ∀ artifact, standing [] disk artifact ≠ some .folder) :
    Opens [] ⟨[]⟩ disk where
  toWritable := writable_here fun artifact _ => hfree artifact
  leads artifact := Disk.resolve_name disk artifact.plainName.1 artifact.plainName.2
    (by cases artifact <;> decide) (by cases artifact <;> decide)

end FormFill.Command

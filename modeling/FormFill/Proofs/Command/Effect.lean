import FormFill.Command.Run
import FormFill.Proofs.Command.Folder

/-!
# What orders do to the output

An order fails and leaves the disk as it was, or it parses a form, rejects values, or fills a form, and then
puts into the folder what that says. An order that must not overwrite files finds none before it writes.
-/

namespace FormFill.Command

variable {release : Pattern.Release} {root : List Text} {disk before : Disk}

theorem eq_false_of_mapM {α : Type} {test : α → Option Bool} {items : List α} {found : List Bool}
    (h : items.mapM test = some found) (hfound : found.any id = false) :
    ∀ item ∈ items, test item = some false := by
  induction items generalizing found with
  | nil => simp
  | cons item rest ih =>
      simp only [List.mapM_cons, Option.pure_def, Option.bind_eq_bind, Option.bind_eq_some_iff,
        Option.some.injEq] at h
      obtain ⟨first, hfirst, others, hothers, rfl⟩ := h
      rw [List.any_cons, Bool.or_eq_false_iff] at hfound
      exact List.forall_mem_cons.mpr ⟨hfound.1 ▸ hfirst, ih hothers hfound.2⟩

/-- An order that must not overwrite files fails and leaves all as it was, or none of them is found. -/
theorem sparing_cases (noOverwrite : Bool) (folder : Location) (artifacts : List Artifact)
    (disk : Disk) (goOn : Outcome) :
    (sparing noOverwrite folder artifacts disk goOn).exitCode = 1 ∧
        (sparing noOverwrite folder artifacts disk goOn).disk = disk ∨
      sparing noOverwrite folder artifacts disk goOn = goOn ∧ (noOverwrite = true →
        ∀ artifact ∈ artifacts, disk.holds? (artifact.location folder) = some false) := by
  unfold sparing
  split
  next =>
    split
    next => exact Or.inl ⟨rfl, rfl⟩
    next found hfound =>
      split
      next => exact Or.inl ⟨rfl, rfl⟩
      next hnone => exact Or.inr ⟨rfl, fun _ => eq_false_of_mapM hfound (by simpa using hnone)⟩
  next hspares => exact Or.inr ⟨rfl, fun hspared => absurd hspared hspares⟩

namespace Order

/-- The folder for the output of an order. -/
def destination : Order → Location
  | .parse order => order.outputFolder
  | .fill order => order.outputFolder

/-- Whether an order must not overwrite output files. -/
def isSparing : Order → Bool
  | .parse order => order.noOverwrite
  | .fill order => order.noOverwrite

/-- Whether an order is one to fill a form. -/
def isFill : Order → Bool
  | .parse _ => false
  | .fill _ => true

/-- What a fill comes to, if the order is one to fill a form and what it needs can be read. -/
def fillResult? (release : Pattern.Release) : Order → Disk → Option (Except FillFault Filled)
  | .parse _, _ => none
  | .fill order, disk => (fillInput order disk).toOption.map (filledOf release)

theorem isFill_of_fillResult? {order : Order} {result : Except FillFault Filled}
    (h : order.fillResult? release disk = some result) : order.isFill = true := by
  cases order with
  | parse order => cases h
  | fill order => rfl

end Order

/-- What an order does to the output files, by its outcome. -/
inductive Effect (release : Pattern.Release) (root : List Text) (order : Order) (before : Disk)
    (outcome : Outcome) : Prop where
  | failed (hexit : outcome.exitCode = 1) (hsame : outcome.disk = before)
  | parsed (horder : order.isFill = false) (hexit : outcome.exitCode = 0)
    (hopens : Opens root order.destination outcome.disk)
    (hspared : order.isSparing = true → standing root before .form = none)
    {held? : Option DiskEntry} (hputs : Puts root .form held? before outcome.disk)
  | rejected {errors : Table Text} {form : Form}
    (hresult : order.fillResult? release before = some (.error (.rejected errors form)))
    (hexit : outcome.exitCode = 2) (hopens : Opens root order.destination outcome.disk)
    (hspared : order.isSparing = true → ∀ artifact, standing root before artifact = none)
    (hputs : Puts root .errors (some (.file (Utf8.encode (Json.write (keptMessages errors)))))
      before outcome.disk)
  | filled {filled : Filled} (hresult : order.fillResult? release before = some (.ok filled))
    (hexit : outcome.exitCode = 0) (hopens : Opens root order.destination outcome.disk)
    (hspared : order.isSparing = true → ∀ artifact, standing root before artifact = none)
    (hdocument : standing root outcome.disk .document =
      some (.file (Utf8.encode filled.output.text)))
    (hreport : standing root outcome.disk .report =
      some (.file (Utf8.encode (Json.write filled.output.report.payload))))
    (herrors : standing root outcome.disk .errors = if filled.errors.isEmpty then none
      else some (.file (Utf8.encode (Json.write (keptMessages filled.errors)))))
    (hform : standing root outcome.disk .form = standing root before .form)

theorem runParse_effect (order : ParseOrder) (h : Ready root order.outputFolder before) :
    Effect release root (.parse order) before (runParse order before) := by
  unfold runParse
  rcases sparing_cases order.noOverwrite order.outputFolder [.form] before _ with
    ⟨hexit, hsame⟩ | ⟨hgoOn, hspared⟩
  · exact .failed hexit hsame
  · rw [hgoOn]
    cases formOf order before with
    | error fault => exact .failed rfl rfl
    | ok form =>
        obtain ⟨after, hwritten, hopens, hputs⟩ := h.exists_writeForm form
        simp only [hwritten]
        exact .parsed rfl rfl hopens
          (fun hsparing => h.standing_eq_none (hspared hsparing .form List.mem_cons_self)) hputs

theorem runFill_effect (order : FillOrder) (h : Ready root order.outputFolder before) :
    Effect release root (.fill order) before (runFill release order before) := by
  unfold runFill
  rcases sparing_cases order.noOverwrite order.outputFolder Artifact.all before _ with
    ⟨hexit, hsame⟩ | ⟨hgoOn, hspared⟩
  · exact .failed hexit hsame
  · rw [hgoOn]
    have hnone : order.noOverwrite = true → ∀ artifact, standing root before artifact = none :=
      fun hsparing artifact => h.standing_eq_none (hspared hsparing artifact artifact.mem_all)
    -- Nothing has been written yet, whatever cannot be read.
    cases hinput : fillInput order before with
    | error fault => exact .failed rfl rfl
    | ok input =>
        have hresult : Order.fillResult? release (.fill order) before = some (filledOf release input) := by
          simp only [Order.fillResult?, hinput, Except.toOption, Option.map_some]
        dsimp only
        cases hfilled : filledOf release input with
        | error fault =>
            cases fault with
            | pattern fault => exact .failed rfl rfl
            | rejected errors form =>
                obtain ⟨after, hwritten, hopens, hputs⟩ := h.exists_writeErrors errors
                simp only [rejectValues, hwritten]
                exact .rejected (hfilled ▸ hresult) rfl hopens hnone hputs
        | ok filled =>
            obtain ⟨after, hwritten, hopens, hdocument, hreport, herrors, hform⟩ :=
              h.exists_writeFilled filled
            simp only [hwritten]
            exact .filled (hfilled ▸ hresult) rfl hopens hnone hdocument hreport herrors hform

theorem Order.effect (order : Order) (h : Ready root order.destination before) :
    Effect release root order before (order.run release before) := by
  cases order with
  | parse order => exact runParse_effect order h
  | fill order => exact runFill_effect order h

/-- An order leaves a folder that it can write to so. -/
theorem Effect.ready {order : Order} {outcome : Outcome} (h : Effect release root order before outcome)
    (hready : Ready root order.destination before) :
    Ready root order.destination outcome.disk := by
  cases h with
  | failed hexit hsame => exact hsame ▸ hready
  | parsed _ _ hopens | rejected _ _ hopens | filled _ _ hopens => exact .there hopens

/-- Values are rejected for what has been found about them. -/
theorem not_isEmpty_of_rejected {order : Order} {errors : Table Text} {form : Form}
    (h : order.fillResult? release disk = some (.error (.rejected errors form))) :
    errors.isEmpty = false := by
  cases order with
  | parse order => cases h
  | fill order =>
      obtain ⟨input, -, hresult⟩ := Option.map_eq_some_iff.mp h
      unfold filledOf Fill.run at hresult
      dsimp only at hresult
      split at hresult
      next => cases hresult
      next findings hfindings =>
        split at hresult
        next hblocked =>
          obtain ⟨rfl, -⟩ := FillFault.rejected.inj (Except.error.inj hresult)
          simp only [Bool.and_eq_true, Bool.not_eq_true'] at hblocked
          exact hblocked.1
        next => cases hresult

end FormFill.Command

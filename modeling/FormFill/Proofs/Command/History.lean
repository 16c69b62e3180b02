import FormFill.Proofs.Command.Effect

/-!
# Runs of the command on one folder

One command line after the other is carried out with the output in one folder, which is empty at first.
Each run that succeeds or rejects values replaces the output files that it is about; a run that fails leaves
all of them. So the document and the report always are those of the latest fill that succeeded, and the
messages those of the latest fill whose values were checked.
-/

namespace FormFill.Command

variable {root : List Text} {disk : Disk}

/-- A command line that is understood, carried out on a disk. -/
structure Run where
  line : List Text
  before : Disk
  order : Order
  read : Order.read before line = .ok order
  /-- The release of the pattern language that is in use. -/
  release : Pattern.Release := .earlier

namespace Run

/-- What a run leads to. -/
def outcome (run : Run) : Outcome := Command.run run.line run.before run.release

/-- Whether a run fills a form. -/
def succeeds (run : Run) : Bool := run.order.isFill && run.outcome.exitCode == 0

/-- Whether a run checks values: it fills a form, or rejects the values for it. -/
def decides (run : Run) : Bool :=
  run.order.isFill && (run.outcome.exitCode == 0 || run.outcome.exitCode == 2)

/-- What a fill comes to, if the run is a fill and what it needs can be read. -/
def result? (run : Run) : Option (Except FillFault Filled) := run.order.fillResult? run.release run.before

/-- The messages of values that fail their check in a run, whether or not they keep the form from being
filled. -/
def Finds (run : Run) (errors : Table Text) : Prop :=
  (∃ filled, run.result? = some (.ok filled) ∧ filled.errors = errors) ∨
    ∃ form, run.result? = some (.error (.rejected errors form))

/-- What a run leaves as it was in the folder at a path. -/
structure Spares (root : List Text) (run : Run) : Prop where
  failed : run.outcome.exitCode = 1 → ∀ artifact,
    standing root run.outcome.disk artifact = standing root run.before artifact
  rejected : run.order.isFill = true → run.outcome.exitCode = 2 → ∀ artifact, artifact ≠ .errors →
    standing root run.outcome.disk artifact = standing root run.before artifact
  fill : run.order.isFill = true →
    standing root run.outcome.disk .form = standing root run.before .form
  parse : run.order.isFill = false → ∀ artifact, artifact ≠ .form →
    standing root run.outcome.disk artifact = standing root run.before artifact
  sparing : run.order.isSparing = true → ∀ artifact, standing root run.before artifact ≠ none →
    standing root run.outcome.disk artifact = standing root run.before artifact

end Run

/-- Runs with the output in the folder at a path, the latest first, and the disk after them. The folder is
empty at first, and each run can write to it. Between two runs anything else may change. -/
inductive History (root : List Text) : List Run → Disk → Prop where
  | start {disk : Disk} (hempty : ∀ artifact, standing root disk artifact = none) :
    History root [] disk
  | next {runs : List Run} {disk : Disk} (run : Run) (earlier : History root runs disk)
    (hkept : ∀ artifact, standing root run.before artifact = standing root disk artifact)
    (hready : Ready root run.order.destination run.before) :
    History root (run :: runs) run.outcome.disk

/-- What stands in the folder at a path after runs, of which the latest comes first. -/
structure Accounted (root : List Text) (runs : List Run) (disk : Disk) : Prop where
  /-- The document and the report are those of the latest run that filled a form. -/
  filled : match runs.find? Run.succeeds with
    | none => standing root disk .document = none ∧ standing root disk .report = none
    | some run => ∃ filled, run.result? = some (.ok filled) ∧
      standing root disk .document = some (.file (Utf8.encode filled.output.text)) ∧
      standing root disk .report =
        some (.file (Utf8.encode (Json.write filled.output.report.payload)))
  /-- The messages are those of the latest run that checked values, if it found any. -/
  errors : match runs.find? Run.decides with
    | none => standing root disk .errors = none
    | some run => ∃ errors, run.Finds errors ∧ standing root disk .errors =
      if errors.isEmpty then none
      else some (.file (Utf8.encode (Json.write (keptMessages errors))))
  spares : ∀ run ∈ runs, run.Spares root

theorem Run.effect (run : Run) (h : Ready root run.order.destination run.before) :
    Effect run.release root run.order run.before run.outcome := by
  have houtcome : run.outcome = run.order.run run.release run.before := by
    rw [Run.outcome, Command.run, run.read]
  rw [houtcome]
  exact run.order.effect h

/-- A run whose effect is known leaves the other files as they were. -/
theorem Run.spares_of_effect {run : Run} (h : Effect run.release root run.order run.before run.outcome) :
    run.Spares root := by
  cases h with
  | failed hexit hsame =>
      have hall : ∀ artifact,
          standing root run.outcome.disk artifact = standing root run.before artifact := by
        rw [hsame]
        exact fun _ => rfl
      exact ⟨fun _ => hall, fun _ _ artifact _ => hall artifact, fun _ => hall .form,
        fun _ artifact _ => hall artifact, fun _ artifact _ => hall artifact⟩
  | parsed horder hexit hopens hspared hputs =>
      refine ⟨by simp [hexit], by simp [hexit], by simp [horder],
        fun _ => hputs.elsewhere, fun hsparing artifact hthere => ?_⟩
      refine hputs.elsewhere artifact ?_
      rintro rfl
      exact hthere (hspared hsparing)
  | rejected hresult hexit hopens hspared hputs =>
      have hfill := Order.isFill_of_fillResult? hresult
      exact ⟨by simp [hexit], fun _ _ => hputs.elsewhere,
        fun _ => hputs.elsewhere .form (by decide), by simp [hfill],
        fun hsparing artifact hthere => absurd (hspared hsparing artifact) hthere⟩
  | filled hresult hexit hopens hspared hdocument hreport herrors hform =>
      have hfill := Order.isFill_of_fillResult? hresult
      exact ⟨by simp [hexit], by simp [hexit], fun _ => hform, by simp [hfill],
        fun hsparing artifact hthere => absurd (hspared hsparing artifact) hthere⟩

/-- A run fills a form and leaves what it comes to, or leaves the document and the report as they were. -/
theorem Run.succeeds_cases {run : Run} (h : Effect run.release root run.order run.before run.outcome) :
    (run.succeeds = true ∧ ∃ filled, run.result? = some (.ok filled) ∧
      standing root run.outcome.disk .document = some (.file (Utf8.encode filled.output.text)) ∧
      standing root run.outcome.disk .report =
        some (.file (Utf8.encode (Json.write filled.output.report.payload)))) ∨
    run.succeeds = false ∧
      standing root run.outcome.disk .document = standing root run.before .document ∧
      standing root run.outcome.disk .report = standing root run.before .report := by
  cases h with
  | failed hexit hsame => exact Or.inr ⟨by simp [Run.succeeds, hexit], by rw [hsame], by rw [hsame]⟩
  | parsed horder hexit hopens hspared hputs =>
      exact Or.inr ⟨by simp [Run.succeeds, horder], hputs.elsewhere _ (by decide),
        hputs.elsewhere _ (by decide)⟩
  | rejected hresult hexit hopens hspared hputs =>
      exact Or.inr ⟨by simp [Run.succeeds, hexit], hputs.elsewhere _ (by decide),
        hputs.elsewhere _ (by decide)⟩
  | filled hresult hexit hopens hspared hdocument hreport herrors hform =>
      have hfill := Order.isFill_of_fillResult? hresult
      exact Or.inl ⟨by simp [Run.succeeds, hexit, hfill], _, hresult, hdocument, hreport⟩

/-- A run checks values and leaves the messages that it finds, or leaves the messages as they were. -/
theorem Run.decides_cases {run : Run} (h : Effect run.release root run.order run.before run.outcome) :
    (run.decides = true ∧ ∃ errors, run.Finds errors ∧
      standing root run.outcome.disk .errors = if errors.isEmpty then none
        else some (.file (Utf8.encode (Json.write (keptMessages errors))))) ∨
    run.decides = false ∧
      standing root run.outcome.disk .errors = standing root run.before .errors := by
  cases h with
  | failed hexit hsame => exact Or.inr ⟨by simp [Run.decides, hexit], by rw [hsame]⟩
  | parsed horder hexit hopens hspared hputs =>
      exact Or.inr ⟨by simp [Run.decides, horder], hputs.elsewhere _ (by decide)⟩
  | rejected hresult hexit hopens hspared hputs =>
      have hfill := Order.isFill_of_fillResult? hresult
      refine Or.inl ⟨by simp [Run.decides, hexit, hfill], _, Or.inr ⟨_, hresult⟩, ?_⟩
      rw [hputs.here, not_isEmpty_of_rejected hresult, if_neg Bool.false_ne_true]
  | filled hresult hexit hopens hspared hdocument hreport herrors hform =>
      have hfill := Order.isFill_of_fillResult? hresult
      exact Or.inl ⟨by simp [Run.decides, hexit, hfill], _, Or.inl ⟨_, hresult, rfl⟩, herrors⟩

/-- What stands in the folder is accounted for after one more run. -/
theorem Accounted.next {runs : List Run} {run : Run} (h : Accounted root runs disk)
    (hkept : ∀ artifact, standing root run.before artifact = standing root disk artifact)
    (heffect : Effect run.release root run.order run.before run.outcome) :
    Accounted root (run :: runs) run.outcome.disk where
  filled := by
    rcases Run.succeeds_cases heffect with ⟨hlatest, hfilled⟩ | ⟨hlater, hdocument, hreport⟩
    · rw [List.find?_cons_of_pos hlatest]
      exact hfilled
    · rw [List.find?_cons_of_neg (by simp [hlater]), hdocument, hreport, hkept, hkept]
      exact h.filled
  errors := by
    rcases Run.decides_cases heffect with ⟨hlatest, hfound⟩ | ⟨hlater, herrors⟩
    · rw [List.find?_cons_of_pos hlatest]
      exact hfound
    · rw [List.find?_cons_of_neg (by simp [hlater]), herrors, hkept]
      exact h.errors
  spares := List.forall_mem_cons.mpr ⟨Run.spares_of_effect heffect, h.spares⟩

/-- After every history of runs with the output in one folder, what stands in the folder is accounted for. -/
theorem History.accounted {runs : List Run} (h : History root runs disk) :
    Accounted root runs disk := by
  induction h with
  | start hempty =>
      exact ⟨⟨hempty .document, hempty .report⟩, hempty .errors, fun run hmem => by cases hmem⟩
  | next run earlier hkept hready ih => exact ih.next hkept (run.effect hready)

/-! ## A short history -/

/-- A history goes on with one more run on the same disk. -/
theorem History.again {runs : List Run} (h : History root runs disk) (run : Run)
    (hbefore : run.before = disk) (hready : Ready root run.order.destination disk) :
    History root (run :: runs) run.outcome.disk ∧
      Ready root run.order.destination run.outcome.disk := by
  subst hbefore
  exact ⟨.next run h (fun _ => rfl) hready, (run.effect hready).ready hready⟩

namespace ShortHistory

/-- A template with one field, whose value has to be a number. -/
def template : Text :=
  "<Form Code=\"Act\"><Simple Code=\"B\"><Section>".toList ++
    "<Param Code=\"C\" RegEx=\"[0-9]+\">\x7b?External(K)?\x7d</Param>".toList ++
    "</Section></Simple></Form>".toList

/-- A disk with the template, an empty dictionary, and values that pass their check and that fail it. -/
def machine : Disk :=
  ⟨[(["t.xml".toList], .file (Utf8.encode template)), (["d.xml".toList], .file []),
    (["good.json".toList], .file (Utf8.encode "\x7b\"C\": \"7\"\x7d".toList)),
    (["bad.json".toList], .file (Utf8.encode "\x7b\"C\": \"x\"\x7d".toList))]⟩

/-- The options that name the template and the dictionary. -/
def inputs : List Text :=
  ["--template".toList, "t.xml".toList, "--dictionary".toList, "d.xml".toList]

/-- The order to parse the template. -/
def parseOrder : ParseOrder where
  template := ⟨["t.xml".toList]⟩
  dictionary := ⟨["d.xml".toList]⟩
  outputFolder := ⟨[]⟩
  config := none
  excluded := []
  noOverwrite := false

/-- The order to fill the template with values. -/
def fillOrder (values : Text) (noOverwrite : Bool) : FillOrder where
  template := ⟨["t.xml".toList]⟩
  dictionary := ⟨["d.xml".toList]⟩
  values := ⟨[values]⟩
  outputFolder := ⟨[]⟩
  config := none
  profile := none
  allowInvalid := false
  noOverwrite := noOverwrite

/-- A fill that succeeds. -/
def success : Run where
  line := "fill".toList :: inputs ++ ["--values".toList, "good.json".toList]
  before := machine
  order := .fill (fillOrder "good.json" false)
  read := by decide +kernel

/-- A fill whose values are rejected. -/
def rejection : Run where
  line := "fill".toList :: inputs ++ ["--values".toList, "bad.json".toList]
  before := success.outcome.disk
  order := .fill (fillOrder "bad.json" false)
  read := by decide +kernel

/-- A run that parses the template. -/
def parsing : Run where
  line := "parse".toList :: inputs
  before := rejection.outcome.disk
  order := .parse parseOrder
  read := by decide +kernel

/-- A fill that must not overwrite what the others have written. -/
def refusal : Run where
  line := "fill".toList :: inputs ++ ["--values".toList, "good.json".toList, "--no-overwrite".toList]
  before := parsing.outcome.disk
  order := .fill (fillOrder "good.json" true)
  read := by decide +kernel

end ShortHistory

open ShortHistory in
/-- After a fill, a fill whose values are rejected, a run that parses and one that fails, the document is that
of the first run and the messages are those of the second. -/
theorem History.accounted_of_four_runs :
    History [] [refusal, parsing, rejection, success] refusal.outcome.disk ∧
      [refusal, parsing, rejection, success].map (·.outcome.exitCode) = [1, 0, 2, 0] ∧
      Accounted [] [refusal, parsing, rejection, success] refusal.outcome.disk := by
  have hempty : ∀ artifact ∈ Artifact.all, standing [] machine artifact = none := by decide +kernel
  have hready : Ready [] ⟨[]⟩ machine :=
    .there (opens_here fun artifact => by simp [hempty artifact artifact.mem_all])
  have hstart : History [] [] machine := .start fun artifact => hempty artifact artifact.mem_all
  obtain ⟨hfirst, hready⟩ := hstart.again success rfl hready
  obtain ⟨hsecond, hready⟩ := hfirst.again rejection rfl hready
  obtain ⟨hthird, hready⟩ := hsecond.again parsing rfl hready
  obtain ⟨hlast, -⟩ := hthird.again refusal rfl hready
  exact ⟨hlast, by decide +kernel, hlast.accounted⟩

end FormFill.Command

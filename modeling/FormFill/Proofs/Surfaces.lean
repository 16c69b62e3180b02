import FormFill.Proofs.Command.Input
import FormFill.Proofs.Command.Output
import FormFill.Proofs.Fill
import FormFill.Proofs.Service.Filling

/-!
# The command and the service

A command and a request may ask for the same fill. The command reads texts as lines, and the service reads
them as they are. To the dictionary, the values and the profile that makes no difference, and so the command
ends as the service does with a template whose lines end with line feeds. For a template without carriage
returns both end alike; one with carriage returns loses them in the document that the command writes.
-/

namespace FormFill

/-- A file holds a text that is a JSON object. -/
def Disk.HoldsObject (disk : Disk) (location : Location) (text : Text) : Prop :=
  disk.HoldsText location text ∧ ∃ members, Json.read text = .ok (.object members)

/-- A command and a request that ask for the same fill of templates that may differ. -/
structure SameBesides (disk : Disk) (order : Command.FillOrder) (settings : Service.Settings)
    (form : Service.FillForm) : Prop where
  dictionary : disk.read order.dictionary = .ok form.dictionary
  dictionaryText : ∃ text, Utf8.decodeMarked form.dictionary = .ok text
  dictionaryLimit : form.dictionary.length ≤ Service.uploadLimit settings.uploadLimit
  templateLimit : form.template.length ≤ Service.uploadLimit settings.uploadLimit
  values : ∃ text, form.values = some text ∧ disk.HoldsObject order.values text
  profile : Option.Rel disk.HoldsObject order.profile form.profile
  config : ∃ config, Command.readConfig disk order.config = .ok config ∧
    settings.readConfig = .ok config
  blocking : form.blocking = if order.allowInvalid then some false else none
  noOverwrite : order.noOverwrite = false

/-- A command and a request that ask for the same fill of a template. -/
structure SameFill (disk : Disk) (order : Command.FillOrder) (settings : Service.Settings)
    (form : Service.FillForm) (template : Text) : Prop
    extends SameBesides disk order settings form where
  templateText : Utf8.decodeMarked form.template = .ok template
  template : disk.read order.template = .ok form.template

/-- A command and a request end alike: both succeed, with one document and one report, or both have values
that fail their check, with the same messages, or neither. -/
structure SameOutcome (folder : Location) (outcome : Command.Outcome)
    (response : Service.Response) : Prop where
  succeeds_iff : outcome.exitCode = 0 ↔ response.status = 200
  succeeds : outcome.exitCode = 0 → ∃ document report,
    response.body.get? "document" = some (.string document) ∧
    response.body.get? "report" = some report ∧
    outcome.disk.read (Command.Artifact.document.location folder) = .ok (Utf8.encode document) ∧
    outcome.disk.read (Command.Artifact.report.location folder) =
      .ok (Utf8.encode (Json.write report))
  rejects_iff : outcome.exitCode = 2 ↔ response.status = 422 ∧
    response.body.get? "error_code" = some (.string "VALIDATION_FAILED")
  rejects : outcome.exitCode = 2 → ∃ errors,
    (response.body.get? "detail").bind (·.get? "errors") = some errors ∧
    outcome.disk.read (Command.Artifact.errors.location folder) =
      .ok (Utf8.encode (Json.write (.object [("errors", errors)])))

section

variable {disk : Disk}

/-- The command and the service read one profile, or both refuse it. -/
theorem exists_profile {location? : Option Location} {text? : Option Text}
    (h : Option.Rel disk.HoldsObject location? text?) :
    (∃ profile, location?.mapM (Command.readProfile disk) = .ok profile ∧
      text?.mapM Service.readProfile = .ok profile) ∨
    ∃ problems, location?.mapM (Command.readProfile disk) = .error (.profile problems) ∧
      text?.mapM Service.readProfile = .error (.refused (.invalidProfile problems)) := by
  cases h with
  | none => exact Or.inl ⟨none, rfl, rfl⟩
  | some hobject =>
      obtain ⟨hholds, members, hjson⟩ := hobject
      have hcommand := Command.readProfile_eq hholds hjson
      have hservice := Service.readProfile_eq hjson
      cases hprofile : Profile.ofJson (.object members) with
      | ok profile =>
          rw [hprofile] at hcommand hservice
          exact Or.inl ⟨some profile, by simp [hcommand], by simp [hservice]⟩
      | error problems =>
          rw [hprofile] at hcommand hservice
          exact Or.inr ⟨problems, by simp [hcommand], by simp [hservice]⟩

/-! ## Outcomes -/

/-- What the bodies of answers to a fill show. -/
theorem get?_filledBody (filled : Filled) :
    (Service.filledBody filled).get? "document" = some (.string filled.output.text) ∧
    (Service.filledBody filled).get? "report" = some filled.output.report.payload :=
  ⟨rfl, rfl⟩

theorem get?_failureBody (request path : Text) (failure : Service.Failure) :
    (Service.failureBody request path failure).get? "error_code" = some (.string failure.code) ∧
    (Service.failureBody request path failure).get? "detail" =
      some (.object (failure.detail path ++ [textMember "request_id" request])) :=
  ⟨rfl, rfl⟩

namespace SameOutcome

variable {folder : Location}

/-- A form that has been filled is shown by both. -/
theorem of_filled {first second : Filled} (houtput : first.output = second.output) {after : Disk}
    (hdocument : after.read (Command.Artifact.document.location folder) =
      .ok (Utf8.encode first.output.text))
    (hreport : after.read (Command.Artifact.report.location folder) =
      .ok (Utf8.encode (Json.write first.output.report.payload)))
    (printed : Command.Printed) (request : Text) :
    SameOutcome folder ⟨0, printed, after⟩ ⟨request, 200, Service.filledBody second⟩ where
  succeeds_iff := by simp
  succeeds := by
    intro _
    obtain ⟨hshown, hreported⟩ := get?_filledBody second
    rw [← houtput] at hshown hreported
    exact ⟨_, _, hshown, hreported, hdocument, hreport⟩
  rejects_iff := by simp
  rejects := by simp

/-- The messages of values that fail their check are shown by both. -/
theorem of_rejected {errors : Table Text} {after : Disk}
    (hmessages : after.read (Command.Artifact.errors.location folder) =
      .ok (Utf8.encode (Json.write (Command.keptMessages errors))))
    (printed : Command.Printed) (request path : Text) :
    SameOutcome folder ⟨2, printed, after⟩
      (Service.failureResponse request path (.refused (.rejectedValues errors))) where
  succeeds_iff := by simp [Service.failureResponse, Service.Failure.status, Service.Refusal.status]
  succeeds := by simp
  rejects_iff := iff_of_true rfl ⟨rfl, (get?_failureBody request path _).1⟩
  rejects := fun _ => ⟨_, rfl, hmessages⟩

/-- Anything else that goes wrong is neither a success nor a failed check to either. -/
theorem of_failure {failure : Service.Failure} (hstatus : failure.status = 400 ∨ failure.status = 500)
    (disk : Disk) (line request path : Text) :
    SameOutcome folder (Command.refuse disk line) (Service.failureResponse request path failure) where
  succeeds_iff := by rcases hstatus with h | h <;> simp [Command.refuse, Service.failureResponse, h]
  succeeds := by simp [Command.refuse]
  rejects_iff := by rcases hstatus with h | h <;> simp [Command.refuse, Service.failureResponse, h]
  rejects := by simp [Command.refuse]

end SameOutcome

namespace SameBesides

variable {order : Command.FillOrder} {settings : Service.Settings}
  {form : Service.FillForm} {template : Text}

/-- Both read the same, and the command reads texts as lines; or both refuse the profile. -/
theorem exists_read (h : SameBesides disk order settings form) {fed : Text}
    (hfile : disk.HoldsText order.template template)
    (hform : Utf8.decodeMarked form.template = .ok fed) :
    (∃ dictionary values config profile,
      Command.fillInput order disk = .ok ⟨Text.withLineFeeds template,
        Text.withLineFeeds dictionary, values, config, profile⟩ ∧
      Service.FillJob.read settings form = .ok ⟨fed, dictionary, values, profile, config⟩) ∨
    ∃ problems, Command.fillInput order disk = .error (.profile problems) ∧
      Service.FillJob.read settings form =
        .error ⟨.inputs, .refused (.invalidProfile problems)⟩ := by
  obtain ⟨dictionary, hdictionary⟩ := h.dictionaryText
  obtain ⟨text, htext, hholds, members, hjson⟩ := h.values
  obtain ⟨config, hcommand, hservice⟩ := h.config
  have hvalues : Values.ofJson? (.object members) =
      some (members.map fun member => (member.1, Values.entryOfJson member.2)) := rfl
  have huploads := Service.readUploads_eq_ok h.templateLimit h.dictionaryLimit hform hdictionary
  have hconfig : (if order.allowInvalid then { config with blocking := false } else config) =
      { config with blocking := form.blocking.getD config.blocking } := by
    rw [h.blocking]
    cases order.allowInvalid <;> rfl
  -- All but the profile is read by both.
  simp only [Command.fillInput, hcommand, Command.readValues_eq_ok hholds hjson hvalues,
    Command.readText_eq_ok hfile, Command.readText_eq_ok ⟨_, h.dictionary, hdictionary⟩, hconfig,
    Service.FillJob.read, huploads, Service.FillJob.readInputs, htext, Option.getD_some,
    Service.readValues_eq_ok hjson hvalues, hservice, Service.Stage.enter, bind, Except.bind, pure,
    Except.pure]
  rcases exists_profile h.profile with ⟨profile, hcommand, hservice⟩ | ⟨problems, hcommand, hservice⟩
  · simp only [hcommand, hservice]
    exact Or.inl ⟨_, _, _, _, rfl, rfl⟩
  · simp only [hcommand, hservice]
    exact Or.inr ⟨_, rfl, rfl⟩

/-- The command ends as the service does with the template whose lines end with line feeds. -/
theorem sameOutcome_of_lineFeeds (h : SameBesides disk order settings form)
    (hfile : disk.HoldsText order.template template)
    (hform : Utf8.decodeMarked form.template = .ok (Text.withLineFeeds template))
    (hreceives : Command.Receives order.outputFolder disk) (request : Text) :
    SameOutcome order.outputFolder (Command.runFill settings.release order disk)
      (Service.fill settings request form).response := by
  rcases h.exists_read hfile hform with
    ⟨dictionary, values, config, profile, hinput, hjob⟩ | ⟨problems, hinput, hjob⟩
  · have halike := Fill.run_alike (Text.withLineFeeds template) (Text.withLineFeeds dictionary)
      dictionary values config profile settings.release
    rw [Service.response_fill_of_job request hjob, Command.runFill, Command.sparing, h.noOverwrite,
      if_neg Bool.false_ne_true, hinput]
    dsimp only [Command.filledOf]
    -- The fills differ in the line ends of the dictionary only; the files that the command writes show
    -- the first, and the response the second.
    generalize Fill.run _ (Text.withLineFeeds dictionary) _ _ _ _ = first at halike ⊢
    generalize Fill.run _ dictionary _ _ _ _ = second at halike ⊢
    cases halike with
    | pattern fault => exact SameOutcome.of_failure (Or.inr rfl) _ _ _ _
    | rejected errors _ _ =>
        obtain ⟨after, hwritten, hmessages⟩ := hreceives.exists_writeErrors errors
        simp only [Command.rejectValues, hwritten]
        exact SameOutcome.of_rejected hmessages _ _ _
    | @filled first second houtput _ =>
        obtain ⟨after, hwritten, hdocument, hreport, -⟩ := hreceives.exists_writeFilled first
        simp only [hwritten]
        exact SameOutcome.of_filled houtput hdocument hreport _ _
  · rw [Service.response_fill_of_setback request hjob, Command.runFill, Command.sparing,
      h.noOverwrite, if_neg Bool.false_ne_true, hinput]
    exact SameOutcome.of_failure (Or.inl rfl) _ _ _ _

end SameBesides

end

/-- A command and a request that ask for the same fill of a template without carriage returns end alike. -/
theorem SameFill.sameOutcome {disk : Disk} {order : Command.FillOrder} {settings : Service.Settings}
    {form : Service.FillForm} {template : Text} (h : SameFill disk order settings form template)
    (hreturn : '\r' ∉ template) (hreceives : Command.Receives order.outputFolder disk)
    (request : Text) :
    SameOutcome order.outputFolder (Command.runFill settings.release order disk)
      (Service.fill settings request form).response := by
  have hfed : Utf8.decodeMarked form.template = .ok (Text.withLineFeeds template) := by
    rw [Text.withLineFeeds_eq_self hreturn, h.templateText]
  exact h.toSameBesides.sameOutcome_of_lineFeeds ⟨_, h.template, h.templateText⟩ hfed hreceives request

/-! ## A small fill -/

namespace SmallFill

/-- A document with one field, in which one line ends as given. -/
def document (lineEnd inside : Text) : Text :=
  "<Form Code=\"Act\">".toList ++ lineEnd ++ "<Simple Code=\"B\"><Section>".toList ++
    "<Param Code=\"C\" RegEx=\"[0-9]+\">".toList ++ inside ++ "</Param>".toList ++
    "</Section></Simple></Form>".toList

/-- The template, in which a marker stands inside the field. -/
def template (lineEnd : Text) : Text := document lineEnd "\x7b?External(K)?\x7d".toList

/-- The template with the value in place of the marker. -/
def filled (lineEnd : Text) : Text := document lineEnd ['7']

/-- The values, in a text whose first line ends with a carriage return and a line feed. -/
def values : Text := "\x7b\r\n\"C\": \"7\"\x7d"

/-- The bytes of the template after a byte order mark. -/
def bytes (lineEnd : Text) : List UInt8 := Utf8.mark ++ Utf8.encode (template lineEnd)

/-- A disk with the template, an empty dictionary, the values and an empty profile. -/
def disk (lineEnd : Text) : Disk :=
  ⟨[(["t.xml".toList], .file (bytes lineEnd)), (["d.xml".toList], .file []),
    (["v.json".toList], .file (Utf8.encode values)),
    (["p.json".toList], .file (Utf8.encode "\x7b\x7d".toList))]⟩

/-- The order to fill the template in the working folder. -/
def order : Command.FillOrder where
  template := ⟨["t.xml".toList]⟩
  dictionary := ⟨["d.xml".toList]⟩
  values := ⟨["v.json".toList]⟩
  outputFolder := ⟨[]⟩
  config := none
  profile := some ⟨["p.json".toList]⟩
  allowInvalid := false
  noOverwrite := false

/-- The form that is sent with a request for the same fill. -/
def form (lineEnd : Text) : Service.FillForm where
  template := bytes lineEnd
  dictionary := []
  values := some values
  profile := some "\x7b\x7d".toList
  blocking := none

/-- The command and the request ask for the same, and there is room for the output. -/
theorem sameFill : ∀ lineEnd ∈ [['\n'], ['\r', '\n']],
    SameFill (disk lineEnd) order {} (form lineEnd) (template lineEnd) ∧
      Command.Receives order.outputFolder (disk lineEnd) := by
  have hfiles : ∀ lineEnd ∈ [['\n'], ['\r', '\n']],
      (disk lineEnd).read order.template = .ok (bytes lineEnd) ∧
      Utf8.decodeMarked (bytes lineEnd) = .ok (template lineEnd) ∧
      (bytes lineEnd).length ≤ Service.uploadLimit none ∧
      (disk lineEnd).read order.dictionary = .ok [] ∧
      (disk lineEnd).read order.values = .ok (Utf8.encode values) ∧
      (disk lineEnd).read ⟨["p.json".toList]⟩ = .ok (Utf8.encode "\x7b\x7d".toList) ∧
      ∀ artifact ∈ Command.fillArtifacts, (disk lineEnd).get? [artifact.name] ≠ some .folder := by
    decide +kernel
  have htexts : Utf8.decodeMarked [] = .ok [] ∧
      Utf8.decodeMarked (Utf8.encode values) = .ok values ∧
      Utf8.decodeMarked (Utf8.encode "\x7b\x7d".toList) = .ok "\x7b\x7d".toList := by
    decide +kernel
  have hvalues : Json.read values = .ok (.object [("C".toList, .string "7".toList)]) := by cbv
  have hprofile : Json.read "\x7b\x7d".toList = .ok (.object []) := by cbv
  intro lineEnd hmem
  obtain ⟨htemplate, htemplateText, hlimit, hdictionary, hvaluesFile, hprofileFile, hfree⟩ :=
    hfiles lineEnd hmem
  refine ⟨?_, Command.receives_here hfree⟩
  exact {
    dictionary := hdictionary
    dictionaryText := ⟨[], htexts.1⟩
    dictionaryLimit := Nat.zero_le _
    templateLimit := hlimit
    values := ⟨values, rfl, ⟨_, hvaluesFile, htexts.2.1⟩, _, hvalues⟩
    profile := Option.Rel.some ⟨⟨_, hprofileFile, htexts.2.2⟩, _, hprofile⟩
    config := ⟨.shipped, rfl, rfl⟩
    blocking := rfl
    noOverwrite := rfl
    template := htemplate
    templateText := htemplateText }

end SmallFill

/-- With line feeds both succeed, with one document. -/
theorem sameOutcome_of_line_feed :
    SameOutcome SmallFill.order.outputFolder (Command.runFill .earlier SmallFill.order (SmallFill.disk ['\n']))
        (Service.fill {} ['1'] (SmallFill.form ['\n'])).response ∧
      (Command.runFill .earlier SmallFill.order (SmallFill.disk ['\n'])).exitCode = 0 := by
  obtain ⟨hfill, hreceives⟩ := SmallFill.sameFill ['\n'] (by simp)
  exact ⟨hfill.sameOutcome (by decide +kernel) hreceives ['1'], by decide +kernel⟩

/-- With a carriage return both succeed too, but the command writes another document than the service
shows. -/
theorem not_sameOutcome_of_carriage_return :
    SameFill (SmallFill.disk ['\r', '\n']) SmallFill.order {} (SmallFill.form ['\r', '\n'])
        (SmallFill.template ['\r', '\n']) ∧
      Command.Receives SmallFill.order.outputFolder (SmallFill.disk ['\r', '\n']) ∧
      ¬ SameOutcome SmallFill.order.outputFolder
        (Command.runFill .earlier SmallFill.order (SmallFill.disk ['\r', '\n']))
        (Service.fill {} ['1'] (SmallFill.form ['\r', '\n'])).response := by
  obtain ⟨hfill, hreceives⟩ := SmallFill.sameFill ['\r', '\n'] (by simp)
  refine ⟨hfill, hreceives, fun hsame => ?_⟩
  -- The response shows the carriage return, and the file does not have it.
  have hfacts : (Command.runFill .earlier SmallFill.order (SmallFill.disk ['\r', '\n'])).exitCode = 0 ∧
      ((Service.fill {} ['1'] (SmallFill.form ['\r', '\n'])).response.body.get? "document").bind
        Service.textOfJson? = some (SmallFill.filled ['\r', '\n']) ∧
      (Command.runFill .earlier SmallFill.order (SmallFill.disk ['\r', '\n'])).disk.read
        (Command.Artifact.document.location SmallFill.order.outputFolder) =
          .ok (Utf8.encode (SmallFill.filled ['\n'])) ∧
      Utf8.encode (SmallFill.filled ['\n']) ≠ Utf8.encode (SmallFill.filled ['\r', '\n']) := by
    decide +kernel
  obtain ⟨hexit, hshown, hwritten, hne⟩ := hfacts
  obtain ⟨document, report, hdocument, -, hfile, -⟩ := hsame.succeeds hexit
  rw [hdocument] at hshown
  obtain rfl : document = SmallFill.filled ['\r', '\n'] := Option.some.inj hshown
  rw [hwritten] at hfile
  exact hne (Except.ok.inj hfile)

end FormFill

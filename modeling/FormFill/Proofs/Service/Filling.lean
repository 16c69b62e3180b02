import FormFill.Proofs.Service.Upload
import FormFill.Service.Handler

/-!
# What the service answers to a fill

Once all inputs have been read, the answer to a fill depends on nothing but the fill itself: it shows the
document and the report, the messages of values that fail their check, or that something has gone wrong.
-/

namespace FormFill.Service

variable {text : Text} {members : Table Json.Value} {settings : Settings} {form : FillForm}

theorem readValues_eq_ok {values : Values} (hjson : Json.read text = .ok (.object members))
    (hvalues : Values.ofJson? (.object members) = some values) : readValues text = .ok values := by
  simp only [readValues, readJson, hjson, hvalues]

/-- A profile is read as its document gives it. -/
theorem readProfile_eq (hjson : Json.read text = .ok (.object members)) :
    readProfile text =
      match Profile.ofJson (.object members) with
      | .ok profile => .ok profile
      | .error problems => .error (.refused (.invalidProfile problems)) := by
  cases hprofile : Profile.ofJson (.object members) with
  | ok profile => simp only [readProfile, readJson, hjson, hprofile]
  | error problems => simp only [readProfile, readJson, hjson, hprofile]

theorem readUploads_eq_ok {template dictionary : List UInt8} {templateText dictionaryText : Text}
    (htemplateLimit : template.length ≤ uploadLimit settings.uploadLimit)
    (hdictionaryLimit : dictionary.length ≤ uploadLimit settings.uploadLimit)
    (htemplate : Utf8.decodeMarked template = .ok templateText)
    (hdictionary : Utf8.decodeMarked dictionary = .ok dictionaryText) :
    settings.readUploads template dictionary = .ok (templateText, dictionaryText) := by
  simp only [Settings.readUploads, Upload.read_eq_ok "template" htemplateLimit htemplate,
    Upload.read_eq_ok "dictionary" hdictionaryLimit hdictionary, bind, Except.bind, pure, Except.pure]

/-- The answer to a fill whose inputs cannot be read. -/
theorem response_fill_of_setback (request : Text) {setback : Setback}
    (h : FillJob.read settings form = .error setback) :
    (fill settings request form).response =
      failureResponse request Route.fill.path setback.failure := by
  simp only [fill, h, failWith]

/-- The answer to a fill whose inputs have been read. -/
theorem response_fill_of_job (request : Text) {job : FillJob}
    (h : FillJob.read settings form = .ok job) :
    (fill settings request form).response =
      match Fill.run job.template job.dictionary job.values job.config job.profile settings.release with
      | .ok filled => ⟨request, 200, filledBody filled⟩
      | .error (.rejected errors _) =>
        failureResponse request Route.fill.path (.refused (.rejectedValues errors))
      | .error (.pattern fault) =>
        failureResponse request Route.fill.path (.unexpected (.pattern fault)) := by
  simp only [fill, h, FillJob.run]
  cases Fill.run job.template job.dictionary job.values job.config job.profile settings.release with
  | ok filled => rfl
  | error fault =>
      cases fault with
      | rejected errors form => rfl
      | pattern fault => rfl

end FormFill.Service

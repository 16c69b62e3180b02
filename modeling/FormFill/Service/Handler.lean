import FormFill.Service.Event
import FormFill.Service.Field
import FormFill.Service.Request
import FormFill.Service.Route
import FormFill.Service.Settings
import FormFill.Service.Upload
import FormFill.Substitution.Payload

/-!
# Handling requests

The service tells whether it is there, describes itself, extracts the form of a template, and fills
templates. A request whose form has no problems leaves a trail of events: first that work is begun, once
all inputs have been read, and last that it is done or has failed.
-/

namespace FormFill.Service

open Json (Value)

/-- A configuration file: the place, and the bytes if there is a file. -/
structure ConfigFile where
  place : Text
  bytes : Option (List UInt8)
  deriving DecidableEq, Repr

/-- The settings of a service. -/
structure Settings where
  description : Option Text := none
  uploadLimit : Option Text := none
  config : Option ConfigFile := none
  /-- The release of the pattern language in which values are checked. -/
  release : Pattern.Release := .earlier
  deriving DecidableEq, Repr

/-- A response. Its header repeats the identifier of the request. -/
structure Response where
  request : Text
  status : Nat
  body : Value
  deriving Repr

/-- A request that has been handled: the response and the events. -/
structure Handled where
  response : Response
  events : List Event
  deriving Repr

/-! ## Responses -/

/-- The response that says no more than one thing. -/
def plainBody (detail : Value) : Value := .object [("detail".toList, detail)]

/-- The body that reports a failure of a request for a path. -/
def failureBody (request path : Text) (failure : Failure) : Value :=
  .object [textMember "error_code" failure.code, textMember "message" failure.message,
    ("detail".toList, .object (failure.detail path ++ [textMember "request_id" request]))]

/-- The response to a failure. -/
def failureResponse (request path : Text) (failure : Failure) : Response :=
  ⟨request, failure.status, failureBody request path failure⟩

/-- What becomes of a request that fails, after some events. -/
def failWith (request path : Text) (before : List Notice) (setback : Setback) : Handled where
  response := failureResponse request path setback.failure
  events := (before ++ [Notice.failed setback]).map fun notice => ⟨request, notice⟩

/-- What becomes of a request that succeeds, with some events. -/
def succeedWith (request : Text) (body : Value) (notices : List Notice) : Handled where
  response := ⟨request, 200, body⟩
  events := notices.map fun notice => ⟨request, notice⟩

/-- What becomes of a request whose form has problems. -/
def refuseForm (request : Text) (problems : List Schema.Problem) : Handled where
  response := ⟨request, 422, plainBody (.array (problems.map (·.payload)))⟩
  events := []

/-! ## Inputs -/

/-- Puts a failure at a stage. -/
def Stage.enter {α : Type} (stage : Stage) : Except Failure α → Except Setback α
  | .ok value => .ok value
  | .error failure => .error (failure.setback stage)

/-- Reads the bytes of a configuration file at a place. -/
def configOf (place : Text) (bytes : List UInt8) : Except Failure Config :=
  match Config.ofBytes place bytes with
  | .ok config => .ok config
  | .error fault =>
    if fault.isInvalid then .error (.refused (.invalidConfig fault))
    else .error (.unexpected (.config fault))

/-- Reads the configuration at a location where nobody has written a file. -/
def configWithoutFile (location : Location) : Except Failure Config :=
  match Disk.bare.read location with
  | .ok bytes => configOf location.text bytes
  | .error fault =>
    if fault.problem = .missing then .error (.refused (.invalidConfig (.missing location.text)))
    else .error (.unexpected (.disk fault))

/-- The configuration of a service. -/
def Settings.readConfig (settings : Settings) : Except Failure Config :=
  match settings.config with
  | none => .ok .shipped
  | some ⟨place, none⟩ => configWithoutFile (Location.ofText place)
  | some ⟨place, some bytes⟩ => configOf place bytes

/-- Reads the template and the dictionary. -/
def Settings.readUploads (settings : Settings) (template dictionary : List UInt8) :
    Except Failure (Text × Text) := do
  let limit := Service.uploadLimit settings.uploadLimit
  let template ← Upload.read limit "template" template
  let dictionary ← Upload.read limit "dictionary" dictionary
  pure (template, dictionary)

/-- What is needed to extract the form of a template. -/
structure StructureJob where
  template : Text
  dictionary : Text
  config : Config
  deriving Repr

namespace StructureJob

/-- The configuration, in which the codes that are sent take the place of those left out. -/
def readConfig (settings : Settings) (excluded : Option Text) : Except Failure Config := do
  let config ← settings.readConfig
  match excluded with
  | none => pure config
  | some text => pure { config with excluded := ← readTexts "excluded_codes" text }

/-- Reads what is needed to extract the form of a template. -/
def read (settings : Settings) (form : StructureForm) : Except Setback StructureJob := do
  let (template, dictionary) ← Stage.upload.enter (settings.readUploads form.template form.dictionary)
  let config ← Stage.inputs.enter (readConfig settings form.excluded)
  pure { template, dictionary, config }

/-- The event with which the work begins. -/
def begun (job : StructureJob) : Notice :=
  .structureBegun job.template.length job.dictionary.length job.config.excluded.length

/-- Extracts the form. -/
def run (job : StructureJob) : Form := Form.read job.template job.dictionary job.config

end StructureJob

/-- What is needed to fill a template. -/
structure FillJob where
  template : Text
  dictionary : Text
  values : Values
  profile : Option Profile
  config : Config

namespace FillJob

/-- The values, the profile and the configuration. -/
def readInputs (settings : Settings) (form : FillForm) :
    Except Failure (Values × Option Profile × Config) := do
  let values ← readValues (form.values.getD ['\x7b', '\x7d'])
  let profile ← form.profile.mapM readProfile
  let config ← settings.readConfig
  pure (values, profile, { config with blocking := form.blocking.getD config.blocking })

/-- Reads what is needed to fill a template. -/
def read (settings : Settings) (form : FillForm) : Except Setback FillJob := do
  let (template, dictionary) ← Stage.upload.enter (settings.readUploads form.template form.dictionary)
  let (values, profile, config) ← Stage.inputs.enter (readInputs settings form)
  pure { template, dictionary, values, profile, config }

/-- The event with which the work begins. -/
def begun (job : FillJob) : Notice :=
  .fillBegun job.template.length job.values.length job.profile.isSome job.config.blocking

/-- Fills the template. -/
def run (release : Pattern.Release) (job : FillJob) : Except Failure Filled :=
  match Fill.run job.template job.dictionary job.values job.config job.profile release with
  | .ok filled => .ok filled
  | .error (.rejected errors _) => .error (.refused (.rejectedValues errors))
  | .error (.pattern fault) => .error (.unexpected (.pattern fault))

end FillJob

/-! ## Results -/

/-- The event with which the extraction of a form ends. -/
def Notice.ofForm (form : Form) : Notice := .structureDone form.nodes.length form.aliases.length

/-- The event with which a fill ends. -/
def Notice.ofFilled (filled : Filled) : Notice :=
  .fillDone filled.output.report.replaced filled.output.report.unmatched filled.errors.length

/-- The body that shows a form that has been filled. -/
def filledBody (filled : Filled) : Value :=
  .object [textMember "document" filled.output.text, ("report".toList, filled.output.report.payload),
    ("validation_errors".toList, messagesPayload filled.errors)]

/-- The description of the service under a configuration. -/
def description (config : Config) : Value :=
  let texts (items : List Text) : Value := .array (items.map .string)
  .object [("field_types".toList, texts Parameter.tags), ("block_types".toList, texts Block.tags),
    ("form_roles".toList, texts config.roles), ("excluded_codes".toList, texts config.excluded),
    ("profile_field_map".toList, .object (ProfileProperty.prefilled.map fun entry =>
      textMember entry.1 entry.2.key))]

/-! ## Requests -/

/-- Describes the service. -/
def describe (settings : Settings) (request : Text) : Handled :=
  let path := Route.description.path
  if metaEnabled settings.description then
    match Stage.config.enter settings.readConfig with
    | .error setback => failWith request path [] setback
    | .ok config => succeedWith request (description config) []
  else ⟨failureResponse request path (.refused (.notDescribed path)), []⟩

/-- Extracts the form of a template. -/
def extract (settings : Settings) (request : Text) (form : StructureForm) : Handled :=
  match StructureJob.read settings form with
  | .error setback => failWith request Route.form.path [] setback
  | .ok job => succeedWith request (job.run.payload none) [job.begun, .ofForm job.run]

/-- Fills a template. -/
def fill (settings : Settings) (request : Text) (form : FillForm) : Handled :=
  match FillJob.read settings form with
  | .error setback => failWith request Route.fill.path [] setback
  | .ok job =>
    match Stage.filling.enter (job.run settings.release) with
    | .error setback => failWith request Route.fill.path [job.begun] setback
    | .ok filled => succeedWith request (filledBody filled) [job.begun, .ofFilled filled]

/-- Handles a request that sends a form, if the form is within the limits and has no problems. -/
def handleForm {α : Type} (request : Text) (sent : Request)
    (read : Request → Except (List Schema.Problem) α) (handle : α → Handled) : Handled :=
  match sent.excess? with
  | some excess => ⟨⟨request, 400, plainBody (.string excess.message)⟩, []⟩
  | none =>
    match read sent with
    | .error problems => refuseForm request problems
    | .ok form => handle form

/-- Handles a request for a route with the right method. -/
def Route.handle (settings : Settings) (request : Text) (sent : Request) : Route → Handled
  | health => succeedWith request (.object [textMember "status" "ok"]) []
  | description => describe settings request
  | form => handleForm request sent StructureForm.read (extract settings request)
  | fill => handleForm request sent FillForm.read (Service.fill settings request)
  | manual _ => succeedWith request .null []

/-- A response without its body, as it answers a request that asks for no more than the head. -/
def Handled.withoutBody (handled : Handled) : Handled :=
  { handled with response := { handled.response with body := .null } }

/-- Handles a request with a method, in capitals, for a route. -/
def Route.answer (settings : Settings) (request method : Text) (sent : Request) (route : Route) :
    Handled :=
  if route.methods.contains method then route.handle settings request sent
  else ⟨⟨request, 405, plainBody (.string "Method Not Allowed")⟩, []⟩

/-- Handles a request that has been given an identifier. -/
def handle (settings : Settings) (request : Text) (sent : Request) : Handled :=
  let method := sent.method.map Char.toUpper
  let handled := match Route.ofTarget? sent.target with
    | none => ⟨⟨request, 404, plainBody (.string "Not Found")⟩, []⟩
    | some route => route.answer settings request method sent
  if method = "HEAD".toList then handled.withoutBody else handled

end FormFill.Service

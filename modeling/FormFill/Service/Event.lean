import FormFill.Service.Refusal

/-!
# Events

While a request is handled, events are recorded: that the work was begun, that it was done, or that it
failed. Each event carries the identifier of its request.
-/

namespace FormFill.Service

open Json (Value)

/-- The stages of handling a request at which it may fail. -/
inductive Stage where
  | config
  | upload
  | inputs
  | filling
  /-- Outside of all checks. -/
  | service
  deriving DecidableEq, Repr

/-- The name of a stage. -/
def Stage.name : Stage → Text
  | .config => "load_config"
  | .upload => "upload"
  | .inputs => "validate_inputs"
  | .filling => "fill"
  | .service => "middleware"

/-- A failure and the stage at which it came. -/
structure Setback where
  stage : Stage
  failure : Failure
  deriving Repr

/-- The setback of a failure at a stage. An unexpected failure escapes the stage. -/
def Failure.setback (stage : Stage) (failure : Failure) : Setback :=
  match failure with
  | .refused _ => ⟨stage, failure⟩
  | .unexpected _ => ⟨.service, failure⟩

/-- What an event tells. -/
inductive Notice where
  /-- The extraction of a form is begun: the lengths of both texts and how many blocks are left out. -/
  | structureBegun (template dictionary excluded : Nat)
  | structureDone (blocks aliases : Nat)
  /-- A fill is begun. -/
  | fillBegun (template values : Nat) (profile blocking : Bool)
  | fillDone (replaced unmatched errors : Nat)
  | failed (setback : Setback)
  deriving Repr

namespace Notice

/-- The name of what an event tells. -/
def name : Notice → Text
  | structureBegun .. | fillBegun .. => "start"
  | structureDone .. | fillDone .. => "done"
  | failed _ => "error"

/-- How serious an event is. -/
def level : Notice → Text
  | failed _ => "ERROR"
  | _ => "INFO"

/-- A count as JSON. -/
def countMember (key : Text) (count : Nat) : Text × Value := (key, .integer count)

/-- The facts of an event. -/
def facts : Notice → Table Value
  | structureBegun template dictionary excluded =>
    [textMember "endpoint" "structure", countMember "template_bytes" template,
      countMember "dictionary_bytes" dictionary, countMember "excluded_count" excluded]
  | structureDone blocks aliases =>
    [textMember "endpoint" "structure", countMember "block_count" blocks,
      countMember "alias_count" aliases]
  | fillBegun template values profile blocking =>
    [textMember "endpoint" "fill", countMember "template_bytes" template,
      countMember "value_count" values, ("profile_provided".toList, .bool profile),
      ("block_on_errors".toList, .bool blocking)]
  | fillDone replaced unmatched errors =>
    [textMember "endpoint" "fill", countMember "replaced_count" replaced,
      countMember "unmatched_count" unmatched, countMember "validation_error_count" errors]
  | failed setback =>
    [textMember "error_code" setback.failure.code, countMember "status_code" setback.failure.status,
      textMember "failure_stage" setback.stage.name]

end Notice

/-- An event of a request. -/
structure Event where
  request : Text
  notice : Notice
  deriving Repr

/-- An event as JSON. -/
def Event.payload (event : Event) : Value :=
  .object (textMember "event" event.notice.name :: textMember "request_id" event.request ::
    event.notice.facts)

end FormFill.Service

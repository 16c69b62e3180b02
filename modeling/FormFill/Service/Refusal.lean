import FormFill.Fault
import FormFill.Form.Payload

/-!
# Refusals

A request is refused for a reason that its sender, or whoever runs the service, can mend. A refusal has a
status, a code, a message and details. What goes wrong without being foreseen is a failure too, but says
nothing of its cause.
-/

namespace FormFill.Service

open Json (Value)

/-- Why a request is refused. -/
inductive Refusal where
  /-- The description of the service is switched off. -/
  | notDescribed (path : Text)
  /-- An upload has more bytes than the limit allows. -/
  | tooLarge (field : Text) (limit received : Nat)
  | notUtf8 (field : Text)
  | notJson (field text : Text) (fault : Json.Fault)
  | valuesNotAnObject
  | notTextList (field : Text)
  | invalidProfile (problems : List Schema.Problem)
  | invalidConfig (fault : Config.Fault)
  /-- Values fail their check: the messages by code. -/
  | rejectedValues (errors : Table Text)
  deriving Repr

namespace Refusal

/-- The status of a refusal. -/
def status : Refusal → Nat
  | notDescribed _ => 404
  | tooLarge .. => 413
  | notUtf8 _ | notJson .. | valuesNotAnObject | notTextList _ | invalidProfile _ => 400
  | invalidConfig _ => 500
  | rejectedValues _ => 422

/-- The code of a refusal. -/
def code : Refusal → Text
  | notDescribed _ => "NOT_FOUND"
  | tooLarge .. => "UPLOAD_TOO_LARGE"
  | notUtf8 _ => "INVALID_ENCODING"
  | notJson .. | valuesNotAnObject => "INVALID_JSON"
  | notTextList _ | invalidProfile _ => "INVALID_ARGUMENT"
  | invalidConfig _ => "INVALID_CONFIG"
  | rejectedValues _ => "VALIDATION_FAILED"

/-- The wording of a refusal. -/
def message : Refusal → Text
  | notDescribed _ => "meta endpoint is disabled"
  | tooLarge field _ _ => field ++ " exceeds upload size limit".toList
  | notUtf8 field => field ++ " must be UTF-8 text".toList
  | notJson field _ _ => field ++ " must be valid JSON".toList
  | valuesNotAnObject => "values JSON must be an object"
  | notTextList field => field ++ " must be a JSON array of strings".toList
  | invalidProfile _ => "profile JSON schema validation failed"
  | invalidConfig _ => "engine config is invalid"
  | rejectedValues _ => "field validation failed"

/-- The details of a refusal. -/
def detail : Refusal → Table Value
  | notDescribed path => [textMember "path" path]
  | tooLarge field limit received =>
    [textMember "field" field, ("max_bytes".toList, .integer limit),
      ("received_bytes".toList, .integer received)]
  | notUtf8 field | notTextList field => [textMember "field" field]
  | notJson field text fault =>
    [textMember "field" field, textMember "error" (fault.message text).toList]
  | valuesNotAnObject => [textMember "field" "values"]
  | invalidProfile problems =>
    [textMember "field" "profile", textMember "error" (Schema.headline "Profile" problems)]
  | invalidConfig fault => [textMember "error" fault.message]
  | rejectedValues errors => [("errors".toList, messagesPayload errors)]

end Refusal

/-- Why a request is not answered as it asks. -/
inductive Failure where
  | refused (refusal : Refusal)
  | unexpected (fault : Fault)
  deriving Repr

namespace Failure

/-- The status of a failure. -/
def status : Failure → Nat
  | refused refusal => refusal.status
  | unexpected _ => 500

/-- The code of a failure. -/
def code : Failure → Text
  | refused refusal => refusal.code
  | unexpected _ => "INTERNAL_ERROR"

/-- The wording of a failure. -/
def message : Failure → Text
  | refused refusal => refusal.message
  | unexpected _ => "internal server error"

/-- The details of a failure of a request for a path. -/
def detail (path : Text) : Failure → Table Value
  | refused refusal => refusal.detail
  | unexpected _ => [textMember "path" path]

end Failure

end FormFill.Service

import FormFill.Service.Refusal

/-!
# Texts of a form

Some of the texts that are sent with a request are JSON documents: the values of fields, a profile, and
lists of texts.
-/

namespace FormFill.Service

open Json (Value)

/-- Reads the JSON document of a field. -/
def readJson (field text : Text) : Except Failure Value :=
  match Json.read text with
  | .ok value => .ok value
  | .error (.tooManyDigits count) => .error (.unexpected (.json text (.tooManyDigits count)))
  | .error fault => .error (.refused (.notJson field text fault))

/-- Reads the values of fields. -/
def readValues (text : Text) : Except Failure Values :=
  match readJson "values" text with
  | .error failure => .error failure
  | .ok value =>
    match Values.ofJson? value with
    | some values => .ok values
    | none => .error (.refused .valuesNotAnObject)

/-- Reads a profile. -/
def readProfile (text : Text) : Except Failure Profile :=
  match readJson "profile" text with
  | .error failure => .error failure
  | .ok value =>
    match Profile.ofJson value with
    | .ok profile => .ok profile
    | .error problems => .error (.refused (.invalidProfile problems))

/-- A text given as JSON. -/
def textOfJson? : Value → Option Text
  | .string text => some text
  | _ => none

/-- Reads a list of texts. -/
def readTexts (field text : Text) : Except Failure (List Text) :=
  match readJson field text with
  | .error failure => .error failure
  | .ok (.array items) =>
    match items.mapM textOfJson? with
    | some texts => .ok texts
    | none => .error (.refused (.notTextList field))
  | .ok _ => .error (.refused (.notTextList field))

end FormFill.Service

import FormFill.Config
import FormFill.Form.Summary
import FormFill.Profile
import FormFill.Validation

/-!
# Filling forms

A fill extracts the form of a template, puts the values of a profile under the entered ones, checks
them, and substitutes them. A value that is missing is an empty text. If values fail their check and the
configuration says that this keeps the form from being filled, nothing is substituted.
-/

namespace FormFill

/-- The form of a template under a configuration. -/
def Form.read (template dictionary : Text) (config : Config) : Form :=
  Form.extract template dictionary config.excluded config.roles

/-- Why a form is not filled. -/
inductive FillFault where
  /-- Values fail their check: the messages by code, and the form. -/
  | rejected (errors : Table Text) (form : Form)
  | pattern (fault : Pattern.Fault)
  deriving Repr

/-- A form that has been filled. -/
structure Filled where
  form : Form
  values : Table Text
  output : Substitution.Output
  errors : Table Text
  deriving Repr

namespace Fill

/-- The values that are substituted: those of the profile, and over them those that were entered. -/
def merge (profile : Option Profile) (entered : Values) : Table Text :=
  Table.setAll (entered.map fun entry => (entry.1, entry.2.getD []))
    ((profile.map Profile.values).getD [])

/-- Values all of which are there. -/
def present (values : Table Text) : Values := values.map fun entry => (entry.1, some entry.2)

/-- Fills the form of a template. -/
def run (template dictionary : Text) (entered : Values) (config : Config) (profile : Option Profile)
    (release : Pattern.Release := .earlier) : Except FillFault Filled :=
  let form := Form.read template dictionary config
  let values := merge profile entered
  match Validation.checkForm form.nodes (present values) release with
  | .error fault => .error (.pattern fault)
  | .ok findings =>
    if !findings.errors.isEmpty && config.blocking then .error (.rejected findings.errors form)
    else .ok {
      form
      values
      output := Substitution.run template form.aliases (present values)
      errors := findings.errors }

end Fill

/-- The summary of a fill. -/
def Filled.summary (filled : Filled) : Text :=
  let report := filled.output.report
  let counts : Text :=
    "markers=".toList ++ Text.ofNat report.total ++ " replaced=".toList ++
      Text.ofNat report.replaced ++ " unmatched=".toList ++ Text.ofNat report.unmatched
  let listed (title : String) (items : List Text) : List Text :=
    if items.isEmpty then [] else [title.toList ++ Text.joined [',', ' '] items]
  Text.ofLines (["fill_summary:".toList, counts] ++ listed "filled_empty: " report.missing ++
    listed "validation_errors (not blocking): " (filled.errors.keys.mergeSort Text.le))

end FormFill

import FormFill.Disk
import FormFill.Fill
import FormFill.Json.Reader

/-!
# Faults

What can keep a request from being answered or a command from being carried out, apart from values that
fail their check. A fault is shown as its class and its wording.
-/

namespace FormFill

/-- The line that says how many problems a value has. -/
def Schema.headline (model : Text) (problems : List Schema.Problem) : Text :=
  let errors : Text := if problems.length = 1 then "error" else "errors"
  Text.ofNat problems.length ++ " validation ".toList ++ errors ++ " for ".toList ++ model

/-- Why a request is not answered or a command is not carried out. -/
inductive Fault where
  | disk (fault : DiskFault)
  | encoding (fault : Utf8.Fault)
  | json (text : Text) (fault : Json.Fault)
  /-- A document of the given kind that is not an object. -/
  | notAnObject (kind : Text)
  | profile (problems : List Schema.Problem)
  | config (fault : Config.Fault)
  | pattern (fault : Pattern.Fault)
  deriving Repr

namespace Fault

/-- The class of a fault. -/
def label : Fault → Text
  | .disk fault => fault.problem.label
  | .encoding _ => "UnicodeDecodeError"
  | .json _ (.malformed ..) => "JSONDecodeError"
  | .json _ (.tooManyDigits _) => "ValueError"
  | .notAnObject _ => "ValueError"
  | .profile _ => "ValidationError"
  | .config fault => fault.label
  | .pattern fault => fault.label.toList

/-- The wording of a fault. -/
def message : Fault → Text
  | .disk fault => fault.message
  | .encoding fault => fault.message
  | .json text fault => (fault.message text).toList
  | .notAnObject kind => kind ++ " JSON must be an object".toList
  | .profile problems => Schema.headline "Profile" problems
  | .config fault => fault.message
  | .pattern fault => fault.message.toList

end Fault

end FormFill

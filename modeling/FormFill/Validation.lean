import FormFill.Form.Tree
import FormFill.Pattern.Match
import FormFill.Substitution

/-!
# Validation

An entered value must match the pattern of its field as a whole. Empty values and fields without a
pattern always pass, and a malformed pattern is noted and asks for nothing. Faults of patterns of the
other kinds are not forgiven. Patterns are taken as an earlier release of their language takes them, unless
another release is asked for.
-/

namespace FormFill

namespace Validation

/-- The message for a field without one of its own. -/
def defaultErrorText : Text := "Неверный формат"

/-- What was found about a value. -/
inductive Verdict where
  | accepted
  /-- The pattern is malformed and asks for nothing. -/
  | unchecked (breach : Pattern.Breach)
  | rejected (message : Text)
  deriving DecidableEq, Repr

/-- A text, if it is there and not empty. -/
def nonEmpty? (text : Option Text) : Option Text := text.filter (!·.isEmpty)

/-- The message for a value of a field that does not match. -/
def errorText (field : Field) : Text := (nonEmpty? field.errorText).getD defaultErrorText

/-- Checks a value against the pattern of its field. -/
def check (field : Field) (value : Option Text) (release : Pattern.Release := .earlier) :
    Except Pattern.Fault Verdict :=
  match nonEmpty? field.pattern, nonEmpty? value with
  | some pattern, some value =>
    match Pattern.Node.read pattern with
    | .ok node => do
      if ← node.matchesAll release value then pure .accepted else pure (.rejected (errorText field))
    | .error (.malformed breach) => .ok (.unchecked breach)
    | .error fault => .error fault
  | _, _ => .ok .accepted

/-- What was found about a whole form: the messages by field code in the order of the fields, and the
number of malformed patterns noted. -/
structure Findings where
  errors : Table Text := []
  warnings : Nat := 0
  deriving DecidableEq, Repr

/-- Checks the values of fields one after the other. -/
def checkAll (release : Pattern.Release) (values : Values) :
    List Field → Findings → Except Pattern.Fault Findings
  | [], findings => .ok findings
  | field :: rest, findings => do
    match ← check field (values.valueOf? field.code) release with
    | .accepted => checkAll release values rest findings
    | .unchecked _ => checkAll release values rest { findings with warnings := findings.warnings + 1 }
    | .rejected message =>
      checkAll release values rest { findings with errors := findings.errors.set field.code message }

/-- Checks the values of a form tree. -/
def checkForm (nodes : List Node) (values : Values) (release : Pattern.Release := .earlier) :
    Except Pattern.Fault Findings :=
  checkAll release values (fieldsOf nodes) {}

end Validation

end FormFill

import FormFill.Form.Payload
import FormFill.Substitution

/-!
# Reports as JSON

The report of a substitution lists what became of each marker and sums it up.
-/

namespace FormFill

open Json (Value)

/-- What became of a marker as JSON. -/
def Substitution.Entry.payload (entry : Substitution.Entry) : Value :=
  let (status, code, newText) : Text × Value × Value := match entry.outcome with
    | .replaced code newText => ("replaced", .string code, .string newText)
    | .unmatched => ("unmatched", .null, .null)
  .object [textMember "status" status, textMember "alias" entry.marker.key, ("code".toList, code),
    ("start".toList, .integer entry.start), ("end".toList, .integer entry.stop),
    textMember "original_text" entry.marker.text, ("new_text".toList, newText)]

/-- A report as JSON. -/
def Substitution.Report.payload (report : Substitution.Report) : Value :=
  .object [("entries".toList, .array (report.entries.map (·.payload))),
    ("summary".toList, .object [("total_markers".toList, .integer report.total),
      ("replaced_count".toList, .integer report.replaced),
      ("unmatched_count".toList, .integer report.unmatched),
      ("missing_value_codes".toList, .array (report.missing.map .string))])]

end FormFill

import FormFill.Json.Value

/-!
# Field values

The values entered for fields, by field code. Values given as JSON are texts as they are shown, and
`null` stands for a value that is missing.
-/

namespace FormFill

/-- The values of fields by code; an entry without a value counts as missing. -/
abbrev Values := Table (Option Text)

namespace Values

/-- The value of a code, if there is one. -/
def valueOf? (values : Values) (code : Text) : Option Text := (values.get? code).join

/-- One value given as JSON. -/
def entryOfJson : Json.Value → Option Text
  | .null => none
  | value => some value.display

/-- The values given as a JSON object. -/
def ofJson? : Json.Value → Option Values
  | .object members => some (members.map fun member => (member.1, entryOfJson member.2))
  | _ => none

end Values

end FormFill

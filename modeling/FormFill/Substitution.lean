import FormFill.Markup.Marker
import FormFill.Values

/-!
# Substitution

Every marker whose key is the alias of a field is replaced by the field's value in one pass; inserted
values are not looked at again. Of several fields with one alias the first counts. A missing value is
an empty text, and markers with other keys stay as they are. A report lists what became of each marker.
-/

namespace FormFill

namespace Substitution

/-- What became of one marker. -/
inductive Outcome where
  | replaced (code newText : Text)
  | unmatched
  deriving DecidableEq, Repr

/-- A marker of the template, where it stands, and what became of it. -/
structure Entry where
  marker : Marker
  start : Nat
  outcome : Outcome
  deriving DecidableEq, Repr

namespace Entry

/-- Where the marker ends. -/
def stop (entry : Entry) : Nat := entry.start + entry.marker.text.length

/-- Whether the marker was replaced. -/
def isReplaced (entry : Entry) : Bool :=
  match entry.outcome with
  | .replaced .. => true
  | .unmatched => false

/-- The text that stands in the output in place of the marker. -/
def text (entry : Entry) : Text :=
  match entry.outcome with
  | .replaced _ newText => newText
  | .unmatched => entry.marker.text

end Entry

/-- The first code whose alias is the given key. -/
def codeOf? (aliases : Table Text) (key : Text) : Option Text :=
  (aliases.find? fun entry => entry.2 == key).map (·.1)

/-- What becomes of a marker. -/
def outcome (aliases : Table Text) (values : Values) (marker : Marker) : Outcome :=
  match codeOf? aliases marker.key with
  | some code => .replaced code ((values.valueOf? code).getD [])
  | none => .unmatched

/-- The entries of the markers among pieces that start at an offset. -/
def entriesFrom (aliases : Table Text) (values : Values) (offset : Nat) :
    List Marker.Piece → List Entry
  | [] => []
  | .plain _ :: rest => entriesFrom aliases values (offset + 1) rest
  | .marker marker :: rest =>
    ⟨marker, offset, outcome aliases values marker⟩ ::
      entriesFrom aliases values (offset + marker.text.length) rest

/-- The text of a piece in the output. -/
def pieceText (aliases : Table Text) (values : Values) : Marker.Piece → Text
  | .plain c => [c]
  | .marker marker =>
    match outcome aliases values marker with
    | .replaced _ newText => newText
    | .unmatched => marker.text

/-- What a substitution did. -/
structure Report where
  entries : List Entry
  /-- The codes with an alias whose value is missing. -/
  missing : List Text
  deriving DecidableEq, Repr

namespace Report

/-- The number of markers. -/
def total (report : Report) : Nat := report.entries.length

/-- The number of replaced markers. -/
def replaced (report : Report) : Nat := report.entries.countP (·.isReplaced)

/-- The number of markers left as they were. -/
def unmatched (report : Report) : Nat := report.total - report.replaced

end Report

/-- The result of a substitution. -/
structure Output where
  text : Text
  report : Report
  deriving DecidableEq, Repr

/-- Substitutes values into a template. -/
def run (template : Text) (aliases : Table Text) (values : Values) : Output :=
  let pieces := Marker.split template
  { text := pieces.flatMap (pieceText aliases values)
    report := {
      entries := entriesFrom aliases values 0 pieces
      missing := aliases.keys.filter fun code => (values.valueOf? code).isNone } }

/-- The text after a substitution. -/
def fill (template : Text) (aliases : Table Text) (values : Values) : Text :=
  (run template aliases values).text

end Substitution

end FormFill

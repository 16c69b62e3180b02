import FormFill.Form.Basic
import FormFill.Markup.Attribute
import FormFill.Markup.Element
import FormFill.Template.Ledger

/-!
# Parameters

A parameter element becomes a field when its body holds the opening of a marker or, for a selector,
when a marker fills its `CodeSelected`. A selector takes its code and its marker key from a choice
inside it, else from `CodeSelected`; any other parameter takes its code from `Code` and its marker key
from the first marker of its body. An element without a code is passed over.
-/

namespace FormFill

/-- The name of a field whose element has none. -/
def defaultFieldName : Text := "Без названия"

/-- What an element says about its field. -/
structure Parameter where
  kind : FieldKind
  rawCode : Text
  markerKey : Option Text
  name : Text
  pattern : Option Text
  errorText : Option Text
  /-- The dictionary that a selector names. -/
  dictionary : Option Text
  deriving DecidableEq, Repr

namespace Parameter

/-- The tags of parameter elements. -/
def tags : List Text := FieldKind.all.map FieldKind.tag

/-- The beginning of a choice inside a selector. -/
def choiceOpening : Text := '<' :: FieldKind.plain.tag

/-- The marker key in the `Code` of the first choice of a text that has one; it may be empty. -/
def firstChoiceKey? : Text → Option Text
  | [] => none
  | c :: rest =>
    match (Text.after? choiceOpening (c :: rest)).bind
        (Attribute.findMarkerInTag? "Code" choiceOpening.getLast?) with
    | some key => some key
    | none => firstChoiceKey? rest

/-- The marker key in `CodeSelected`, which may be empty. -/
def selectedKey? (attributes : Text) : Option Text :=
  Attribute.findMarker? "CodeSelected" none attributes

/-- The marker key of a selector. -/
def selectorKey? (element : Element) : Option Text :=
  ((firstChoiceKey? element.body).filter (!·.isEmpty)).or
    ((selectedKey? element.attributes).filter (!·.isEmpty))

/-- What a parameter element says about its field, if it makes one. -/
def ofElement? (element : Element) : Option Parameter :=
  match FieldKind.ofTag? element.tag with
  | none => none
  | some kind =>
    let isSelector := kind = .select
    let selected := if isSelector then selectedKey? element.attributes else none
    if element.selfClosing ∨ (¬Marker.occursIn element.body ∧ selected.isNone) then none
    else
      let own := Attribute.read? "Code" element.attributes
      let key := if isSelector then selectorKey? element else Marker.firstKey? element.body
      let code := if isSelector then key.or own else own
      code.map fun rawCode => {
        kind
        rawCode
        markerKey := key
        name := (Attribute.read? "Name" element.attributes).getD defaultFieldName
        pattern := Attribute.read? "RegEx" element.attributes
        errorText := Attribute.read? "ErrorText" element.attributes
        dictionary :=
          if isSelector then Attribute.read? "Dictionary" element.attributes else none }

/-- The parameters of a text, in order. -/
def all (text : Text) : List Parameter :=
  (Element.all tags text).filterMap ofElement?

/-- The field of a parameter under an issued code. A selector whose dictionary is known has its
options. -/
def field (dictionary : Dictionary) (parameter : Parameter) (code : Text) : Field :=
  let options := parameter.dictionary.bind dictionary.get?
  { kind := parameter.kind
    code
    name := parameter.name
    pattern := parameter.pattern
    errorText := parameter.errorText
    dictionary := if options.isSome then parameter.dictionary else none
    options }

/-- Issues the code of a parameter and records its marker key. -/
def enter (dictionary : Dictionary) (parameter : Parameter) (ledger : Ledger) : Field × Ledger :=
  let (number, ledger) := ledger.issue parameter.rawCode
  let code := Ledger.candidate parameter.rawCode number
  let ledger := match parameter.markerKey with
    | some key => ledger.record code (key ++ Ledger.suffix number)
    | none => ledger
  (parameter.field dictionary code, ledger)

/-- Enters parameters one after the other. -/
def enterAll (dictionary : Dictionary) : List Parameter → Ledger → List Field × Ledger
  | [], ledger => ([], ledger)
  | parameter :: rest, ledger =>
    let (field, ledger) := parameter.enter dictionary ledger
    let (fields, ledger) := enterAll dictionary rest ledger
    (field :: fields, ledger)

/-- The fields of a text and the ledger after them. -/
def extract (dictionary : Dictionary) (text : Text) (ledger : Ledger) : List Field × Ledger :=
  enterAll dictionary (all text) ledger

end Parameter

end FormFill

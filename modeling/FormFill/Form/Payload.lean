import FormFill.Form.Collapse
import FormFill.Json.Value

/-!
# Payloads

Forms as JSON. A section shows its name, whether it is collapsed, and its children; a
field shows its kind, code and name, and of its other properties those it has.
-/

namespace FormFill

open Json (Value)

/-- A property with a text. -/
def textMember (key text : Text) : Text × Value := (key, .string text)

/-- A property that is shown only when it is present. -/
def optionalMember (key : Text) (text : Option Text) : List (Text × Value) :=
  (text.map (textMember key)).toList

/-- An option as JSON. -/
def Choice.payload (choice : Choice) : Value :=
  .object [textMember "value" choice.value, textMember "label" choice.label]

/-- A field as JSON. -/
def Field.payload (field : Field) : Value :=
  .object ([textMember "type" field.kind.tag, textMember "code" field.code,
      textMember "name" field.name] ++
    optionalMember "regex" field.pattern ++ optionalMember "errorText" field.errorText ++
    optionalMember "dictionary" field.dictionary ++
    match field.options with
    | some options => [("options", .array (options.map Choice.payload))]
    | none => [])

mutual

/-- The node at a path as JSON; without a state every section is expanded. -/
def Node.payload (state : Option CollapseState) (path : Path) : Node → Value
  | .leaf field => field.payload
  | .branch name children =>
    .object [("name", .string name), ("collapsed", .bool (state.any (·.isCollapsed path))),
      ("children", .array (payloadsFrom state path 0 children))]

/-- The nodes from a position on as JSON. -/
def payloadsFrom (state : Option CollapseState) (parent : Path) (position : Nat) :
    List Node → List Value
  | [] => []
  | node :: rest =>
    node.payload state (parent ++ [(position : Int)]) ::
      payloadsFrom state parent (position + 1) rest

end

/-- A form as JSON. -/
def Form.payload (form : Form) (state : Option CollapseState) : Value :=
  .object [("structure", .array (payloadsFrom state [] 0 form.nodes)),
    ("aliasMap", .object (form.aliases.map fun entry => (entry.1, .string entry.2)))]

/-- Messages by code as JSON. -/
def messagesPayload (errors : Table Text) : Value :=
  .object (errors.map fun entry => textMember entry.1 entry.2)

end FormFill

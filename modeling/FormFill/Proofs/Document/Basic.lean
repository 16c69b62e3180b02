import FormFill.Proofs.Form.Source
import FormFill.Proofs.Ledger.Numbering
import FormFill.Proofs.Markup.Attribute
import FormFill.Proofs.Marker.Split

/-!
# Documents

A document is what the author of a well-formed template has in mind: forms with blocks, blocks with
wrappers, and wrappers with inputs and nested wrappers, together with the text around them. It can be
printed, and it says by itself which form it stands for, without any search in its text: its inputs are
numbered by their raw codes, and their fields are laid out in its sections.
-/

namespace FormFill.Document

/-- Text between elements. -/
structure Gap where
  text : Text
  plain : '<' ∉ text

/-- The value of an attribute. -/
structure Value where
  text : Text
  isValue : Attribute.IsValue text
  plain : '<' ∉ text

/-- What is inside an input that is no selector: text with a marker, the first of which has a key. -/
structure Body where
  text : Text
  key : Text
  plain : '<' ∉ text
  firstKey : Marker.firstKey? text = some key

/-- The marker in the choice of a selector. -/
structure ChoiceMarker where
  marker : Marker
  isKey : Marker.IsKey marker.key
  ne_nil : marker.key ≠ []
  noQuote : '"' ∉ marker.key
  plain : '<' ∉ marker.key

/-- The attributes of an element; those that are absent are not printed. -/
structure Attributes where
  code : Option Value := none
  name : Option Value := none
  pattern : Option Value := none
  errorText : Option Value := none
  dictionary : Option Value := none

/-- The attributes under their names. -/
def Attributes.entries (attributes : Attributes) : List (Text × Option Text) :=
  [("Code", attributes.code.map (·.text)), ("Name", attributes.name.map (·.text)),
    ("RegEx", attributes.pattern.map (·.text)), ("ErrorText", attributes.errorText.map (·.text)),
    ("Dictionary", attributes.dictionary.map (·.text))]

/-- An element with the given tag as it is printed. -/
def element (tag : Text) (attributes : Attributes) (inside : Text) : Text :=
  Element.written tag (Attribute.writtenAll attributes.entries) inside

/-- An input that is no selector. -/
structure Entry where
  kind : FieldKind
  notSelect : kind ≠ .select
  code : Value
  name : Option Value
  pattern : Option Value
  errorText : Option Value
  body : Body

namespace Entry

def attributes (entry : Entry) : Attributes where
  code := some entry.code
  name := entry.name
  pattern := entry.pattern
  errorText := entry.errorText

def text (entry : Entry) : Text := element entry.kind.tag entry.attributes entry.body.text

/-- What an entry says about its field. -/
def parameter (entry : Entry) : Parameter where
  kind := entry.kind
  rawCode := entry.code.text
  markerKey := some entry.body.key
  name := (entry.name.map (·.text)).getD defaultFieldName
  pattern := entry.pattern.map (·.text)
  errorText := entry.errorText.map (·.text)
  dictionary := none

/-- The field of an entry under a code. -/
def field (entry : Entry) (code : Text) : Field where
  kind := entry.kind
  code := code
  name := (entry.name.map (·.text)).getD defaultFieldName
  pattern := entry.pattern.map (·.text)
  errorText := entry.errorText.map (·.text)

end Entry

/-- A selector with one choice. -/
structure Selector where
  code : Option Value
  name : Option Value
  dictionary : Option Value
  before : Gap
  choice : ChoiceMarker
  after : Gap

/-- The tag of a choice, which closes itself. -/
def ChoiceMarker.tag (choice : ChoiceMarker) : Tag :=
  ⟨false, FieldKind.plain.tag, Attribute.written "Code" choice.marker.text ++ ['/']⟩

namespace Selector

def attributes (selector : Selector) : Attributes where
  code := selector.code
  name := selector.name
  dictionary := selector.dictionary

/-- What is inside a selector. -/
def inside (selector : Selector) : Text :=
  selector.before.text ++ selector.choice.tag.text ++ selector.after.text

def text (selector : Selector) : Text :=
  element FieldKind.select.tag selector.attributes selector.inside

/-- What a selector says about its field: the key of its choice is also its code. -/
def parameter (selector : Selector) : Parameter where
  kind := .select
  rawCode := selector.choice.marker.key
  markerKey := some selector.choice.marker.key
  name := (selector.name.map (·.text)).getD defaultFieldName
  pattern := none
  errorText := none
  dictionary := selector.dictionary.map (·.text)

/-- The options in the dictionary that a selector names, if it is known. -/
def options? (dictionary : Dictionary) (selector : Selector) : Option (List Choice) :=
  selector.dictionary.bind fun name => dictionary.get? name.text

/-- The field of a selector under a code. A dictionary is named only if it is known. -/
def field (dictionary : Dictionary) (selector : Selector) (code : Text) : Field where
  kind := .select
  code := code
  name := (selector.name.map (·.text)).getD defaultFieldName
  dictionary :=
    if (selector.options? dictionary).isSome then selector.dictionary.map (·.text) else none
  options := selector.options? dictionary

end Selector

/-- A parameter element of a document. -/
inductive Input where
  | plain (entry : Entry)
  | choosing (selector : Selector)

namespace Input

def text : Input → Text
  | .plain entry => entry.text
  | .choosing selector => selector.text

def parameter : Input → Parameter
  | .plain entry => entry.parameter
  | .choosing selector => selector.parameter

/-- The code that an input asks for. -/
def rawCode : Input → Text
  | .plain entry => entry.code.text
  | .choosing selector => selector.choice.marker.key

/-- The key of the marker of an input. -/
def key : Input → Text
  | .plain entry => entry.body.key
  | .choosing selector => selector.choice.marker.key

/-- The field of an input under a code. -/
def field (dictionary : Dictionary) (code : Text) : Input → Field
  | .plain entry => entry.field code
  | .choosing selector => selector.field dictionary code

end Input

/-- The attributes of a wrapper or a block. -/
def titled (code name : Option Value) : Attributes := { code, name }

/-- What is inside a wrapper: inputs and nested wrappers, each after a gap, and a gap at the end. -/
inductive Contents where
  | last (gap : Gap)
  | leaf (gap : Gap) (input : Input) (rest : Contents)
  | nest (gap : Gap) (code name : Option Value) (inside rest : Contents)

def Contents.text : Contents → Text
  | .last gap => gap.text
  | .leaf gap input rest => gap.text ++ input.text ++ rest.text
  | .nest gap code name inside rest =>
    gap.text ++ element "Section" (titled code name) inside.text ++ rest.text

/-- The nodes of a wrapper: a section of its own if the wrapper has a code. -/
def wrapped (code name : Option Value) (nodes : List Node) : List Node :=
  if code.isSome then [.branch ((name.map (·.text)).getD defaultSectionName) nodes] else nodes

/-- The inputs in the contents of a wrapper, in order. -/
def Contents.inputs : Contents → List Input
  | .last _ => []
  | .leaf _ input rest => input :: rest.inputs
  | .nest _ _ _ inside rest => inside.inputs ++ rest.inputs

/-- The nodes that the contents of a wrapper stand for. The fields come in the order of the inputs, and those
of what follows stand after them. -/
def Contents.nodes : Contents → List Field → List Node
  | .last _, _ => []
  | .leaf _ _ rest, fields => (fields.take 1).map .leaf ++ rest.nodes (fields.drop 1)
  | .nest _ code name inside rest, fields =>
    wrapped code name (inside.nodes fields) ++ rest.nodes (fields.drop inside.inputs.length)

/-- A wrapper of a block with the gap before it. -/
structure Wrapper where
  gap : Gap
  code : Option Value
  name : Option Value
  inside : Contents

def Wrapper.text (wrapper : Wrapper) : Text :=
  wrapper.gap.text ++ element "Section" (titled wrapper.code wrapper.name) wrapper.inside.text

/-- The nodes that wrappers stand for, with fields that come in the order of the inputs. -/
def wrapperNodes : List Wrapper → List Field → List Node
  | [], _ => []
  | wrapper :: rest, fields =>
    wrapped wrapper.code wrapper.name (wrapper.inside.nodes fields) ++
      wrapperNodes rest (fields.drop wrapper.inside.inputs.length)

/-- The kinds of blocks. -/
inductive BlockKind where
  | simple
  | alt
  | multi

/-- The tag of a kind of block. -/
def BlockKind.tag : BlockKind → Text
  | simple => "Simple"
  | alt => "Alt"
  | multi => "Multi"

/-- A block of a form with the gap before it; `last` stands after the wrappers. -/
structure Block where
  gap : Gap
  kind : BlockKind
  code : Value
  name : Option Value
  wrappers : List Wrapper
  last : Gap

namespace Block

/-- What is inside a block. -/
def inside (block : Block) : Text := block.wrappers.flatMap (·.text) ++ block.last.text

def text (block : Block) : Text :=
  block.gap.text ++ element block.kind.tag (titled (some block.code) block.name) block.inside

/-- The inputs of a block, in order. -/
def inputs (block : Block) : List Input := block.wrappers.flatMap (·.inside.inputs)

end Block

/-- The blocks whose code is neither among those passed nor that of an earlier block. -/
def kept (passed : List Text) : List Block → List Block
  | [] => []
  | block :: rest =>
    if block.code.text ∈ passed then kept passed rest
    else block :: kept (block.code.text :: passed) rest

/-- The sections of blocks, with fields that come in the order of the inputs. -/
def blockNodes : List Block → List Field → List Node
  | [], _ => []
  | block :: rest, fields =>
    .branch ((block.name.map (·.text)).getD defaultBlockName) (wrapperNodes block.wrappers fields) ::
      blockNodes rest (fields.drop block.inputs.length)

/-- A form of a document with the gap before it; `last` stands after the blocks. -/
structure Form where
  gap : Gap
  role : Value
  blocks : List Block
  last : Gap

namespace Form

/-- What is inside a form. -/
def inside (form : Form) : Text := form.blocks.flatMap (·.text) ++ form.last.text

def text (form : Form) : Text := form.gap.text ++ element "Form" { code := form.role } form.inside

end Form

end FormFill.Document

namespace FormFill

/-- A document; `last` stands after the forms. -/
structure Document where
  forms : List Document.Form
  last : Document.Gap

namespace Document

/-- A document as it is printed. -/
def text (document : Document) : Text := document.forms.flatMap (·.text) ++ document.last.text

/-- The blocks of the forms with the wanted roles, in order. -/
def blocks (roles : List Text) (document : Document) : List Block :=
  (document.forms.filter fun form => roles.contains form.role.text).flatMap (·.blocks)

/-- The form that a document stands for: the kept blocks, whose inputs get the codes that their raw codes
determine. The alias of an input is its key with the suffix of its number. -/
def form (dictionary : Dictionary) (excluded roles : List Text) (document : Document) :
    FormFill.Form :=
  let kept := kept excluded (document.blocks roles)
  let inputs := kept.flatMap (·.inputs)
  let issued := NumberedCode.numberAll (inputs.map (·.rawCode))
  { nodes := blockNodes kept
      (List.zipWith (fun input issued => input.field dictionary issued.code) inputs issued)
    aliases := List.zipWith
      (fun input issued => (issued.code, input.key ++ Ledger.suffix issued.number)) inputs issued }

end Document

end FormFill

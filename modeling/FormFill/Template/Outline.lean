import FormFill.Template.Parameter
import FormFill.Text.Search

/-!
# Outlines

The outline of a template is what its markup says before any code is issued: the blocks of the forms
with the wanted roles, and in each block the wrappers with their parameters and nested wrappers in
order. A wrapper with a code is a section of its own; the contents of a wrapper without one belong to
its parent.
-/

namespace FormFill

/-- The name of a block whose element has none. -/
def defaultBlockName : Text := "Без названия"

/-- The name of a section whose element has none. -/
def defaultSectionName : Text := "Раздел"

/-- A part of a wrapper. -/
inductive Item where
  | parameter (parameter : Parameter)
  /-- A wrapper; without a title its parts belong to the parent. -/
  | wrapper (title : Option Text) (items : List Item)
  deriving Repr

namespace Item

/-- The tags of wrappers. -/
def tags : List Text := ["Section".toList]

/-- The title of a wrapper element: its name or the default one if it has a code. -/
def title? (attributes : Text) : Option Text :=
  (Attribute.read? "Code" attributes).map fun _ =>
    (Attribute.read? "Name" attributes).getD defaultSectionName

/-- The parameters of a piece of text as items. -/
def parameters (text : Text) : List Item := (Parameter.all text).map parameter

/-- The items of a text from an offset on, given the wrappers in it and what is inside each. -/
def between (inside : Element → List Item) (text : Text) : (offset : Nat) → List Element → List Item
  | offset, [] => parameters (text.drop offset)
  | offset, nested :: rest =>
    parameters (Text.slice offset nested.start text) ++
      (if nested.selfClosing then []
        else [wrapper (title? nested.attributes) (inside nested)]) ++
      between inside text nested.stop rest

/-- The items of a wrapper's body; the fuel bounds the nesting. -/
def ofBody : (fuel : Nat) → Text → List Item
  | 0, _ => []
  | fuel + 1, text => between (fun nested => ofBody fuel nested.body) text 0 (Element.all tags text)

/-- The wrapper that an element is. -/
def ofElement (element : Element) : Item :=
  wrapper (title? element.attributes) (ofBody element.body.length element.body)

end Item

/-- A block of a form. -/
structure Block where
  code : Text
  name : Text
  items : List Item
  deriving Repr

namespace Block

/-- The tags of blocks. -/
def tags : List Text := ["Simple".toList, "Alt".toList, "Multi".toList]

/-- The tags of forms. -/
def formTags : List Text := ["Form".toList]

/-- The block that an element is, if it has a code. -/
def ofElement? (element : Element) : Option Block :=
  if element.selfClosing then none
  else (Attribute.read? "Code" element.attributes).map fun code => {
    code
    name := (Attribute.read? "Name" element.attributes).getD defaultBlockName
    items := ((Element.all Item.tags element.body).filter (!·.selfClosing)).map Item.ofElement }

/-- Whether an element is a form with one of the wanted roles. -/
def isWanted (roles : List Text) (element : Element) : Bool :=
  !element.selfClosing && (Attribute.read? "Code" element.attributes).any (roles.contains ·)

/-- The blocks of the forms with the wanted roles, in order. -/
def all (roles : List Text) (template : Text) : List Block :=
  ((Element.all formTags template).filter (isWanted roles)).flatMap fun form =>
    (Element.all tags form.body).filterMap ofElement?

/-- The blocks that are kept: the first one with each code that is not among those excluded. -/
def retained (excluded : List Text) : List Block → List Block
  | [] => []
  | block :: rest =>
    if block.code ∈ excluded then retained excluded rest
    else block :: retained (block.code :: excluded) rest

end Block

end FormFill

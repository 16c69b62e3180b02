import FormFill.Table

/-!
# Forms

A form is a tree of sections whose leaves are the fields to be filled, together with the aliases of
the fields: for each field code the key of the marker that takes the field's value.
-/

namespace FormFill

/-- The kinds of parameters that a template can hold. -/
inductive FieldKind where
  | plain
  | text
  | date
  | select
  | memo
  deriving DecidableEq, Repr

namespace FieldKind

/-- The kinds in the order in which tags are looked for. -/
def all : List FieldKind := [plain, text, date, select, memo]

/-- The tag of a kind. -/
def tag : FieldKind → Text
  | plain => "Param"
  | text => "ParamText"
  | date => "ParamDate"
  | select => "ParamSelect"
  | memo => "ParamMemo"

/-- The kind with the given tag. -/
def ofTag? (tag : Text) : Option FieldKind := all.find? (·.tag == tag)

theorem ofTag?_tag (kind : FieldKind) : ofTag? kind.tag = some kind := by
  cases kind <;> decide

end FieldKind

/-- An option of a lookup dictionary. -/
structure Choice where
  value : Text
  label : Text
  deriving DecidableEq, Repr

/-- Lists of options by the name of the dictionary. -/
abbrev Dictionary := Table (List Choice)

/-- A field to be filled. -/
structure Field where
  kind : FieldKind
  code : Text
  name : Text
  /-- The pattern that entered values must match. -/
  pattern : Option Text := none
  /-- The message for a value that does not match. -/
  errorText : Option Text := none
  dictionary : Option Text := none
  options : Option (List Choice) := none
  deriving DecidableEq, Repr

/-- A node of the form tree. -/
inductive Node where
  | leaf (field : Field)
  /-- A section with its name. -/
  | branch (name : Text) (children : List Node)
  deriving Repr

/-- A form: the tree and the marker key of each field that has one. -/
structure Form where
  nodes : List Node
  aliases : Table Text
  deriving Repr

end FormFill

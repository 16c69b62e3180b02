import FormFill.Yaml.Moment
import FormFill.Yaml.Number

/-!
# Tags

The tag of a node says what kind of value it is. A node without one has the tag of its shape, and a
plain scalar has the tag that its look suggests.
-/

namespace FormFill.Yaml

/-- The tag of a node. -/
inductive Tag where
  | null
  | bool
  | integer
  | real
  | binary
  | moment
  | text
  | sequence
  | mapping
  | orderedMap
  | pairs
  | set
  /-- The key under which other mappings are merged. -/
  | merge
  /-- The key of the value that a mapping stands for. -/
  | defaultKey
  | unknown
  deriving DecidableEq, Repr

namespace Tag

/-- The beginning of the tags that the format itself defines. -/
def standard : Text := "tag:yaml.org,2002:"

/-- The tag with the given text. -/
def ofText (text : Text) : Tag :=
  match (Text.after? standard text).map String.ofList with
  | some "null" => null
  | some "bool" => bool
  | some "int" => integer
  | some "float" => real
  | some "binary" => binary
  | some "timestamp" => moment
  | some "str" => Tag.text
  | some "seq" => sequence
  | some "map" => mapping
  | some "omap" => orderedMap
  | some "pairs" => pairs
  | some "set" => set
  | some "merge" => merge
  | some "value" => defaultKey
  | _ => unknown

/-- Whether nodes with this tag are collections. -/
def isCollection : Tag → Bool
  | sequence | mapping | orderedMap | pairs | set => true
  | _ => false

/-- The words for truth values. -/
def boolWords : List String :=
  ["yes", "Yes", "YES", "no", "No", "NO", "true", "True", "TRUE", "false", "False", "FALSE", "on", "On",
    "ON", "off", "Off", "OFF"]

/-- The words for no value. -/
def nullWords : List String := ["~", "null", "Null", "NULL", ""]

/-- A text without the line feed at its end, if one is there. -/
def withoutLineFeed (text : Text) : Text :=
  if text.getLast? = some '\n' then text.dropLast else text

/-- Whether a text looks like a moment: a time needs a date, and a date alone needs all its digits. -/
def looksLikeMoment (text : Text) : Bool :=
  (Moment.read? text).any fun found => found.1.time.isSome || found.2

/-- The tag that the look of a plain scalar suggests. -/
def ofPlain (text : Text) : Tag :=
  if text = ['\n'] then Tag.text
  else
    let text := withoutLineFeed text
    let word := String.ofList text
    if boolWords.contains word then bool
    else if Number.looksReal text then real
    else if Number.looksInteger text then integer
    else if word = "<<" then merge
    else if nullWords.contains word then null
    else if looksLikeMoment text then moment
    else if word = "=" then defaultKey
    else if word = "!" ∨ word = "&" ∨ word = "*" then unknown
    else Tag.text

end Tag

end FormFill.Yaml

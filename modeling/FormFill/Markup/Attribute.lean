import FormFill.Markup.Marker
import FormFill.Text.Search
import FormFill.Text.Word

/-!
# Attributes

An attribute is a name, an equals sign and a quoted value. Inside an element the first attribute of a
name counts, and a name is looked for only where no character of a longer name stands before it. An
empty value counts as absent.
-/

namespace FormFill

namespace Attribute

/-- Whether a name may begin after the given character. -/
def mayBegin (before : Option Char) : Bool :=
  before.all fun c => !Text.isNameChar c

/-- The beginning of an attribute up to its value. -/
def opening (name : Text) : Text := name ++ ['=', '"']

/-- The value of the attribute that a text begins with, if it has the given name. -/
def valueHere? (name text : Text) : Option Text := do
  let value ← Text.after? (opening name) text
  let (value, _) ← Text.splitAt? ['"'] (fun _ => true) value
  pure value

/-- The value of the first attribute with the given name in a text that follows the character
`before`. -/
def find? (name : Text) (before : Option Char) : Text → Option Text
  | [] => none
  | c :: rest =>
    match if mayBegin before then valueHere? name (c :: rest) else none with
    | some value => some value
    | none => find? name (some c) rest

/-- The value of the attribute with the given name, if it is present and not empty. -/
def read? (name attributes : Text) : Option Text :=
  (find? name none attributes).filter (!·.isEmpty)

/-- The key of the marker that fills the attribute with which a text begins, if it has the given
name. The key ends at the first end of a marker that is followed by a quote, in the same line. -/
def markerHere? (name text : Text) : Option Text := do
  let value ← Text.after? (opening name) text
  let (_, key) ← Marker.afterOpening? value
  let (key, _) ← Text.splitAt? (Marker.closing ++ ['"']) (· != '\n') key
  pure key

/-- The key of the first marker that fills an attribute with the given name, in a text that follows
the character `before`. -/
def findMarker? (name : Text) (before : Option Char) : Text → Option Text
  | [] => none
  | c :: rest =>
    match if mayBegin before then markerHere? name (c :: rest) else none with
    | some key => some key
    | none => findMarker? name (some c) rest

/-- The same within one tag: the search ends at the first `>`. -/
def findMarkerInTag? (name : Text) (before : Option Char) : Text → Option Text
  | [] => none
  | c :: rest =>
    match if mayBegin before then markerHere? name (c :: rest) else none with
    | some key => some key
    | none => if c = '>' then none else findMarkerInTag? name (some c) rest

end Attribute

end FormFill

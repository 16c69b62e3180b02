import FormFill.Config

/-!
# Requests

A request names a method and a target and may send a form, whose parts are files and texts. A form must
keep within limits. Before a request is handled its form is checked as a whole, and all problems with it
are told at once.
-/

namespace FormFill.Service

/-- A part of a form. -/
inductive Part where
  | file (bytes : List UInt8)
  | text (text : Text)
  deriving DecidableEq, Repr

/-- A request. -/
structure Request where
  method : Text
  target : Text
  parts : List (Text × Part)
  deriving DecidableEq, Repr

/-! ## Limits -/

/-- How a form exceeds its limits. -/
inductive Excess where
  | fields
  | files
  | text
  deriving DecidableEq, Repr

namespace Excess

/-- The greatest number of texts, and of files, in a form. -/
def partLimit : Nat := 1000

/-- The greatest number of bytes in a text of a form that has files. -/
def textLimit : Nat := 1024 * 1024

/-- The wording of an excess. -/
def message : Excess → Text
  | fields => "Too many fields. Maximum number of fields is 1000."
  | files => "Too many files. Maximum number of files is 1000."
  | text => "Part exceeded maximum size of 1024KB."

/-- The first excess of parts, after a number of texts and files. Texts are measured only if the form has
files. -/
def ofParts? (measured : Bool) (textCount fileCount : Nat) : List (Text × Part) → Option Excess
  | [] => none
  | (_, .text content) :: rest =>
    if partLimit ≤ textCount then some fields
    else if measured && textLimit < (Utf8.encode content).length then some text
    else ofParts? measured (textCount + 1) fileCount rest
  | (_, .file _) :: rest =>
    if partLimit ≤ fileCount then some files
    else ofParts? measured textCount (fileCount + 1) rest

end Excess

namespace Request

/-- Whether a form has files. -/
def hasFiles (request : Request) : Bool :=
  request.parts.any fun part => match part.2 with
    | .file _ => true
    | .text _ => false

/-- How the form of a request exceeds its limits, if it does. -/
def excess? (request : Request) : Option Excess :=
  Excess.ofParts? request.hasFiles 0 0 request.parts

/-! ## Parts -/

/-- The part with a name. Of several parts the last counts, and an empty text counts as no part. -/
def part? (request : Request) (name : Text) : Option Part :=
  match request.parts.reverse.lookup name with
  | some (.text []) => none
  | part => part

/-- The file with a name, which must be there. -/
def file (request : Request) (name : Text) : Except Schema.ProblemKind (List UInt8) :=
  match request.part? name with
  | some (.file bytes) => .ok bytes
  | some (.text _) => .error .valueError
  | none => .error .missing

/-- The text with a name, which may be absent. -/
def text? (request : Request) (name : Text) : Except Schema.ProblemKind (Option Text) :=
  match request.part? name with
  | some (.text text) => .ok (some text)
  | some (.file _) => .error .stringType
  | none => .ok none

/-- The truth value with a name, which may be absent. -/
def bool? (request : Request) (name : Text) : Except Schema.ProblemKind (Option Bool) :=
  match request.part? name with
  | some (.text text) =>
    match Config.boolOfText? text with
    | some value => .ok (some value)
    | none => .error .boolParsing
  | some (.file _) => .error .boolType
  | none => .ok none

/-- The problem with the part of a name, if there is one. -/
def problemOf {α : Type} (name : Text) : Except Schema.ProblemKind α → List Schema.Problem
  | .ok _ => []
  | .error kind => [⟨[.key "body", .key name], kind⟩]

end Request

/-- The form of a request to extract the form of a template. -/
structure StructureForm where
  template : List UInt8
  dictionary : List UInt8
  excluded : Option Text
  deriving DecidableEq, Repr

/-- Reads the form of a request to extract the form of a template. -/
def StructureForm.read (request : Request) : Except (List Schema.Problem) StructureForm :=
  match request.file "template", request.file "dictionary", request.text? "excluded_codes" with
  | .ok template, .ok dictionary, .ok excluded => .ok { template, dictionary, excluded }
  | template, dictionary, excluded =>
    .error (Request.problemOf "template" template ++ Request.problemOf "dictionary" dictionary ++
      Request.problemOf "excluded_codes" excluded)

/-- The form of a request to fill a template. -/
structure FillForm where
  template : List UInt8
  dictionary : List UInt8
  values : Option Text
  profile : Option Text
  blocking : Option Bool
  deriving DecidableEq, Repr

/-- Reads the form of a request to fill a template. -/
def FillForm.read (request : Request) : Except (List Schema.Problem) FillForm :=
  match request.file "template", request.file "dictionary", request.text? "values",
    request.text? "profile", request.bool? "block_on_errors" with
  | .ok template, .ok dictionary, .ok values, .ok profile, .ok blocking =>
    .ok { template, dictionary, values, profile, blocking }
  | template, dictionary, values, profile, blocking =>
    .error (Request.problemOf "template" template ++ Request.problemOf "dictionary" dictionary ++
      Request.problemOf "values" values ++ Request.problemOf "profile" profile ++
      Request.problemOf "block_on_errors" blocking)

end FormFill.Service

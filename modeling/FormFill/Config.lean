import FormFill.Schema
import FormFill.Template.Extraction
import FormFill.Text.LineEnds
import FormFill.Text.Utf8
import FormFill.Yaml.Reader

/-!
# Configuration

The settings of extraction and filling: the codes of blocks that are left out, the roles of the forms
that are read, and whether values that fail their check keep a form from being filled. A document may
leave out any of them, and must hold nothing else.
-/

namespace FormFill

/-- The settings of extraction and filling. -/
structure Config where
  excluded : List Text := []
  roles : List Text := Form.defaultRoles
  blocking : Bool := true
  deriving DecidableEq, Repr

namespace Config

/-- The settings that hold unless others are given. -/
def shipped : Config where
  excluded := ["Versions".toList, "Transfer".toList, "Print".toList, "ContractorDate".toList,
    "RegisterRight".toList, "ContractorNumber".toList, "Contractor".toList,
    "ContractorRegNumber".toList, "Utilization".toList, "Flats".toList,
    "RightRegisteredUnregistered".toList, "AgentLetter".toList, "XXX".toList, "NameSRO".toList,
    "ContractorSRO".toList, "Conclusion".toList]

/-! ## The schema -/

/-- The key of the codes that are left out. -/
def excludedKey : Text := "excluded_codes"

/-- The key of the roles that are read. -/
def rolesKey : Text := "form_roles"

/-- The key of the blocking setting. -/
def blockingKey : Text := "block_on_validation_errors"

/-- The keys of the settings, in the order in which they are checked. -/
def keys : List Text := [excludedKey, rolesKey, blockingKey]

/-- A result, or problems with the value it comes from. -/
abbrev Checked (α : Type) := Except (List Schema.Problem) α

/-- The text that a datum is, or the problem with it. Bytes are taken as UTF-8. -/
def textOf (path : List Schema.Step) : Datum → Except Schema.Problem Text
  | .text text => .ok text
  | .bytes bytes =>
    match Utf8.decode bytes with
    | .ok text => .ok text
    | .error _ => .error ⟨path, .stringUnicode⟩
  | _ => .error ⟨path, .stringType⟩

/-- The texts of the items of a list from a position on, and the problems with the others. -/
def textsFrom (path : List Schema.Step) (position : Nat) : List Datum → List Text × List Schema.Problem
  | [] => ([], [])
  | item :: rest =>
    let (texts, problems) := textsFrom path (position + 1) rest
    match textOf (path ++ [.index position]) item with
    | .ok text => (text :: texts, problems)
    | .error problem => (texts, problem :: problems)

/-- The list of texts that a datum is. -/
def textList (key : Text) : Datum → Checked (List Text)
  | .list items =>
    match textsFrom [.key key] 0 items with
    | (texts, []) => .ok texts
    | (_, problems) => .error problems
  | _ => .error [⟨[.key key], .listType⟩]

/-- The truth value that a word stands for, in capital or small letters. -/
def boolOfText? (text : Text) : Option Bool :=
  match String.ofList (text.map Char.toLower) with
  | "0" | "off" | "f" | "false" | "n" | "no" => some false
  | "1" | "on" | "t" | "true" | "y" | "yes" => some true
  | _ => none

/-- The truth value that a number stands for. -/
def boolOfInt? (n : Int) : Option Bool :=
  if n = 0 then some false else if n = 1 then some true else none

/-- The number of whole numbers with a sign that fit into 64 bits, halved. -/
def half64 : Int := Nat.pow 2 63

/-- Whether a whole number fits into 64 bits with a sign, strictly between the ends. -/
def isInside64 (n : Int) : Bool := -half64 < n && n < half64

/-- The truth value that a datum stands for, or the kind of problem with it. -/
def boolOf : Datum → Except Schema.ProblemKind Bool
  | .bool value => .ok value
  | .text text => orParsing (boolOfText? text)
  | .bytes bytes =>
    match Utf8.decode bytes with
    | .ok text => orParsing (boolOfText? text)
    | .error _ => .error .boolParsing
  | .integer n => orParsing (boolOfInt? n)
  | .real x =>
    match x.toInt? with
    | some n => if isInside64 n then orParsing (boolOfInt? n) else .error .boolType
    | none => .error .boolType
  | _ => .error .boolType
where
  /-- A truth value, or the problem that the value does not denote one. -/
  orParsing (value : Option Bool) : Except Schema.ProblemKind Bool :=
    match value with
    | some value => .ok value
    | none => .error .boolParsing

/-- The truth value of a key. -/
def boolAt (key : Text) (datum : Datum) : Checked Bool :=
  match boolOf datum with
  | .ok value => .ok value
  | .error kind => .error [⟨[.key key], kind⟩]

/-- The step to a key that is no text. -/
def keyStep : Datum → Schema.Step
  | .bool value => .index (if value then 1 else 0)
  | .integer n =>
    if -half64 ≤ n ∧ n < half64 then .index n else .key (Datum.integer n).keyLiteral
  | key => .key key.keyLiteral

/-- The problem with a key, unless it is the key of a setting. -/
def keyProblem? : Datum → Option Schema.Problem
  | .text key => if keys.contains key then none else some ⟨[.key key], .extraForbidden⟩
  | key => some ⟨[keyStep key], .invalidKey⟩

/-- The value of a key of a mapping. -/
def valueOf? (entries : List (Datum × Datum)) (key : Text) : Option Datum :=
  (entries.find? fun entry => entry.1.sameKey (.text key)).map (·.2)

/-- The value of a setting, or what it is if it is left out. -/
def setting {α : Type} (entries : List (Datum × Datum)) (key : Text) (unset : α)
    (read : Text → Datum → Checked α) : Checked α :=
  match valueOf? entries key with
  | some value => read key value
  | none => .ok unset

/-- The problems of a checked value. -/
def problemsOf {α : Type} : Checked α → List Schema.Problem
  | .ok _ => []
  | .error problems => problems

/-- The configuration that the entries of a mapping give. -/
def ofEntries (entries : List (Datum × Datum)) : Checked Config :=
  let unset : Config := {}
  let excluded := setting entries excludedKey unset.excluded textList
  let roles := setting entries rolesKey unset.roles textList
  let blocking := setting entries blockingKey unset.blocking boolAt
  let others := entries.filterMap fun entry => keyProblem? entry.1
  match excluded, roles, blocking, others with
  | .ok excluded, .ok roles, .ok blocking, [] => .ok { excluded, roles, blocking }
  | _, _, _, _ =>
    .error (problemsOf excluded ++ problemsOf roles ++ problemsOf blocking ++ others)

/-- The configuration that a datum gives. -/
def ofDatum : Datum → Checked Config
  | .mapping entries => ofEntries entries
  | _ => .error [⟨[], .modelType⟩]

/-! ## Documents -/

/-- Why a configuration is not read. All but the last two name the place it should come from. -/
inductive Fault where
  | missing (place : Text)
  | malformed (place : Text)
  | notAMapping (place : Text)
  | schema (place : Text) (problems : List Schema.Problem)
  | encoding (fault : Utf8.Fault)
  | value (fault : Yaml.Fault)
  deriving DecidableEq, Repr

/-- The wording of a fault. -/
def Fault.message : Fault → Text
  | .missing place => "Config file not found: ".toList ++ place
  | .malformed place => "Invalid YAML in config file: ".toList ++ place
  | .notAMapping place => "Config file must contain a mapping: ".toList ++ place
  | .schema place _ => "Invalid config schema: ".toList ++ place
  | .encoding fault => fault.message
  | .value fault => fault.message

/-- The class of a fault, as it is shown before its wording. -/
def Fault.label : Fault → Text
  | .encoding _ => "UnicodeDecodeError"
  | .value fault => fault.label
  | _ => "ValueError"

/-- Whether a fault lies in the configuration as such. The others are values that escape all checks. -/
def Fault.isInvalid : Fault → Bool
  | .value fault => fault.label == "ValueError".toList
  | _ => true

/-- Reads the configuration in a text that comes from a place. An empty text leaves out everything. -/
def ofText (place text : Text) : Except Fault Config :=
  match Yaml.read text with
  | .error .malformed => .error (.malformed place)
  | .error fault => .error (.value fault)
  | .ok .null => .ok {}
  | .ok (.mapping entries) =>
    match ofEntries entries with
    | .ok config => .ok config
    | .error problems => .error (.schema place problems)
  | .ok _ => .error (.notAMapping place)

/-- Reads the configuration in the bytes that come from a place. -/
def ofBytes (place : Text) (bytes : List UInt8) : Except Fault Config :=
  match Utf8.decode bytes with
  | .ok text => ofText place (Text.withLineFeeds text)
  | .error fault => .error (.encoding fault)

end Config

end FormFill

import FormFill.Json.Value

/-!
# Schema problems

What is wrong with a structured value: where the fault is and of what kind it is.
-/

namespace FormFill.Schema

/-- A step on the way to a part of a value. -/
inductive Step where
  | key (key : Text)
  | index (index : Int)
  deriving DecidableEq, Repr

/-- The kinds of problems. -/
inductive ProblemKind where
  | missing
  | valueError
  | stringType
  | stringUnicode
  | listType
  | boolType
  | boolParsing
  | extraForbidden
  | modelType
  | invalidKey
  deriving DecidableEq, Repr

/-- The name of a kind of problem. -/
def ProblemKind.name : ProblemKind → Text
  | .missing => "missing"
  | .valueError => "value_error"
  | .stringType => "string_type"
  | .stringUnicode => "string_unicode"
  | .listType => "list_type"
  | .boolType => "bool_type"
  | .boolParsing => "bool_parsing"
  | .extraForbidden => "extra_forbidden"
  | .modelType => "model_type"
  | .invalidKey => "invalid_key"

/-- A problem and where it is. -/
structure Problem where
  path : List Step
  kind : ProblemKind
  deriving DecidableEq, Repr

/-- A step as JSON. -/
def Step.payload : Step → Json.Value
  | .key text => .string text
  | .index position => .integer position

/-- A problem as JSON: the place and the kind. -/
def Problem.payload (problem : Problem) : Json.Value :=
  .array [.array (problem.path.map (·.payload)), .string problem.kind.name]

end FormFill.Schema

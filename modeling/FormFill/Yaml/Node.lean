import FormFill.Yaml.Tag

/-!
# Nodes

A document is a graph: a node may be repeated under an alias, even inside itself. Nodes have numbers,
and collections hold the numbers of their members.
-/

namespace FormFill.Yaml

/-- What a node holds. -/
inductive Content where
  | scalar (text : Text)
  | sequence (items : List Nat)
  | mapping (entries : List (Nat × Nat))
  deriving Repr

/-- A node. -/
structure Node where
  tag : Tag
  content : Content
  deriving Repr

/-- The nodes of a document by number. -/
abbrev Graph := Array Node

namespace Graph

/-- The tag of a node. -/
def tagOf (graph : Graph) (id : Nat) : Tag := (graph[id]?.map (·.tag)).getD .unknown

/-- What a node holds. -/
def contentOf (graph : Graph) (id : Nat) : Content :=
  (graph[id]?.map (·.content)).getD (.sequence [])

/-- The entries of a mapping. -/
def entriesOf (graph : Graph) (id : Nat) : List (Nat × Nat) :=
  match graph.contentOf id with
  | .mapping entries => entries
  | _ => []

/-- Gives a node a tag. -/
def retag (graph : Graph) (id : Nat) (tag : Tag) : Graph :=
  graph.modify id fun node => { node with tag }

/-- Gives a node a content. -/
def fill (graph : Graph) (id : Nat) (content : Content) : Graph :=
  graph.modify id fun node => { node with content }

end Graph

/-- A document: its nodes and the number of the one it consists of. -/
structure Document where
  graph : Graph
  root : Nat
  deriving Repr

end FormFill.Yaml

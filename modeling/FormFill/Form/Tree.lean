import FormFill.Form.Basic

/-!
# The form tree

The fields of a tree in order, and its sections with their paths. A path lists the positions of the
nodes from the top down, so it is good for one tree only; both fields and sections take up positions.
-/

namespace FormFill

/-- The positions of the nodes that lead to a node. -/
abbrev Path := List Int

/-- A section of a tree. -/
structure Section where
  name : Text
  children : List Node

mutual

/-- The fields at and below a node, in order. -/
def Node.fields : Node → List Field
  | .leaf field => [field]
  | .branch _ children => fieldsOf children

/-- The fields of a list of nodes, in order. -/
def fieldsOf : List Node → List Field
  | [] => []
  | node :: rest => node.fields ++ fieldsOf rest

end

mutual

/-- The sections at and below the node at a path, each before those inside it. -/
def Node.sections (path : Path) : Node → List (Path × Section)
  | .leaf _ => []
  | .branch name children => (path, ⟨name, children⟩) :: sectionsFrom path 0 children

/-- The sections of the nodes from a position on. -/
def sectionsFrom (parent : Path) (position : Nat) : List Node → List (Path × Section)
  | [] => []
  | node :: rest =>
    node.sections (parent ++ [(position : Int)]) ++ sectionsFrom parent (position + 1) rest

end

/-- The sections of a list of nodes below a path. -/
def sectionsOf (parent : Path) (nodes : List Node) : List (Path × Section) :=
  sectionsFrom parent 0 nodes

end FormFill

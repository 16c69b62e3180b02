import FormFill.Form.Tree

/-!
# Collapsed sections

Which sections are collapsed is kept beside the tree as a set of paths. A path in the set need not name
a section.
-/

namespace FormFill

/-- The set of collapsed paths. -/
structure CollapseState where
  paths : List Path
  deriving Repr

namespace CollapseState

/-- Whether a path is collapsed. -/
def isCollapsed (state : CollapseState) (path : Path) : Bool := state.paths.contains path

/-- Flips one path and tells whether it is collapsed now. -/
def flip (state : CollapseState) (path : Path) : Bool × CollapseState :=
  if state.isCollapsed path then (false, ⟨state.paths.filter (· != path)⟩)
  else (true, ⟨path :: state.paths⟩)

/-- Flips one path. -/
def toggle (state : CollapseState) (path : Path) : CollapseState := (state.flip path).2

/-- Collapses the sections of a tree and nothing else. -/
def collapseAll (nodes : List Node) : CollapseState := ⟨(sectionsOf [] nodes).map (·.1)⟩

/-- Collapses nothing. -/
def expandAll : CollapseState := ⟨[]⟩

/-- A flipped path is collapsed afterwards if it was not before; no other path changes. -/
theorem isCollapsed_toggle (state : CollapseState) (path other : Path) :
    (state.toggle path).isCollapsed other =
      if other = path then !state.isCollapsed path else state.isCollapsed other := by
  unfold toggle flip
  split
  next h =>
    by_cases heq : other = path
    · simp_all [isCollapsed]
    · simp [isCollapsed, heq]
  next h =>
    by_cases heq : other = path
    · simp_all [isCollapsed]
    · simp [isCollapsed, heq]

/-- What can be done to a collapse state. -/
inductive Operation where
  | toggle (path : Path)
  /-- Collapses the sections of a tree, which need not be the tree of earlier operations. -/
  | collapseAll (nodes : List Node)
  | expandAll
  deriving Repr

/-- Carries out an operation. Only flipping a path has an answer. -/
def Operation.perform (state : CollapseState) : Operation → Option Bool × CollapseState
  | toggle path => (some (state.flip path).1, (state.flip path).2)
  | collapseAll nodes => (none, .collapseAll nodes)
  | expandAll => (none, .expandAll)

/-- The state after operations. -/
def run (state : CollapseState) (operations : List Operation) : CollapseState :=
  operations.foldl (fun state operation => (operation.perform state).2) state

/-- The answers to operations. -/
def answers (state : CollapseState) : List Operation → List (Option Bool)
  | [] => []
  | operation :: rest => (operation.perform state).1 :: answers (operation.perform state).2 rest

end CollapseState

end FormFill

import FormFill.Form.Tree
import Mathlib.Data.List.Forall2

/-!
# Paths of a form tree

A path leads to at most one node of a tree. Listed with its path, parents before children, every node
comes once, and the paths increase from each node to the next. The sections of a tree are the sections
of this list, and its fields are the other nodes.
-/

namespace FormFill

/-- The node at a position of a list. -/
def childAt? (children : List Node) (position : Int) : Option Node :=
  if position < 0 then none else children[position.toNat]?

theorem childAt?_eq_some_iff {children : List Node} {position : Int} {node : Node} :
    childAt? children position = some node ↔
      ∃ index : Nat, position = index ∧ children[index]? = some node := by
  rw [childAt?]
  constructor
  · intro h
    split at h
    · cases h
    · exact ⟨position.toNat, by omega, h⟩
  · rintro ⟨index, rfl, hindex⟩
    rw [if_neg (by omega), Int.toNat_natCast, hindex]

namespace Node

/-- The children of a node; a field has none. -/
def children : Node → List Node
  | .leaf _ => []
  | .branch _ children => children

/-- The field that a node is. -/
def field? : Node → Option Field
  | .leaf field => some field
  | .branch _ _ => none

/-- The section that a node is. -/
def section? : Node → Option Section
  | .leaf _ => none
  | .branch name children => some ⟨name, children⟩

/-- The node to which a path leads from a node. -/
def below? : Path → Node → Option Node
  | [], node => some node
  | position :: path, node => (childAt? node.children position).bind (below? path)

end Node

/-- The node to which a path leads in a tree. The empty path leads to none. -/
def nodeAt? (nodes : List Node) : Path → Option Node
  | [] => none
  | position :: path => (childAt? nodes position).bind (Node.below? path)

mutual

/-- The nodes at and below the node at a path with their paths, each before those inside it. -/
def Node.listed (path : Path) : Node → List (Path × Node)
  | .leaf field => [(path, .leaf field)]
  | .branch name children => (path, .branch name children) :: listedFrom path 0 children

/-- The nodes at and below those from a position on, with their paths. -/
def listedFrom (parent : Path) (position : Nat) : List Node → List (Path × Node)
  | [] => []
  | node :: rest =>
    node.listed (parent ++ [(position : Int)]) ++ listedFrom parent (position + 1) rest

end

/-- The nodes of a tree with their paths. -/
def listed (nodes : List Node) : List (Path × Node) := listedFrom [] 0 nodes

/-! ## Sections and fields -/

/-- The section in an entry of the list. -/
def sectionEntry? (entry : Path × Node) : Option (Path × Section) :=
  entry.2.section?.map (entry.1, ·)

mutual

theorem Node.sections_eq_filterMap (path : Path) : ∀ node : Node,
    node.sections path = (node.listed path).filterMap sectionEntry?
  | .leaf field => rfl
  | .branch name children => by
      rw [Node.sections, sectionsFrom_eq_filterMap path 0 children]
      rfl

theorem sectionsFrom_eq_filterMap (parent : Path) (position : Nat) : ∀ nodes : List Node,
    sectionsFrom parent position nodes =
      (listedFrom parent position nodes).filterMap sectionEntry?
  | [] => rfl
  | node :: rest => by
      rw [sectionsFrom, listedFrom, List.filterMap_append,
        Node.sections_eq_filterMap _ node, sectionsFrom_eq_filterMap parent _ rest]

end

mutual

theorem Node.fields_eq_filterMap (path : Path) : ∀ node : Node,
    node.fields = (node.listed path).filterMap (·.2.field?)
  | .leaf field => rfl
  | .branch name children => by
      rw [Node.fields, fieldsOf_eq_filterMap path 0 children]
      rfl

theorem fieldsOf_eq_filterMap (parent : Path) (position : Nat) : ∀ nodes : List Node,
    fieldsOf nodes = (listedFrom parent position nodes).filterMap (·.2.field?)
  | [] => rfl
  | node :: rest => by
      rw [fieldsOf, listedFrom, List.filterMap_append, Node.fields_eq_filterMap _ node,
        fieldsOf_eq_filterMap parent _ rest]

end

/-! ## The list and the paths -/

mutual

/-- The entries of a node are the nodes to which paths lead from it. -/
theorem Node.mem_listed_iff {start path : Path} {found : Node} : ∀ node : Node,
    (path, found) ∈ node.listed start ↔ ∃ rest, path = start ++ rest ∧ node.below? rest = some found
  | .leaf field => by
      rw [Node.listed, List.mem_singleton, Prod.mk.injEq]
      constructor
      · rintro ⟨rfl, rfl⟩
        exact ⟨[], (List.append_nil path).symm, rfl⟩
      · rintro ⟨rest, rfl, hbelow⟩
        cases rest with
        | nil => exact ⟨List.append_nil start, (Option.some.inj hbelow).symm⟩
        | cons position rest =>
            simp [Node.below?, Node.children, childAt?] at hbelow
  | .branch name children => by
      rw [Node.listed, List.mem_cons, Prod.mk.injEq, mem_listedFrom_iff children]
      constructor
      · rintro (⟨rfl, rfl⟩ | ⟨index, rest, rfl, child, hchild, hbelow⟩)
        · exact ⟨[], (List.append_nil path).symm, rfl⟩
        · refine ⟨((0 + index : Nat) : Int) :: rest, rfl, ?_⟩
          have hposition : childAt? children ((0 + index : Nat) : Int) = some child :=
            childAt?_eq_some_iff.mpr ⟨index, by omega, hchild⟩
          rw [Node.below?, Node.children, hposition, Option.bind_some, hbelow]
      · rintro ⟨rest, rfl, hbelow⟩
        cases rest with
        | nil => exact Or.inl ⟨List.append_nil start, (Option.some.inj hbelow).symm⟩
        | cons position rest =>
            obtain ⟨child, hchild, hrest⟩ := Option.bind_eq_some_iff.mp hbelow
            obtain ⟨index, rfl, hindex⟩ := childAt?_eq_some_iff.mp hchild
            exact Or.inr ⟨index, rest, by rw [Nat.zero_add], child, hindex, hrest⟩

/-- The entries of nodes from a position on are the nodes to which paths lead from one of them. -/
theorem mem_listedFrom_iff {parent path : Path} {position : Nat} {found : Node} :
    ∀ nodes : List Node, (path, found) ∈ listedFrom parent position nodes ↔
      ∃ (index : Nat) (rest : Path), path = parent ++ ((position + index : Nat) : Int) :: rest ∧
        ∃ child, nodes[index]? = some child ∧ child.below? rest = some found
  | [] => by simp [listedFrom]
  | node :: rest => by
      rw [listedFrom, List.mem_append, Node.mem_listed_iff node, mem_listedFrom_iff rest]
      constructor
      · rintro (⟨more, rfl, hbelow⟩ | ⟨index, more, rfl, child, hchild, hbelow⟩)
        · exact ⟨0, more, by simp, node, rfl, hbelow⟩
        · refine ⟨index + 1, more, ?_, child, hchild, hbelow⟩
          rw [Nat.add_assoc, Nat.add_comm 1 index]
      · rintro ⟨index, more, rfl, child, hchild, hbelow⟩
        cases index with
        | zero =>
            obtain rfl : node = child := Option.some.inj hchild
            exact Or.inl ⟨more, by simp, hbelow⟩
        | succ index =>
            refine Or.inr ⟨index, more, ?_, child, hchild, hbelow⟩
            rw [Nat.add_assoc, Nat.add_comm 1 index]

end

/-- The list holds the nodes of a tree under the paths that lead to them. -/
theorem mem_listed_iff {nodes : List Node} {path : Path} {node : Node} :
    (path, node) ∈ listed nodes ↔ nodeAt? nodes path = some node := by
  rw [listed, mem_listedFrom_iff]
  constructor
  · rintro ⟨index, rest, rfl, child, hchild, hbelow⟩
    have hposition : childAt? nodes ((0 + index : Nat) : Int) = some child :=
      childAt?_eq_some_iff.mpr ⟨index, by omega, hchild⟩
    rw [List.nil_append, nodeAt?, hposition, Option.bind_some, hbelow]
  · intro h
    cases path with
    | nil => cases h
    | cons position rest =>
        obtain ⟨child, hchild, hbelow⟩ := Option.bind_eq_some_iff.mp h
        obtain ⟨index, rfl, hindex⟩ := childAt?_eq_some_iff.mp hchild
        exact ⟨index, rest, by rw [Nat.zero_add, List.nil_append], child, hindex, hbelow⟩

/-! ## The order of the paths -/

/-- A path comes before every longer one that begins with it. -/
theorem Path.lt_append_cons (path : Path) (position : Int) (rest : Path) :
    path < path ++ position :: rest := by
  have hlt : path ++ [] < path ++ position :: rest :=
    List.append_left_lt (List.nil_lt_cons position rest)
  rwa [List.append_nil] at hlt

/-- Of two paths that part at some place the one with the smaller position comes first. -/
theorem Path.append_cons_lt (parent : Path) {first second : Int} (hlt : first < second)
    (rest more : Path) : parent ++ first :: rest < parent ++ second :: more :=
  List.append_left_lt (List.cons_lt_cons_iff.mpr (Or.inl hlt))

mutual

theorem Node.pairwise_listed (path : Path) : ∀ node : Node,
    (node.listed path).Pairwise fun earlier later => earlier.1 < later.1
  | .leaf field => List.pairwise_singleton _ _
  | .branch name children => by
      rw [Node.listed, List.pairwise_cons]
      refine ⟨?_, pairwise_listedFrom path 0 children⟩
      rintro ⟨lower, found⟩ hmem
      obtain ⟨index, rest, rfl, -⟩ := (mem_listedFrom_iff children).mp hmem
      exact Path.lt_append_cons path _ rest

theorem pairwise_listedFrom (parent : Path) (position : Nat) : ∀ nodes : List Node,
    (listedFrom parent position nodes).Pairwise fun earlier later => earlier.1 < later.1
  | [] => List.Pairwise.nil
  | node :: rest => by
      rw [listedFrom, List.pairwise_append]
      refine ⟨Node.pairwise_listed _ node, pairwise_listedFrom parent _ rest, ?_⟩
      -- What is at or below this node has its position, and what comes later a greater one.
      rintro ⟨first, found⟩ hfirst ⟨second, other⟩ hsecond
      obtain ⟨more, rfl, -⟩ := (Node.mem_listed_iff node).mp hfirst
      obtain ⟨index, last, rfl, -⟩ := (mem_listedFrom_iff rest).mp hsecond
      rw [List.append_assoc, List.singleton_append]
      exact Path.append_cons_lt parent (by omega) more last

end

theorem pairwise_listed (nodes : List Node) :
    (listed nodes).Pairwise fun earlier later => earlier.1 < later.1 :=
  pairwise_listedFrom [] 0 nodes

/-- The sections of a tree come with increasing paths. -/
theorem pairwise_sectionsOf (nodes : List Node) :
    (sectionsOf [] nodes).Pairwise fun earlier later => earlier.1 < later.1 := by
  rw [sectionsOf, sectionsFrom_eq_filterMap]
  refine (pairwise_listed nodes).filterMap sectionEntry? ?_
  intro earlier later hlt first hfirst second hsecond
  obtain ⟨_, -, rfl⟩ := Option.map_eq_some_iff.mp hfirst
  obtain ⟨_, -, rfl⟩ := Option.map_eq_some_iff.mp hsecond
  exact hlt

/-- The sections of a tree are the sections to which paths lead. -/
theorem mem_sectionsOf_iff {nodes : List Node} {path : Path} {name : Text} {children : List Node} :
    (path, ⟨name, children⟩) ∈ sectionsOf [] nodes ↔
      nodeAt? nodes path = some (.branch name children) := by
  rw [sectionsOf, sectionsFrom_eq_filterMap, List.mem_filterMap, ← mem_listed_iff]
  constructor
  · rintro ⟨⟨found, node⟩, hmem, hentry⟩
    cases node with
    | leaf field => cases hentry
    | branch other nodes' =>
        cases hentry
        exact hmem
  · intro hmem
    exact ⟨_, hmem, rfl⟩

/-- The entries of the list that are fields. -/
def listedFields (nodes : List Node) : List (Path × Node) :=
  (listed nodes).filter (·.2.field?.isSome)

/-- The fields of a tree are the nodes that are no sections, in the order of their paths. -/
theorem forall₂_listedFields (nodes : List Node) :
    List.Forall₂ (fun path field => nodeAt? nodes path = some (.leaf field))
      ((listedFields nodes).map (·.1)) (fieldsOf nodes) := by
  have hfields : fieldsOf nodes = (listed nodes).filterMap (·.2.field?) :=
    fieldsOf_eq_filterMap [] 0 nodes
  have hpaths : ∀ entry ∈ listed nodes, nodeAt? nodes entry.1 = some entry.2 :=
    fun entry hmem => mem_listed_iff.mp hmem
  rw [listedFields, hfields]
  generalize listed nodes = entries at hpaths ⊢
  induction entries with
  | nil => exact List.Forall₂.nil
  | cons entry rest ih =>
      obtain ⟨path, node⟩ := entry
      obtain ⟨hentry, hrest⟩ := List.forall_mem_cons.mp hpaths
      cases node with
      | leaf field => exact List.Forall₂.cons hentry (ih hrest)
      | branch name children => exact ih hrest

theorem pairwise_listedFields (nodes : List Node) :
    ((listedFields nodes).map (·.1)).Pairwise (· < ·) := by
  rw [List.pairwise_map]
  exact (pairwise_listed nodes).filter _

/-- A path that leads to a field is one of those of the fields. -/
theorem mem_listedFields {nodes : List Node} {path : Path} {field : Field}
    (h : nodeAt? nodes path = some (.leaf field)) : path ∈ (listedFields nodes).map (·.1) := by
  have hmem : (path, Node.leaf field) ∈ listedFields nodes :=
    List.mem_filter.mpr ⟨mem_listed_iff.mpr h, rfl⟩
  exact List.mem_map_of_mem hmem

end FormFill

import FormFill.Form.Payload
import FormFill.Proofs.Form.Paths
import FormFill.Proofs.Table

/-!
# Reading payloads

A payload shows all of a form: the tree and the aliases are read back from it, whichever sections are
collapsed. A walk over the payload that counts the children of each section comes to the sections of the
tree under their paths, with the names and the states that are shown.
-/

namespace FormFill

open Json (Value)

namespace Payload

/-- The text that a value is. -/
def text? : Value → Option Text
  | .string text => some text
  | _ => none

/-- The truth value that a value is. -/
def bool? : Value → Option Bool
  | .bool value => some value
  | _ => none

/-- The text under a key. -/
def textAt? (key : Text) (members : Table Value) : Option Text := (members.get? key).bind text?

/-- The text under a key that may be absent. -/
def optionalAt? (key : Text) (members : Table Value) : Option (Option Text) :=
  match members.get? key with
  | some value => (text? value).map some
  | none => some none

/-- Reads an option. -/
def choice? : Value → Option Choice
  | .object members => do
    pure ⟨← textAt? "value" members, ← textAt? "label" members⟩
  | _ => none

/-- The options of a field, which may be absent. -/
def optionsAt? (members : Table Value) : Option (Option (List Choice)) :=
  match members.get? "options" with
  | some (.array items) => (items.mapM choice?).map some
  | some _ => none
  | none => some none

/-- Reads a field. -/
def field? (members : Table Value) : Option Field := do
  let kind ← FieldKind.ofTag? (← textAt? "type" members)
  let code ← textAt? "code" members
  let name ← textAt? "name" members
  let pattern ← optionalAt? "regex" members
  let errorText ← optionalAt? "errorText" members
  let dictionary ← optionalAt? "dictionary" members
  let options ← optionsAt? members
  pure { kind, code, name, pattern, errorText, dictionary, options }

/-- The key under which a section shows its children. -/
def childrenKey : Text := "children"

mutual

/-- Reads a node: a section if it shows children, else a field. -/
def node? : Value → Option Node
  | .object members =>
    match children? members with
    | some children => (textAt? "name" members).map (.branch · children)
    | none => (field? members).map .leaf
  | _ => none

/-- Reads the children among the members of a node. -/
def children? : List (Text × Value) → Option (List Node)
  | [] => none
  | (key, .array items) :: rest => if key = childrenKey then nodes? items else children? rest
  | _ :: rest => children? rest

/-- Reads nodes. -/
def nodes? : List Value → Option (List Node)
  | [] => some []
  | item :: rest => do pure ((← node? item) :: (← nodes? rest))

end

/-- Reads an entry of the aliases. -/
def alias? (entry : Text × Value) : Option (Text × Text) := (text? entry.2).map (entry.1, ·)

/-- Reads a form. -/
def form? (payload : Value) : Option Form := do
  let nodes ← match payload.get? "structure" with
    | some (.array items) => nodes? items
    | _ => none
  let aliases ← match payload.get? "aliasMap" with
    | some (.object members) => members.mapM alias?
    | _ => none
  pure ⟨nodes, aliases⟩

/-- What a section shows of itself: its name and whether it is collapsed. -/
def heading? (members : Table Value) : Option (Text × Bool) := do
  pure (← textAt? "name" members, ← (members.get? "collapsed").bind bool?)

mutual

/-- The sections that the node at a path shows, each before those inside it. -/
def sections (path : Path) : Value → List (Path × Text × Bool)
  | .object members => ((heading? members).map (path, ·)).toList ++ sectionsInside path members
  | _ => []

/-- The sections among the children of the node at a path. -/
def sectionsInside (path : Path) : List (Text × Value) → List (Path × Text × Bool)
  | [] => []
  | (key, .array items) :: rest =>
    (if key = childrenKey then sectionsFrom path 0 items else []) ++ sectionsInside path rest
  | _ :: rest => sectionsInside path rest

/-- The sections of nodes from a position on. -/
def sectionsFrom (parent : Path) (position : Nat) : List Value → List (Path × Text × Bool)
  | [] => []
  | item :: rest =>
    sections (parent ++ [(position : Int)]) item ++ sectionsFrom parent (position + 1) rest

end

/-- The sections that a form shows. -/
def formSections (payload : Value) : List (Path × Text × Bool) :=
  match payload.get? "structure" with
  | some (.array items) => sectionsFrom [] 0 items
  | _ => []

/-! ## Fields -/

theorem choice?_payload (choice : Choice) : choice? choice.payload = some choice := rfl

theorem mapM_choice?_payload (choices : List Choice) :
    (choices.map Choice.payload).mapM choice? = some choices := by
  induction choices with
  | nil => rfl
  | cons choice rest ih => rw [List.map_cons, List.mapM_cons, choice?_payload, ih]; rfl

/-- A property that is shown only when it is present is found only under its own key. -/
theorem get?_optionalMember (key other : Text) (text : Option Text) :
    Table.get? key (optionalMember other text) = if key = other then text.map .string else none := by
  cases text with
  | none => simp [optionalMember, Table.get?]
  | some text =>
      by_cases heq : key = other
      · simp [optionalMember, textMember, Table.get?, heq]
      · have hne : (key == other) = false := beq_eq_false_iff_ne.mpr heq
        simp [optionalMember, textMember, Table.get?, List.lookup_cons, heq, hne]

/-- The members of a field as it is shown. -/
def fieldMembers (field : Field) : Table Value :=
  [textMember "type" field.kind.tag, textMember "code" field.code,
      textMember "name" field.name] ++
    optionalMember "regex" field.pattern ++ optionalMember "errorText" field.errorText ++
    optionalMember "dictionary" field.dictionary ++
    match field.options with
    | some options => [("options", .array (options.map Choice.payload))]
    | none => []

theorem field_payload (field : Field) : field.payload = .object (fieldMembers field) := rfl

theorem get?_fieldMembers (field : Field) (key : Text) :
    Table.get? key (fieldMembers field) =
      ((((Table.get? key [textMember "type" field.kind.tag, textMember "code" field.code,
          textMember "name" field.name]).or
        (if key = "regex".toList then field.pattern.map .string else none)).or
        (if key = "errorText".toList then field.errorText.map .string else none)).or
        (if key = "dictionary".toList then field.dictionary.map .string else none)).or
        (if key = "options".toList then
          field.options.map fun options => .array (options.map Choice.payload) else none) := by
  rw [fieldMembers, Table.get?_append, Table.get?_append, Table.get?_append, Table.get?_append,
    get?_optionalMember, get?_optionalMember, get?_optionalMember]
  congr 1
  cases field.options with
  | none => simp only [Table.get?, List.lookup_nil, Option.map_none, ite_self]
  | some options =>
      by_cases heq : key = "options".toList
      · simp only [Table.get?, List.lookup_cons, heq, beq_self_eq_true, if_true, Option.map_some]
      · have hne : (key == "options".toList) = false := beq_eq_false_iff_ne.mpr heq
        simp only [Table.get?, List.lookup_cons, List.lookup_nil, hne, if_neg heq]

/-- The optional texts of a field are read back, those that are absent as absent. -/
theorem optionalAt?_fieldMembers (field : Field) :
    optionalAt? "regex" (fieldMembers field) = some field.pattern ∧
      optionalAt? "errorText" (fieldMembers field) = some field.errorText ∧
      optionalAt? "dictionary" (fieldMembers field) = some field.dictionary := by
  refine ⟨?_, ?_, ?_⟩
  · rw [optionalAt?, get?_fieldMembers]
    cases field.pattern <;> rfl
  · rw [optionalAt?, get?_fieldMembers]
    cases field.errorText <;> rfl
  · rw [optionalAt?, get?_fieldMembers]
    cases field.dictionary <;> rfl

theorem optionsAt?_fieldMembers (field : Field) :
    optionsAt? (fieldMembers field) = some field.options := by
  rw [optionsAt?, get?_fieldMembers]
  cases field.options with
  | none => rfl
  | some options =>
      change ((options.map Choice.payload).mapM choice?).map some = _
      rw [mapM_choice?_payload]
      rfl

theorem field?_fieldMembers (field : Field) : field? (fieldMembers field) = some field := by
  obtain ⟨hpattern, herrorText, hdictionary⟩ := optionalAt?_fieldMembers field
  have htype : textAt? "type" (fieldMembers field) = some field.kind.tag := rfl
  have hcode : textAt? "code" (fieldMembers field) = some field.code := rfl
  have hname : textAt? "name" (fieldMembers field) = some field.name := rfl
  rw [field?, htype, hcode, hname, hpattern, herrorText, hdictionary,
    optionsAt?_fieldMembers field, Option.bind_eq_bind, Option.bind_some,
    FieldKind.ofTag?_tag]
  rfl

/-! ## Nodes -/

theorem children?_of_not_mem {members : Table Value} (hno : childrenKey ∉ members.keys) :
    children? members = none := by
  induction members with
  | nil => rfl
  | cons member rest ih =>
      obtain ⟨key, value⟩ := member
      rw [Table.keys, List.map_cons, List.mem_cons, not_or] at hno
      cases value with
      | array items => rw [children?, if_neg (Ne.symm hno.1), ih hno.2]
      | _ => exact ih hno.2

theorem sectionsInside_of_not_mem {members : Table Value} (hno : childrenKey ∉ members.keys)
    (path : Path) : sectionsInside path members = [] := by
  induction members with
  | nil => rfl
  | cons member rest ih =>
      obtain ⟨key, value⟩ := member
      rw [Table.keys, List.map_cons, List.mem_cons, not_or] at hno
      cases value with
      | array items => rw [sectionsInside, if_neg (Ne.symm hno.1), ih hno.2, List.nil_append]
      | _ => exact ih hno.2

/-- A field shows neither children nor a state. -/
theorem get?_fieldMembers_of_section (field : Field) :
    Table.get? childrenKey (fieldMembers field) = none ∧
      Table.get? "collapsed" (fieldMembers field) = none := by
  rw [get?_fieldMembers, get?_fieldMembers]
  exact ⟨rfl, rfl⟩

theorem childrenKey_not_mem (field : Field) : childrenKey ∉ (fieldMembers field).keys :=
  Table.get?_eq_none_iff.mp (get?_fieldMembers_of_section field).1

variable (state : Option CollapseState)

mutual

/-- A node is read back from what it shows. -/
theorem node?_payload (path : Path) : ∀ node : Node, node? (node.payload state path) = some node
  | .leaf field => by
      rw [Node.payload, field_payload, node?, children?_of_not_mem (childrenKey_not_mem field),
        field?_fieldMembers]
      rfl
  | .branch name children => by
      have hchildren := nodes?_payloadsFrom path 0 children
      rw [Node.payload, node?]
      change (match nodes? (payloadsFrom state path 0 children) with
        | some children => some (Node.branch name children)
        | none => _) = _
      rw [hchildren]

/-- Nodes are read back from what they show. -/
theorem nodes?_payloadsFrom (parent : Path) (position : Nat) : ∀ nodes : List Node,
    nodes? (payloadsFrom state parent position nodes) = some nodes
  | [] => rfl
  | node :: rest => by
      rw [payloadsFrom, nodes?, node?_payload _ node, nodes?_payloadsFrom parent _ rest]
      rfl

end

/-- What a section of the tree shows under its path. -/
def shown (entry : Path × Section) : Path × Text × Bool :=
  (entry.1, entry.2.name, state.any (·.paths.contains entry.1))

mutual

/-- A node shows its sections under their paths. -/
theorem sections_payload (path : Path) : ∀ node : Node,
    sections path (node.payload state path) = (node.sections path).map (shown state)
  | .leaf field => by
      have hheading : heading? (fieldMembers field) = none := by
        rw [heading?, (get?_fieldMembers_of_section field).2]
        rfl
      rw [Node.payload, field_payload, sections, hheading,
        sectionsInside_of_not_mem (childrenKey_not_mem field)]
      rfl
  | .branch name children => by
      have hchildren := sectionsFrom_payloadsFrom path 0 children
      rw [Node.payload, Node.sections, List.map_cons, ← hchildren, sections]
      change (path, name, state.any (·.isCollapsed path)) ::
        (sectionsFrom path 0 (payloadsFrom state path 0 children) ++ []) = _
      rw [List.append_nil]
      rfl

/-- Nodes show their sections under their paths. -/
theorem sectionsFrom_payloadsFrom (parent : Path) (position : Nat) : ∀ nodes : List Node,
    sectionsFrom parent position (payloadsFrom state parent position nodes) =
      (FormFill.sectionsFrom parent position nodes).map (shown state)
  | [] => rfl
  | node :: rest => by
      rw [payloadsFrom, sectionsFrom, FormFill.sectionsFrom, List.map_append,
        sections_payload _ node, sectionsFrom_payloadsFrom parent _ rest]

end

theorem mapM_alias? (aliases : Table Text) :
    (aliases.map fun entry => (entry.1, Value.string entry.2)).mapM alias? = some aliases := by
  induction aliases with
  | nil => rfl
  | cons entry rest ih => rw [List.map_cons, List.mapM_cons, ih]; rfl

/-- A form is read back from its payload. -/
theorem form?_payload (form : Form) : form? (form.payload state) = some form := by
  have hnodes : (form.payload state).get? "structure" =
      some (.array (payloadsFrom state [] 0 form.nodes)) := rfl
  have haliases : (form.payload state).get? "aliasMap" =
      some (.object (form.aliases.map fun entry => (entry.1, .string entry.2))) := rfl
  rw [form?, hnodes, haliases]
  dsimp only
  rw [nodes?_payloadsFrom, mapM_alias?]
  rfl

/-- The sections that a payload shows are those of the tree. -/
theorem formSections_payload (form : Form) :
    formSections (form.payload state) = (sectionsOf [] form.nodes).map (shown state) := by
  have hnodes : (form.payload state).get? "structure" =
      some (.array (payloadsFrom state [] 0 form.nodes)) := rfl
  rw [formSections, hnodes]
  exact sectionsFrom_payloadsFrom state [] 0 form.nodes

end Payload

/-- How the traversals of a tree go through its nodes. -/
structure Traversed (nodes : List Node) : Prop where
  /-- The sections are listed under increasing paths, so none of them comes twice. -/
  sections_increasing : (sectionsOf [] nodes).Pairwise fun earlier later => earlier.1 < later.1
  /-- A section is listed under a path exactly if the path leads to it. -/
  sections_resolve : ∀ path name children, (path, ⟨name, children⟩) ∈ sectionsOf [] nodes ↔
    nodeAt? nodes path = some (.branch name children)
  /-- The fields are the other nodes to which paths lead, each once and in the order of the paths. -/
  fields_resolve : ∃ paths : List Path, paths.Pairwise (· < ·) ∧
    List.Forall₂ (fun path field => nodeAt? nodes path = some (.leaf field)) paths (fieldsOf nodes) ∧
    ∀ path field, nodeAt? nodes path = some (.leaf field) → path ∈ paths
  /-- Both are parts of one list of all nodes, in which every node comes under its path. -/
  listed_increasing : (listed nodes).Pairwise fun earlier later => earlier.1 < later.1
  mem_listed : ∀ path node, (path, node) ∈ listed nodes ↔ nodeAt? nodes path = some node
  sections_eq : sectionsOf [] nodes = (listed nodes).filterMap sectionEntry?
  fields_eq : fieldsOf nodes = (listed nodes).filterMap (·.2.field?)

theorem traversed (nodes : List Node) : Traversed nodes where
  sections_increasing := pairwise_sectionsOf nodes
  sections_resolve _ _ _ := mem_sectionsOf_iff
  fields_resolve := ⟨(listedFields nodes).map (·.1), pairwise_listedFields nodes,
    forall₂_listedFields nodes, fun _ _ => mem_listedFields⟩
  listed_increasing := pairwise_listed nodes
  mem_listed _ _ := mem_listed_iff
  sections_eq := sectionsFrom_eq_filterMap [] 0 nodes
  fields_eq := fieldsOf_eq_filterMap [] 0 nodes

/-- What a payload shows of a form. -/
structure Form.ShownBy (form : Form) (state : Option CollapseState) (payload : Value) : Prop where
  /-- The form can be read back. -/
  decoded : Payload.form? payload = some form
  /-- A walk over the payload finds the sections of the tree under their paths, with their names, and
  collapsed are those whose paths are in the state. -/
  walked : Payload.formSections payload = (sectionsOf [] form.nodes).map fun entry =>
    (entry.1, entry.2.name, state.any (·.paths.contains entry.1))
  traversed : Traversed form.nodes

/-- The payload of a form shows all of it, and its walk agrees with the traversals of the tree. -/
theorem Form.payload_shows (form : Form) (state : Option CollapseState) :
    form.ShownBy state (form.payload state) where
  decoded := Payload.form?_payload state form
  walked := Payload.formSections_payload state form
  traversed := FormFill.traversed form.nodes

end FormFill

import FormFill.Dictionary
import FormFill.Form.Tree
import FormFill.Template.Outline

/-!
# Extraction

A form is made from the retained blocks of a template: their parameters are entered into one ledger in
the order of the text, and each becomes a field of its section.
-/

namespace FormFill

mutual

/-- The nodes of an item and the ledger after it. -/
def Item.enter (dictionary : Dictionary) : Item → Ledger → List Node × Ledger
  | .parameter parameter, ledger =>
    let (field, ledger) := parameter.enter dictionary ledger
    ([.leaf field], ledger)
  | .wrapper title items, ledger =>
    let (nodes, ledger) := enterItems dictionary items ledger
    match title with
    | some name => ([.branch name nodes], ledger)
    | none => (nodes, ledger)

/-- The nodes of items in order and the ledger after them. -/
def enterItems (dictionary : Dictionary) : List Item → Ledger → List Node × Ledger
  | [], ledger => ([], ledger)
  | item :: rest, ledger =>
    let (nodes, ledger) := item.enter dictionary ledger
    let (others, ledger) := enterItems dictionary rest ledger
    (nodes ++ others, ledger)

end

/-- The sections of blocks in order and the ledger after them. -/
def enterBlocks (dictionary : Dictionary) : List Block → Ledger → List Node × Ledger
  | [], ledger => ([], ledger)
  | block :: rest, ledger =>
    let (children, ledger) := enterItems dictionary block.items ledger
    let (others, ledger) := enterBlocks dictionary rest ledger
    (.branch block.name children :: others, ledger)

namespace Form

/-- The roles of forms that are read unless others are asked for. -/
def defaultRoles : List Text := ["Act".toList, "Info".toList]

/-- The form made from blocks. -/
def ofBlocks (dictionary : Dictionary) (blocks : List Block) : Form :=
  let (nodes, ledger) := enterBlocks dictionary blocks {}
  ⟨nodes, ledger.aliases⟩

/-- The form of a template with its dictionary document. -/
def extract (template dictionary : Text) (excluded roles : List Text) : Form :=
  ofBlocks (Dictionary.read dictionary) (Block.retained excluded (Block.all roles template))

/-- The line that records an extraction. -/
def extractionNote (form : Form) : Text :=
  "extracted structure: blocks=".toList ++ Text.ofNat form.nodes.length ++
    " fields=".toList ++ Text.ofNat (fieldsOf form.nodes).length ++
    " aliases=".toList ++ Text.ofNat form.aliases.length

end Form

end FormFill

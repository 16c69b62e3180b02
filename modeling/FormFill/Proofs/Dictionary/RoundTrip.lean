import FormFill.Proofs.Dictionary.Reading
import FormFill.Proofs.Table

/-!
# Reading printed dictionaries

A dictionary document holds named blocks with options, and around them other text that holds neither
options nor tags. What is printed is read back: each name has, at its first place, the options of the
last block with this name, in order.
-/

namespace FormFill.Dictionary

/-- Text around options and blocks. -/
structure Filler where
  text : Text
  noBar : '|' ∉ text
  noTag : '<' ∉ text

/-- No text around options and blocks. -/
def Filler.empty : Filler := ⟨[], List.not_mem_nil, List.not_mem_nil⟩

/-- An option of a block with the text before it. -/
structure Entry where
  gap : Filler
  choice : Choice
  isWritable : choice.IsWritable
  noTag : '<' ∉ choice.label

/-- A named block with the text before it; `last` stands after the options. -/
structure Block where
  gap : Filler
  name : Text
  isName : IsName name
  entries : List Entry
  last : Filler

namespace Entry

def text (entry : Entry) : Text := entry.gap.text ++ entry.choice.text

theorem noTag_text (entry : Entry) : '<' ∉ entry.text :=
  List.not_mem_append entry.gap.noTag (entry.isWritable.noTag_text entry.noTag)

/-- An entry is read back as its option. -/
theorem all_text (entry : Entry) (rest : Text) :
    Choice.all (entry.text ++ rest) = entry.choice :: Choice.all rest := by
  rw [text, List.append_assoc, Choice.all_append_of_not_mem entry.gap.noBar,
    Choice.all_of_read? (Choice.read?_text entry.isWritable rest)]

theorem all_flatMap_text (entries : List Entry) (rest : Text) :
    Choice.all (entries.flatMap Entry.text ++ rest) = entries.map (·.choice) ++ Choice.all rest := by
  induction entries with
  | nil => rfl
  | cons entry entries ih =>
      rw [List.flatMap_cons, List.append_assoc, entry.all_text, ih, List.map_cons, List.cons_append]

end Entry

namespace Block

/-- The options of a block in order. -/
def choices (block : Block) : List Choice := block.entries.map (·.choice)

/-- The opening of a block, with the text before it. -/
def opening (block : Block) : Text :=
  block.gap.text ++ (blockOpening ++ (block.name ++ nameClosing))

/-- What is inside a block. -/
def inside (block : Block) : Text := block.entries.flatMap Entry.text ++ block.last.text

/-- A block as it is printed, with its end or without it. -/
def text (closed : Bool) (block : Block) : Text :=
  block.opening ++ block.inside ++ if closed then blockClosing else []

theorem noTag_inside (block : Block) : '<' ∉ block.inside := by
  refine List.not_mem_append (fun hmem => ?_) block.last.noTag
  obtain ⟨entry, -, hentry⟩ := List.mem_flatMap.mp hmem
  exact entry.noTag_text hentry

/-- The options inside a block are read back. -/
theorem all_inside (block : Block) (rest : Text) :
    Choice.all (block.inside ++ rest) = block.choices ++ Choice.all rest := by
  rw [inside, List.append_assoc, Entry.all_flatMap_text,
    Choice.all_append_of_not_mem block.last.noBar, choices]

theorem opening_append (block : Block) (text : Text) : block.opening ++ text =
    block.gap.text ++ (blockOpening ++ (block.name ++ (nameClosing ++ text))) := by
  simp [opening]

/-- From an opening on, a text is read up to the first end. -/
theorem blocks_opening (block : Block) {text content rest : Text}
    (h : Text.splitAt? blockClosing (fun _ => true) text = some (content, rest)) :
    blocks (block.opening ++ text) = (block.name, content) :: blocks rest := by
  have hread := readBlock?_opening block.isName text
  rw [h] at hread
  rw [opening_append, blocks_append_of_not_mem block.gap.noTag, blocks_of_readBlock? hread]

end Block

/-- The named lists of options that are read from a text, in order. -/
def lists (text : Text) : List (Text × List Choice) :=
  (blocks text).map fun block => (block.1, Choice.all block.2)

theorem read_eq_setAll_lists (text : Text) : Dictionary.read text = Table.setAll (lists text) [] := rfl

/-- What stands behind an opening and leaves it open, with the options in it. -/
structure IsOpenContent (choices : List Choice) (content : Text) : Prop where
  passes : Text.Passes blockClosing content
  all_append : ∀ rest, Choice.all (content ++ rest) = choices ++ Choice.all rest

namespace IsOpenContent

variable {first second : List Choice} {front back : Text}

theorem all_eq (h : IsOpenContent first front) : Choice.all front = first := by
  have hall := h.all_append []
  rwa [List.append_nil, Choice.all_nil, List.append_nil] at hall

theorem append (hfirst : IsOpenContent first front) (hsecond : IsOpenContent second back) :
    IsOpenContent (first ++ second) (front ++ back) where
  passes := hfirst.passes.append hsecond.passes
  all_append rest := by
    rw [List.append_assoc, hfirst.all_append, hsecond.all_append, List.append_assoc]

end IsOpenContent

theorem Block.isOpenContent_inside (block : Block) : IsOpenContent block.choices block.inside where
  passes := Text.Passes.of_not_mem block.noTag_inside _
  all_append := block.all_inside

theorem lists_opening (block : Block) {text content rest : Text}
    (h : Text.splitAt? blockClosing (fun _ => true) text = some (content, rest)) :
    lists (block.opening ++ text) = (block.name, Choice.all content) :: lists rest := by
  rw [lists, block.blocks_opening h, List.map_cons, ← lists]

/-- A block is read up to its end. -/
theorem lists_opening_closed (block : Block) {choices : List Choice} {content : Text}
    (h : IsOpenContent choices content) (rest : Text) :
    lists (block.opening ++ (content ++ (blockClosing ++ rest))) =
      (block.name, choices) :: lists rest := by
  rw [lists_opening block (h.passes.splitAt?_mark rest), h.all_eq]

/-- A block that is printed with its end is read back. -/
theorem lists_text (block : Block) (rest : Text) :
    lists (block.text true ++ rest) = (block.name, block.choices) :: lists rest := by
  rw [Block.text, if_pos rfl, List.append_assoc, List.append_assoc,
    lists_opening_closed block block.isOpenContent_inside]

theorem lists_filler (last : Filler) : lists last.text = [] := by
  have hlast := blocks_append_of_not_mem last.noTag []
  rw [List.append_nil, blocks_nil] at hlast
  rw [lists, hlast, List.map_nil]

/-- Blocks that are printed with their ends are read back. -/
theorem lists_flatMap_text (blocks : List Block) (rest : Text) :
    lists (blocks.flatMap (Block.text true) ++ rest) =
      blocks.map (fun block => (block.name, block.choices)) ++ lists rest := by
  induction blocks with
  | nil => rfl
  | cons block blocks ih =>
      rw [List.flatMap_cons, List.append_assoc, lists_text, ih, List.map_cons, List.cons_append]

/-- A dictionary document; `last` stands after the blocks. -/
structure Document where
  blocks : List Block
  last : Filler

namespace Document

/-- A document as it is printed. -/
def text (document : Document) : Text :=
  document.blocks.flatMap (Block.text true) ++ document.last.text

/-- The last block with a name. -/
def lastWith? (document : Document) (name : Text) : Option Block :=
  document.blocks.reverse.find? fun block => block.name = name

/-- The dictionary that a document stands for: each name at its first place, with the options of the
last block that has it. -/
def dictionary (document : Document) : Dictionary :=
  (document.blocks.map Block.name).eraseDups.filterMap fun name =>
    (document.lastWith? name).map fun block => (name, block.choices)

/-- What is printed is read back. -/
theorem read_text_eq_dictionary (document : Document) :
    Dictionary.read document.text = document.dictionary := by
  have hlists : lists document.text =
      document.blocks.map fun block => (block.name, block.choices) := by
    rw [text, lists_flatMap_text, lists_filler, List.append_nil]
  have hkeys : Table.keys (document.blocks.map fun block => (block.name, block.choices)) =
      document.blocks.map Block.name := List.map_map
  rw [read_eq_setAll_lists, hlists, Table.setAll_eq, hkeys, dictionary]
  refine List.filterMap_congr fun name _ => ?_
  rw [← List.map_reverse, Table.get?_map_eq_find?, Option.map_map]
  rfl

end Document

end FormFill.Dictionary

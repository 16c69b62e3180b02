import FormFill.Proofs.Document.Numbering
import FormFill.Proofs.Document.Printing

/-!
# Documents are read back

The outline of a printed document is that of the document: each level is read from the slices that the
level above has cut out, with other tags. Entering the outline lays out the fields of its inputs in the order
in which they are entered, so it gives the form of the document.
-/

namespace FormFill

open Tag Element

theorem Item.parameters_of_yields {text : Text} {parameters : List Parameter}
    (h : Yields Parameter.tags Parameter.taken text parameters) :
    Item.parameters text = parameters.map .parameter := by
  rw [Item.parameters, Parameter.all_eq_flatMap, h.all_eq (by decide)]

namespace Item

theorem between_congr {inside other : Element → List Item} {text : Text} {offset : Nat}
    {elements : List Element} (h : ∀ element ∈ elements, inside element = other element) :
    between inside text offset elements = between other text offset elements := by
  induction elements generalizing offset with
  | nil => rfl
  | cons element rest ih =>
      obtain ⟨helement, hrest⟩ := List.forall_mem_cons.mp h
      rw [between, between, helement, ih hrest]

/-- The items of a body in terms of those of the wrappers in it, without the fuel. -/
theorem ofBody_eq_between {fuel : Nat} {text : Text} (hfuel : text.length ≤ fuel) :
    ofBody fuel text = between (fun nested => ofBody nested.body.length nested.body) text 0
      (allFrom tags 0 text) := by
  induction fuel using Nat.strongRecOn generalizing text with
  | ind fuel ih =>
      cases fuel with
      | zero =>
          have hnil : parameters [] = [] := parameters_of_yields (Yields.of_skips Skips.nil)
          rw [List.eq_nil_of_length_eq_zero (Nat.le_zero.mp hfuel), allFrom_nil, ofBody, between,
            List.drop_nil, hnil]
      | succ fuel =>
          -- A nested body fits both in the fuel that is left and in its own length.
          rw [ofBody, all_eq_allFrom (by decide)]
          refine between_congr fun nested hmem => ?_
          have hbody := (tiles_allFrom isWordName_tags 0 text).length_body_lt nested hmem
          rw [ih fuel (by omega) (by omega), ih nested.body.length (by omega) (Nat.le_refl _)]

end Item

namespace Document

/-- Requested names of a level above the wrappers: no input and no wrapper has one of them. -/
structure IsOuter (names : List Text) : Prop where
  isWordName : ∀ name ∈ names, IsWordName name
  noInput : ∀ kind : FieldKind, kind.tag ∉ names
  noWrapper : "Section".toList ∉ names

theorem BlockKind.isOuter (kind : BlockKind) : IsOuter [kind.tag] := by
  refine ⟨?_, fun input => ?_, ?_⟩
  · cases kind <;> decide
  · cases kind <;> cases input <;> decide
  · cases kind <;> decide

theorem isOuter_formTags : IsOuter FormFill.Block.formTags := by
  refine ⟨FormFill.Block.isWordName_formTags, fun input => ?_, by decide⟩
  cases input <;> decide

/-- The title of the section that a wrapper with a code is. -/
def sectionTitle? (code name : Option Value) : Option Text :=
  code.map fun _ => (name.map (·.text)).getD defaultSectionName

theorem title?_titled (code name : Option Value) :
    Item.title? (Attribute.writtenAll (titled code name).entries) = sectionTitle? code name := by
  obtain ⟨hcode, hname, -⟩ := (titled code name).read?_entries
  rw [Item.title?, hcode, hname, sectionTitle?, Option.map_map]
  rfl

namespace Contents

/-- The items that the contents of a wrapper stand for. -/
def items : Contents → List Item
  | .last _ => []
  | .leaf _ input rest => .parameter input.parameter :: rest.items
  | .nest _ code name inside rest =>
    .wrapper (sectionTitle? code name) inside.items :: rest.items

/-- Contents are passed over by every search for tags of blocks and forms. -/
theorem skips {names : List Text} (houter : IsOuter names) (contents : Contents) :
    Skips names contents.text := by
  induction contents with
  | last gap => exact gap.skips
  | leaf gap input rest ih =>
      have hinput : Skips names input.text := input.skips houter.isWordName houter.noInput
      exact (gap.skips.append hinput).append ih
  | nest gap code name inside rest ihInside ihRest =>
      have hwrapper : Skips names (element "Section" (titled code name) inside.text) :=
        skips_element houter.isWordName (by decide) houter.noWrapper _ ihInside
      exact (gap.skips.append hwrapper).append ihRest

/-- In contents every wrapper is closed. -/
theorem balanced (contents : Contents) : Balanced "Section" contents.text := by
  induction contents with
  | last gap => exact Balanced.of_skips gap.skips
  | leaf gap input rest ih =>
      have hinput : Skips ["Section".toList] input.text := by
        refine input.skips (by decide) fun kind => ?_
        cases kind <;> decide
      exact (Balanced.of_skips (gap.skips.append hinput)).append ih
  | nest gap code name inside rest ihInside ihRest =>
      have hwrapper : Balanced "Section" (element "Section" (titled code name) inside.text) :=
        balanced_element (by decide) _ ihInside
      exact ((Balanced.of_skips gap.skips).append hwrapper).append ihRest

/-- What is read from a body whose front is `done`, whose text `pending` still has to be searched for
parameters, and whose rest are contents. -/
theorem between_eq (contents : Contents) {done pending : Text} {parameters : List Parameter}
    (hpending : Yields Parameter.tags Parameter.taken pending parameters) :
    Item.between (fun nested => Item.ofBody nested.body.length nested.body)
        (done ++ (pending ++ contents.text)) done.length
        (allFrom Item.tags (done.length + pending.length) contents.text) =
      parameters.map .parameter ++ contents.items := by
  induction contents generalizing done pending parameters with
  | last gap =>
      -- No wrapper comes any more, and the last gap holds no parameter.
      have hnone : allFrom Item.tags (done.length + pending.length) (gap.text ++ []) = [] := by
        rw [allFrom_append_of_skips gap.skips, allFrom_nil]
      rw [List.append_nil] at hnone
      rw [text, hnone, Item.between, List.drop_left, items, List.append_nil,
        Item.parameters_of_yields (hpending.append (Yields.of_skips gap.skips)), List.append_nil]
  | leaf gap input rest ih =>
      -- The search for wrappers passes over an input, so it joins the pending text.
      have hskips : Skips Item.tags (gap.text ++ input.text) := by
        refine gap.skips.append (input.skips Item.isWordName_tags fun kind => ?_)
        cases kind <;> decide
      have hyields := hpending.append ((Yields.of_skips gap.skips).append input.yields)
      have hrest := @ih done _ _ hyields
      rw [List.append_assoc, List.length_append, ← Nat.add_assoc] at hrest
      rw [text, allFrom_append_of_skips hskips, hrest, items]
      simp
  | nest gap code name inside rest ihInside ihRest =>
      -- A wrapper ends the pending text, and nothing is pending inside it or after it.
      have hinside : Item.ofBody inside.text.length inside.text = inside.items := by
        rw [Item.ofBody_eq_between (Nat.le_refl _)]
        exact @ihInside [] [] [] (Yields.of_skips Skips.nil)
      have hattributes := (titled code name).isAttributes_entries
      have hwrapper := allFrom_written Item.isWordName_tags (List.mem_singleton_self _)
        (isClean_openingTag (by decide) hattributes) hattributes.notClosing inside.balanced
      rw [← element] at hwrapper
      have hslice : ∀ more, Text.slice done.length (done.length + pending.length + gap.text.length)
          (done ++ (pending ++ (gap.text ++ more))) = pending ++ gap.text := by
        intro more
        rw [Nat.add_assoc, ← List.length_append, ← List.append_assoc pending,
          Text.slice_of_drop_eq List.drop_left]
      have hfront := Item.parameters_of_yields (hpending.append (Yields.of_skips gap.skips))
      have hrest := @ihRest (done ++ (pending ++ (gap.text ++
        element "Section" (titled code name) inside.text))) [] [] (Yields.of_skips Skips.nil)
      simp only [List.append_assoc, List.length_append, List.length_nil, List.nil_append,
        Nat.add_zero, ← Nat.add_assoc] at hrest
      rw [text, List.append_assoc, allFrom_append_of_skips gap.skips, hwrapper, Item.between, hslice,
        hfront, hrest]
      simp [items, title?_titled, hinside]

theorem ofBody_eq (contents : Contents) :
    Item.ofBody contents.text.length contents.text = contents.items := by
  rw [Item.ofBody_eq_between (Nat.le_refl _)]
  exact @between_eq contents [] [] [] (Yields.of_skips Skips.nil)

end Contents

/-- A wrapper makes a section of its nodes if it has a code. -/
theorem enter_wrapper (dictionary : Dictionary) (code name : Option Value) (items : List Item) :
    (Item.wrapper (sectionTitle? code name) items).enter dictionary = fun ledger =>
      (wrapped code name (enterItems dictionary items ledger).1,
        (enterItems dictionary items ledger).2) := by
  funext ledger
  cases code <;> rfl

/-- A wrapper lays out what its items lay out. -/
theorem LaysOut.wrapper {dictionary : Dictionary} {inputs : List Input}
    {nodes : List Field → List Node} {items : List Item}
    (h : LaysOut dictionary inputs nodes (enterItems dictionary items)) (code name : Option Value) :
    LaysOut dictionary inputs (wrapped code name ∘ nodes)
      ((Item.wrapper (sectionTitle? code name) items).enter dictionary) := by
  rw [enter_wrapper]
  exact h.map _

/-- Entering the items of contents lays out the fields of their inputs. -/
theorem Contents.laysOut_items (dictionary : Dictionary) (contents : Contents) :
    LaysOut dictionary contents.inputs contents.nodes (enterItems dictionary contents.items) := by
  induction contents with
  | last gap => exact fun _ _ => rfl
  | leaf gap input rest ih =>
      have hinput : LaysOut dictionary [input] (fun fields => (fields.take 1).map .leaf)
          ((Item.parameter input.parameter).enter dictionary) := fun _ _ => rfl
      exact hinput.append ih
  | nest gap code name inside rest ihInside ihRest =>
      exact (ihInside.wrapper code name).append ihRest

namespace Wrapper

/-- The item that a wrapper stands for. -/
def item (wrapper : Wrapper) : Item :=
  .wrapper (sectionTitle? wrapper.code wrapper.name) wrapper.inside.items

theorem skips {names : List Text} (houter : IsOuter names) (wrapper : Wrapper) :
    Skips names wrapper.text :=
  wrapper.gap.skips.append (skips_element houter.isWordName (by decide) houter.noWrapper _
    (wrapper.inside.skips houter))

theorem yields (wrapper : Wrapper) :
    Yields Item.tags FormFill.Block.itemsTaken wrapper.text [wrapper.item] := by
  have hyields : Yields Item.tags FormFill.Block.itemsTaken
      (element "Section" (titled wrapper.code wrapper.name) wrapper.inside.text) _ :=
    yields_element Item.isWordName_tags (List.mem_singleton_self _) _ wrapper.inside.balanced
      fun _ _ _ => rfl
  have hitem : FormFill.Block.itemsTaken ⟨"Section", Attribute.writtenAll
      (titled wrapper.code wrapper.name).entries, wrapper.inside.text, false, 0, 0⟩ =
        [wrapper.item] := by
    rw [FormFill.Block.itemsTaken, if_neg Bool.false_ne_true, Item.ofElement,
      wrapper.inside.ofBody_eq, title?_titled]
    rfl
  rw [hitem] at hyields
  exact (Yields.of_skips wrapper.gap.skips).append hyields

end Wrapper

/-- Entering the items of wrappers lays out the fields of their inputs. -/
theorem laysOut_wrappers (dictionary : Dictionary) (wrappers : List Wrapper) :
    LaysOut dictionary (wrappers.flatMap (·.inside.inputs)) (wrapperNodes wrappers)
      (enterItems dictionary (wrappers.map Wrapper.item)) := by
  induction wrappers with
  | nil => exact fun _ _ => rfl
  | cons wrapper rest ih =>
      have hwrapper := (wrapper.inside.laysOut_items dictionary).wrapper wrapper.code wrapper.name
      exact hwrapper.append ih

theorem BlockKind.tag_mem_tags (kind : BlockKind) : kind.tag ∈ FormFill.Block.tags := by
  cases kind <;> decide

namespace Block

/-- The outline of a block. -/
def outline (block : Block) : FormFill.Block where
  code := block.code.text
  name := (block.name.map (·.text)).getD defaultBlockName
  items := block.wrappers.map Wrapper.item

theorem skips_inside {names : List Text} (houter : IsOuter names) (block : Block) :
    Skips names block.inside := by
  have hwrappers : Skips names (block.wrappers.flatMap (·.text)) :=
    Skips.flatMap fun wrapper _ => wrapper.skips houter
  exact hwrappers.append block.last.skips

/-- The items of a block are read from what is inside it. -/
theorem items_inside (block : Block) :
    (Element.all Item.tags block.inside).flatMap FormFill.Block.itemsTaken =
      block.wrappers.map Wrapper.item := by
  rw [inside, taken_flatMap (by decide) Wrapper.yields, List.map_eq_flatMap]

theorem yields (block : Block) :
    Yields FormFill.Block.tags FormFill.Block.taken block.text [block.outline] := by
  have hinside : Balanced block.kind.tag block.inside :=
    Balanced.of_skips (block.skips_inside block.kind.isOuter)
  have hyields : Yields FormFill.Block.tags FormFill.Block.taken
      (element block.kind.tag (titled (some block.code) block.name) block.inside) _ :=
    yields_element FormFill.Block.isWordName_tags block.kind.tag_mem_tags _ hinside
      fun _ _ _ => rfl
  obtain ⟨hcode, hname, -⟩ := (titled (some block.code) block.name).read?_entries
  have houtline : FormFill.Block.taken ⟨block.kind.tag, Attribute.writtenAll
      (titled (some block.code) block.name).entries, block.inside, false, 0, 0⟩ =
        [block.outline] := by
    simp only [FormFill.Block.taken, FormFill.Block.ofElement?, hcode, hname,
      FormFill.Block.items_eq_flatMap, block.items_inside]
    rfl
  rw [houtline] at hyields
  exact (Yields.of_skips block.gap.skips).append hyields

/-- A block is passed over by the search for forms. -/
theorem skips (block : Block) : Skips FormFill.Block.formTags block.text := by
  have hname := FormFill.Block.isWordName_tags _ block.kind.tag_mem_tags
  have hother : block.kind.tag ∉ FormFill.Block.formTags := by
    cases block.kind <;> decide
  exact block.gap.skips.append (skips_element isOuter_formTags.isWordName hname hother _
    (block.skips_inside isOuter_formTags))

end Block

namespace Form

theorem balanced_inside (form : Form) : Balanced "Form" form.inside := by
  have hblocks : Skips ["Form".toList] (form.blocks.flatMap (·.text)) :=
    Skips.flatMap fun block _ => block.skips
  exact Balanced.of_skips (hblocks.append form.last.skips)

/-- The blocks of a form are read from what is inside it. -/
theorem blocks_inside (form : Form) :
    (Element.all FormFill.Block.tags form.inside).flatMap FormFill.Block.taken =
      form.blocks.map Block.outline := by
  rw [inside, taken_flatMap (by decide) Block.yields, List.map_eq_flatMap]

theorem yields (roles : List Text) (form : Form) :
    Yields FormFill.Block.formTags (FormFill.Block.takenFromForm roles) form.text
      (if roles.contains form.role.text then form.blocks.map Block.outline else []) := by
  have hyields : Yields FormFill.Block.formTags (FormFill.Block.takenFromForm roles)
      (element "Form" { code := form.role } form.inside) _ :=
    yields_element FormFill.Block.isWordName_formTags (List.mem_singleton_self _) _
      form.balanced_inside fun _ _ _ => rfl
  obtain ⟨hcode, -⟩ := Attributes.read?_entries { code := some form.role }
  have hblocks : FormFill.Block.takenFromForm roles ⟨"Form", Attribute.writtenAll
      (Attributes.entries { code := some form.role }), form.inside, false, 0, 0⟩ =
        if roles.contains form.role.text then form.blocks.map Block.outline else [] := by
    simp only [FormFill.Block.takenFromForm, FormFill.Block.isWanted, hcode, form.blocks_inside]
    rfl
  rw [hblocks] at hyields
  exact (Yields.of_skips form.gap.skips).append hyields

end Form

/-- The blocks of a printed document are read from its text. -/
theorem blockAll_text (roles : List Text) (document : Document) :
    FormFill.Block.all roles document.text = (document.blocks roles).map Block.outline := by
  rw [FormFill.Block.all_eq_flatMap, text, taken_flatMap (by decide) (Form.yields roles), blocks]
  induction document.forms with
  | nil => rfl
  | cons form rest ih =>
      rw [List.flatMap_cons, ih, List.filter_cons]
      split
      · rw [List.flatMap_cons, List.map_append]
      · rfl

/-- The retained outlines are those of the kept blocks. -/
theorem retained_outline (excluded : List Text) (blocks : List Block) :
    FormFill.Block.retained excluded (blocks.map Block.outline) =
      (kept excluded blocks).map Block.outline := by
  induction blocks generalizing excluded with
  | nil => rfl
  | cons block rest ih =>
      rw [List.map_cons, FormFill.Block.retained, kept]
      split
      next hpassed =>
        rw [if_pos (show block.code.text ∈ excluded from hpassed)]
        exact ih excluded
      next hkept =>
        rw [if_neg (show block.code.text ∉ excluded from hkept), List.map_cons]
        exact congrArg (block.outline :: ·) (ih _)

/-- Entering the outlines of blocks lays out the fields of their inputs. -/
theorem laysOut_blocks (dictionary : Dictionary) (blocks : List Block) :
    LaysOut dictionary (blocks.flatMap (·.inputs)) (blockNodes blocks)
      (FormFill.enterBlocks dictionary (blocks.map Block.outline)) := by
  induction blocks with
  | nil => exact fun _ _ => rfl
  | cons block rest ih =>
      have hblock := (laysOut_wrappers dictionary block.wrappers).map fun children =>
        [.branch ((block.name.map (·.text)).getD defaultBlockName) children]
      exact hblock.append ih

/-- Extraction undoes printing: the form extracted from a printed document is the form that the
document stands for. -/
theorem extract_text (document : Document) (dictionary : Text) (excluded roles : List Text) :
    Form.extract document.text dictionary excluded roles =
      document.form (Dictionary.read dictionary) excluded roles := by
  have hblocks := laysOut_blocks (Dictionary.read dictionary)
    (kept excluded (document.blocks roles)) {} []
  obtain ⟨hfields, haliases⟩ := @enterInputs_eq (Dictionary.read dictionary)
    ((kept excluded (document.blocks roles)).flatMap (·.inputs)) {} {} rfl rfl (by simp [Table.keys])
  rw [Ledger.issueAll_eq_numberAll] at hfields haliases
  rw [hfields, List.append_nil] at hblocks
  rw [List.nil_append] at haliases
  rw [FormFill.Form.extract, FormFill.Form.ofBlocks, document.blockAll_text, retained_outline, hblocks,
    form, ← haliases]

/-- An input that has nothing but a code and a body. -/
def plainInput (code : Value) (body : Body) : Input :=
  .plain {
    kind := .plain
    notSelect := by decide
    code
    name := none
    pattern := none
    errorText := none
    body }

/-- A document with two inputs of one code in a wrapper without a code, each element on a line of its own. -/
def repeatedCode : Document :=
  let gap : Gap := ⟨['\n'], by decide⟩
  let code : Value := ⟨"A", ⟨by decide, by decide, by decide⟩, by decide⟩
  let first := plainInput code ⟨"\x7b?External(K)?\x7d", "K", by decide, by decide +kernel⟩
  let second := plainInput code ⟨"\x7b?External(L)?\x7d", "L", by decide, by decide +kernel⟩
  let block : Block :=
    { gap
      kind := .alt
      code := ⟨"B", ⟨by decide, by decide, by decide⟩, by decide⟩
      name := none
      wrappers := [⟨gap, none, none, .leaf gap first (.leaf gap second (.last gap))⟩]
      last := gap }
  let form : Form :=
    { gap
      role := ⟨"Act", ⟨by decide, by decide, by decide⟩, by decide⟩
      blocks := [block]
      last := gap }
  ⟨[form], gap⟩

/-- The second of two inputs with one code gets the code with its number, and so does its alias. -/
theorem extract_text_of_repeated_code :
    repeatedCode.text = "\n<Form Code=\"Act\">\n<Alt Code=\"B\">\n<Section>".toList ++
      "\n<Param Code=\"A\">\x7b?External(K)?\x7d</Param>".toList ++
      "\n<Param Code=\"A\">\x7b?External(L)?\x7d</Param>".toList ++
      "\n</Section>\n</Alt>\n</Form>\n".toList ∧
    FormFill.Form.extract repeatedCode.text [] [] ["Act".toList] =
      ⟨[.branch defaultBlockName [
          .leaf { kind := .plain, code := "A", name := defaultFieldName },
          .leaf { kind := .plain, code := "A_2", name := defaultFieldName }]],
        [("A", "K"), ("A_2", "L_2")]⟩ := by
  refine ⟨by decide +kernel, ?_⟩
  rw [extract_text]
  rfl

end Document

end FormFill

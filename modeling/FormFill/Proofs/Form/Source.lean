import FormFill.Proofs.Form.Codes
import FormFill.Proofs.Markup.Elements
import Mathlib.Data.List.Flatten
import Mathlib.Data.List.Forall2

/-!
# Where fields come from

Every field of a form stems from a piece of the template that is one parameter element. The pieces of
the fields follow each other in the order of the fields and do not overlap, whatever the template holds
besides them.
-/

namespace FormFill

instance : DecidablePred IsWordName := fun name =>
  decidable_of_iff (name ≠ [] ∧ name.all Text.isWord = true)
    ⟨fun h => ⟨h.1, List.all_eq_true.mp h.2⟩, fun h => ⟨h.ne_nil, List.all_eq_true.mpr h.isWord⟩⟩

theorem Parameter.isWordName_tags : ∀ name ∈ Parameter.tags, IsWordName name := by decide

theorem Item.isWordName_tags : ∀ name ∈ Item.tags, IsWordName name := by decide

theorem Block.isWordName_tags : ∀ name ∈ Block.tags, IsWordName name := by decide

theorem Block.isWordName_formTags : ∀ name ∈ Block.formTags, IsWordName name := by decide

/-- A piece of text that is one element, and what this element says about its field. -/
def Parameter.IsPiece (parameter : Parameter) (piece : Text) : Prop :=
  ∃ element, Element.all tags piece = [element] ∧ element.start = 0 ∧
    element.stop = piece.length ∧ ofElement? element = some parameter

/-- Parameters whose elements stand in a text one after the other. -/
inductive Sourced : List Parameter → Text → Prop where
  | nil (text : Text) : Sourced [] text
  | cons {parameter : Parameter} {parameters : List Parameter} {piece rest : Text} (gap : Text)
    (isPiece : parameter.IsPiece piece) (tail : Sourced parameters rest) :
    Sourced (parameter :: parameters) (gap ++ piece ++ rest)

namespace Sourced

variable {parameters others : List Parameter} {text : Text}

theorem prepend (front : Text) (h : Sourced parameters text) : Sourced parameters (front ++ text) := by
  cases h with
  | nil => exact Sourced.nil _
  | cons gap isPiece tail =>
      rw [← List.append_assoc, ← List.append_assoc]
      exact Sourced.cons _ isPiece tail

theorem append {rest : Text} (hfirst : Sourced parameters text) (hsecond : Sourced others rest) :
    Sourced (parameters ++ others) (text ++ rest) := by
  induction hfirst with
  | nil text => exact hsecond.prepend text
  | cons gap isPiece _ ih =>
      rw [List.append_assoc, List.append_assoc, ← List.append_assoc gap]
      exact Sourced.cons gap isPiece ih

/-- What stands in a part of a text stands in the text. -/
theorem of_within {whole : Text} (h : Sourced parameters text) (hwithin : text <:+: whole) :
    Sourced parameters whole := by
  obtain ⟨before, after, rfl⟩ := hwithin
  have hall := (h.prepend before).append (Sourced.nil after)
  rwa [List.append_nil] at hall

/-- Leaving parameters out keeps the others where they are. -/
theorem sublist (h : Sourced parameters text) (hsub : others.Sublist parameters) :
    Sourced others text := by
  induction h generalizing others with
  | nil text =>
      rw [List.sublist_nil.mp hsub]
      exact Sourced.nil text
  | cons gap isPiece _ ih =>
      cases hsub with
      | cons _ hrest => exact (ih hrest).prepend _
      | cons_cons _ hrest => exact Sourced.cons gap isPiece (ih hrest)

/-- Parameters taken from the elements of a text stand in it if those of each element stand in the
piece of that element. -/
theorem flatMap {names : List Text} {offset : Nat} {elements : List Element}
    {taken : Element → List Parameter} (htiles : Element.Tiles names offset text elements)
    (htaken : ∀ element piece, Element.IsPiece names element piece →
      Sourced (taken element) piece) : Sourced (elements.flatMap taken) text := by
  induction htiles with
  | nil offset text => exact Sourced.nil text
  | @cons _ gap piece _ element _ _ _ isPiece _ ih =>
      rw [List.flatMap_cons]
      exact ((htaken element piece isPiece).prepend gap).append ih

/-- Each of the parameters has its element in the text. -/
theorem exists_isPiece (h : Sourced parameters text) {parameter : Parameter}
    (hmem : parameter ∈ parameters) : ∃ piece, piece <:+: text ∧ parameter.IsPiece piece := by
  induction h with
  | nil => cases hmem
  | @cons first rest piece after gap isPiece _ ih =>
      rcases List.mem_cons.mp hmem with rfl | hrest
      · exact ⟨piece, ⟨gap, after, rfl⟩, isPiece⟩
      · obtain ⟨later, hwithin, hlater⟩ := ih hrest
        exact ⟨later, hwithin.trans (List.suffix_append (gap ++ piece) after).isInfix, hlater⟩

/-- The spans of the text in which the elements of the parameters stand. -/
theorem exists_spans (h : Sourced parameters text) (front : Text) :
    ∃ spans : List (Nat × Nat),
      List.Forall₂ (fun span parameter => Parameter.IsPiece parameter
        (Text.slice span.1 span.2 (front ++ text))) spans parameters ∧
      spans.Pairwise (fun earlier later => earlier.2 ≤ later.1) ∧
      ∀ span ∈ spans, front.length ≤ span.1 ∧ span.1 < span.2 ∧
        span.2 ≤ (front ++ text).length := by
  induction h generalizing front with
  | nil => exact ⟨[], List.Forall₂.nil, List.Pairwise.nil, by simp⟩
  | @cons parameter parameters piece rest gap isPiece tail ih =>
      -- With the gap and the piece in front, the spans of the rest are spans of the whole text.
      obtain ⟨spans, hpieces, hordered, hbounds⟩ := ih (front ++ gap ++ piece)
      have htext : front ++ (gap ++ piece ++ rest) = front ++ gap ++ piece ++ rest := by simp
      have hstart : (front ++ gap).length = front.length + gap.length := List.length_append
      have hstop : (front ++ gap ++ piece).length = (front ++ gap).length + piece.length :=
        List.length_append
      have hpiece : 0 < piece.length := by
        obtain ⟨element, hall, -⟩ := isPiece
        rw [List.length_pos_iff]
        rintro rfl
        rw [Element.all_eq_allFrom (by decide), Element.allFrom_nil] at hall
        cases hall
      have hdrop : (front ++ gap ++ piece ++ rest).drop (front ++ gap).length = piece ++ rest := by
        rw [List.append_assoc (front ++ gap), List.drop_left]
      have hslice : Text.slice (front ++ gap).length (front ++ gap ++ piece).length
          (front ++ gap ++ piece ++ rest) = piece := by
        rw [hstop, Text.slice_of_drop_eq hdrop]
      refine ⟨((front ++ gap).length, (front ++ gap ++ piece).length) :: spans, ?_, ?_, ?_⟩
      · rw [htext]
        exact List.Forall₂.cons (hslice.symm ▸ isPiece) hpieces
      · exact List.pairwise_cons.mpr ⟨fun span hspan => (hbounds span hspan).1, hordered⟩
      · rw [htext]
        refine List.forall_mem_cons.mpr ⟨⟨by omega, by omega, ?_⟩, fun span hspan => ?_⟩
        · exact (List.prefix_append _ rest).length_le
        · obtain ⟨hfront, hlt, hle⟩ := hbounds span hspan
          exact ⟨by omega, hlt, hle⟩

end Sourced

/-- The parameters taken from an element. -/
def Parameter.taken (element : Element) : List Parameter := (ofElement? element).toList

theorem Parameter.all_eq_flatMap (text : Text) :
    Parameter.all text = (Element.all tags text).flatMap taken :=
  List.filterMap_eq_flatMap_toList ofElement? _

/-- The parameters of a text stand in it. -/
theorem Parameter.sourced_all (text : Text) : Sourced (Parameter.all text) text := by
  have htiles := Element.tiles_allFrom Parameter.isWordName_tags 0 text
  rw [← Element.all_eq_allFrom (by decide)] at htiles
  rw [Parameter.all_eq_flatMap]
  refine Sourced.flatMap htiles fun element piece isPiece => ?_
  unfold taken
  cases hparameter : ofElement? element with
  | none => exact Sourced.nil piece
  | some parameter =>
      have hpiece : parameter.IsPiece piece := by
        refine ⟨element.moved 0 piece.length, ?_, rfl, rfl, hparameter⟩
        rw [Element.all_eq_allFrom (by decide), isPiece.alone]
      simpa using Sourced.cons [] hpiece (Sourced.nil [])

theorem leavesOf_append (first second : List Item) :
    leavesOf (first ++ second) = leavesOf first ++ leavesOf second := by
  induction first with
  | nil => rfl
  | cons item rest ih => rw [List.cons_append, leavesOf, ih, leavesOf, List.append_assoc]

theorem leavesOf_parameters (text : Text) :
    leavesOf (Item.parameters text) = Parameter.all text := by
  rw [Item.parameters]
  induction Parameter.all text with
  | nil => rfl
  | cons parameter rest ih => rw [List.map_cons, leavesOf, ih, Item.leaves]; rfl

namespace Item

/-- The parameters of a body stand in it if those of each wrapper stand in the wrapper's body. -/
theorem sourced_between {inside : Element → List Item}
    (hinside : ∀ element, Sourced (leavesOf (inside element)) element.body) {text rest : Text}
    {offset : Nat} {elements : List Element} (htiles : Element.Tiles tags offset rest elements)
    (hrest : text.drop offset = rest) :
    Sourced (leavesOf (between inside text offset elements)) rest := by
  induction htiles with
  | nil offset rest =>
      rw [between, leavesOf_parameters, hrest]
      exact Parameter.sourced_all rest
  | @cons offset gap piece rest element elements hstart hstop isPiece _ ih =>
      rw [List.append_assoc] at hrest
      have hgap : Text.slice offset element.start text = gap := by
        rw [hstart, Text.slice_of_drop_eq hrest]
      have hdrop : text.drop element.stop = rest := by
        rw [hstop, hstart, Text.drop_of_drop_eq (Text.drop_of_drop_eq hrest)]
      have hwrapper : Sourced (leavesOf (if element.selfClosing then []
          else [wrapper (title? element.attributes) (inside element)])) piece := by
        split
        · exact Sourced.nil piece
        · simpa [leavesOf, leaves] using (hinside element).of_within isPiece.body_within
      rw [between, leavesOf_append, leavesOf_append, hgap, leavesOf_parameters]
      exact ((Parameter.sourced_all gap).append hwrapper).append (ih hdrop)

theorem sourced_ofBody (fuel : Nat) (text : Text) : Sourced (leavesOf (ofBody fuel text)) text := by
  induction fuel generalizing text with
  | zero => exact Sourced.nil text
  | succ fuel ih =>
      have htiles := Element.tiles_allFrom isWordName_tags 0 text
      rw [← Element.all_eq_allFrom (by decide)] at htiles
      exact sourced_between (fun element => ih element.body) htiles rfl

end Item

theorem leavesOf_flatMap {α : Type} (values : List α) (items : α → List Item) :
    leavesOf (values.flatMap items) = values.flatMap fun value => leavesOf (items value) := by
  induction values with
  | nil => rfl
  | cons value rest ih => rw [List.flatMap_cons, List.flatMap_cons, leavesOf_append, ih]

namespace Block

/-- The items taken from an element of a block's body. -/
def itemsTaken (element : Element) : List Item :=
  if element.selfClosing then [] else [Item.ofElement element]

/-- The blocks taken from an element of a form's body. -/
def taken (element : Element) : List Block := (ofElement? element).toList

/-- The blocks taken from an element of a template. -/
def takenFromForm (roles : List Text) (form : Element) : List Block :=
  if isWanted roles form then (Element.all tags form.body).flatMap taken else []

theorem items_eq_flatMap (elements : List Element) :
    (elements.filter (!·.selfClosing)).map Item.ofElement = elements.flatMap itemsTaken := by
  induction elements with
  | nil => rfl
  | cons element rest ih =>
      rw [List.flatMap_cons, ← ih, List.filter_cons, itemsTaken]
      cases element.selfClosing <;> rfl

theorem all_eq_flatMap (roles : List Text) (template : Text) :
    all roles template = (Element.all formTags template).flatMap (takenFromForm roles) := by
  rw [all]
  induction Element.all formTags template with
  | nil => rfl
  | cons form rest ih =>
      rw [List.flatMap_cons, ← ih, List.filter_cons, takenFromForm]
      cases isWanted roles form
      · rfl
      · rw [if_pos rfl, if_pos rfl, List.flatMap_cons, List.filterMap_eq_flatMap_toList]
        rfl

/-- The parameters of a block stand in the body of its element. -/
theorem sourced_ofElement? {element : Element} {block : Block}
    (h : ofElement? element = some block) : Sourced (leavesOf block.items) element.body := by
  unfold ofElement? at h
  split at h
  · cases h
  · obtain ⟨code, -, rfl⟩ := Option.map_eq_some_iff.mp h
    have htiles := Element.tiles_allFrom Item.isWordName_tags 0 element.body
    rw [← Element.all_eq_allFrom (by decide)] at htiles
    change Sourced (leavesOf (((Element.all Item.tags element.body).filter (!·.selfClosing)).map
      Item.ofElement)) element.body
    rw [items_eq_flatMap, leavesOf_flatMap]
    refine Sourced.flatMap htiles fun wrapper piece isPiece => ?_
    unfold itemsTaken
    split
    · exact Sourced.nil piece
    · have hbody := (Item.sourced_ofBody wrapper.body.length wrapper.body).of_within
        isPiece.body_within
      simpa [Item.ofElement, leavesOf, Item.leaves] using hbody

theorem leaves_flatMap {α : Type} (values : List α) (blocks : α → List Block) :
    leaves (values.flatMap blocks) = values.flatMap fun value => leaves (blocks value) :=
  List.flatMap_assoc

/-- The parameters of the blocks of a template stand in it. -/
theorem sourced_all (roles : List Text) (template : Text) :
    Sourced (leaves (all roles template)) template := by
  have hforms := Element.tiles_allFrom isWordName_formTags 0 template
  rw [← Element.all_eq_allFrom (by decide)] at hforms
  rw [all_eq_flatMap, leaves_flatMap]
  refine Sourced.flatMap hforms fun form piece isPiece => ?_
  unfold takenFromForm
  split
  · have hblocks := Element.tiles_allFrom isWordName_tags 0 form.body
    rw [← Element.all_eq_allFrom (by decide)] at hblocks
    rw [leaves_flatMap]
    refine (Sourced.flatMap hblocks fun element piece isPiece => ?_).of_within isPiece.body_within
    unfold taken
    cases hblock : ofElement? element with
    | none => exact Sourced.nil piece
    | some block => simpa [leaves] using (sourced_ofElement? hblock).of_within isPiece.body_within
  · exact Sourced.nil piece

theorem retained_sublist (excluded : List Text) (blocks : List Block) :
    (retained excluded blocks).Sublist blocks := by
  induction blocks generalizing excluded with
  | nil => exact List.Sublist.slnil
  | cons block rest ih =>
      rw [retained]
      split
      · exact (ih excluded).cons block
      · exact (ih _).cons_cons block

end Block

/-- The issues that make the fields of a form, in order. -/
def Form.issues (template dictionary : Text) (excluded roles : List Text) : List Issue :=
  Parameter.issues (Dictionary.read dictionary)
    (Block.leaves (Block.retained excluded (Block.all roles template))) {}

section Extraction

variable (template dictionary : Text) (excluded roles : List Text)

/-- A form has one issue for each parameter of the retained blocks. Its fields and its aliases are
those of the issues, whose codes are distinct. -/
theorem Form.extract_eq :
    (issues template dictionary excluded roles).map (·.parameter) =
        Block.leaves (Block.retained excluded (Block.all roles template)) ∧
      ((issues template dictionary excluded roles).map Issue.code).Nodup ∧
      fieldsOf (extract template dictionary excluded roles).nodes =
        (issues template dictionary excluded roles).map
          (fun issue => issue.parameter.field (Dictionary.read dictionary) issue.code) ∧
      (extract template dictionary excluded roles).aliases =
        (issues template dictionary excluded roles).filterMap Issue.alias? := by
  have hblocks := enterBlocks_eq_enterAll (Dictionary.read dictionary)
    (Block.retained excluded (Block.all roles template)) {}
  obtain ⟨hparameters, -, -, hnodup, hfields, haliases⟩ :=
    Parameter.enterAll_eq (Dictionary.read dictionary)
      (Block.leaves (Block.retained excluded (Block.all roles template))) {} (by simp [Table.keys])
  rw [← hblocks] at hfields haliases
  exact ⟨hparameters, hnodup, hfields, haliases⟩

/-- The fields of a form are the fields of the parameters of its blocks under issued codes. -/
theorem Form.exists_issues :
    ∃ issues : List Issue,
      issues.map (·.parameter) =
        Block.leaves (Block.retained excluded (Block.all roles template)) ∧
      fieldsOf (extract template dictionary excluded roles).nodes = issues.map fun issue =>
        issue.parameter.field (Dictionary.read dictionary) issue.code := by
  obtain ⟨hparameters, -, hfields, -⟩ := extract_eq template dictionary excluded roles
  exact ⟨_, hparameters, hfields⟩

/-- The parameters of the retained blocks stand in the template. -/
theorem Block.sourced_retained :
    Sourced (leaves (retained excluded (all roles template))) template :=
  (sourced_all roles template).sublist ((retained_sublist excluded _).flatMap _)

end Extraction

/-- A piece of text that is one parameter element, from which a field has its kind and its texts. -/
def Field.StemsFrom (field : Field) (piece : Text) : Prop :=
  ∃ element, Element.all Parameter.tags piece = [element] ∧ element.start = 0 ∧
    element.stop = piece.length ∧ element.selfClosing = false ∧ element.tag = field.kind.tag ∧
    field.name = (Attribute.read? "Name" element.attributes).getD defaultFieldName ∧
    field.pattern = Attribute.read? "RegEx" element.attributes ∧
    field.errorText = Attribute.read? "ErrorText" element.attributes

theorem FieldKind.tag_of_ofTag? {tag : Text} {kind : FieldKind} (h : ofTag? tag = some kind) :
    tag = kind.tag := by
  have hfound := List.find?_some h
  exact (beq_iff_eq.mp hfound).symm

/-- What a parameter that is surfaced has from its element. -/
theorem Parameter.of_ofElement? {element : Element} {parameter : Parameter}
    (h : ofElement? element = some parameter) :
    element.selfClosing = false ∧ element.tag = parameter.kind.tag ∧
      parameter.name = (Attribute.read? "Name" element.attributes).getD defaultFieldName ∧
      parameter.pattern = Attribute.read? "RegEx" element.attributes ∧
      parameter.errorText = Attribute.read? "ErrorText" element.attributes := by
  cases hkind : FieldKind.ofTag? element.tag with
  | none =>
      rw [ofElement?, hkind] at h
      cases h
  | some kind =>
      simp only [ofElement?, hkind, Option.ite_none_left_eq_some, Option.map_eq_some_iff, not_or]
        at h
      obtain ⟨⟨hopen, -⟩, rawCode, -, rfl⟩ := h
      exact ⟨Bool.eq_false_iff.mpr hopen, FieldKind.tag_of_ofTag? hkind, rfl, rfl, rfl⟩

/-- The code and the marker key of a parameter that is no selector. -/
theorem Parameter.code_and_key_of_ofElement? {element : Element} {parameter : Parameter}
    (h : ofElement? element = some parameter) (hkind : parameter.kind ≠ .select) :
    Attribute.read? "Code" element.attributes = some parameter.rawCode ∧
      parameter.markerKey = Marker.firstKey? element.body := by
  cases hfound : FieldKind.ofTag? element.tag with
  | none =>
      rw [ofElement?, hfound] at h
      cases h
  | some kind =>
      simp only [ofElement?, hfound, Option.ite_none_left_eq_some, Option.map_eq_some_iff] at h
      obtain ⟨-, rawCode, hcode, rfl⟩ := h
      dsimp only at hkind ⊢
      rw [if_neg hkind] at hcode ⊢
      exact ⟨hcode, rfl⟩

/-- The field of a parameter stems from the piece of the parameter. -/
theorem Parameter.IsPiece.stemsFrom {parameter : Parameter} {piece : Text}
    (h : parameter.IsPiece piece) (dictionary : Dictionary) (code : Text) :
    (parameter.field dictionary code).StemsFrom piece := by
  obtain ⟨element, hall, hstart, hstop, hparameter⟩ := h
  exact ⟨element, hall, hstart, hstop, of_ofElement? hparameter⟩

/-- The fields of a form stem from spans of the template that follow each other in the order of the
fields and do not overlap. -/
theorem fields_stem_from_spans (template dictionary : Text) (excluded roles : List Text) :
    ∃ spans : List (Nat × Nat),
      List.Forall₂ (fun span field => Field.StemsFrom field (Text.slice span.1 span.2 template))
        spans (fieldsOf (Form.extract template dictionary excluded roles).nodes) ∧
      spans.Pairwise (fun earlier later => earlier.2 ≤ later.1) ∧
      ∀ span ∈ spans, span.1 < span.2 ∧ span.2 ≤ template.length := by
  obtain ⟨issues, hparameters, hfields⟩ :=
    Form.exists_issues template dictionary excluded roles
  obtain ⟨spans, hpieces, hordered, hbounds⟩ :=
    (Block.sourced_retained template excluded roles).exists_spans []
  rw [← hparameters, List.forall₂_map_right_iff] at hpieces
  refine ⟨spans, ?_, hordered, fun span hspan => (hbounds span hspan).2⟩
  rw [hfields, List.forall₂_map_right_iff]
  exact hpieces.imp fun span issue isPiece =>
    isPiece.stemsFrom (Dictionary.read dictionary) issue.code

end FormFill

import FormFill.Template.Extraction
import Mathlib.Data.List.Forall2

/-!
# Kept blocks

Of the block elements of a template the first one with each code that is not excluded is kept. A form is
made from the bodies of the kept elements alone, and it is what one pass over the template makes that
passes over the other elements where they stand. So only the set of the excluded codes matters, and
excluding further codes takes out the blocks with these codes and leaves the others in their order.
-/

namespace FormFill

/-- Leaving elements out and keeping first occurrences can be done in either order. -/
theorem eraseDups_filter {α : Type} [BEq α] [LawfulBEq α] (keep : α → Bool) (values : List α) :
    (values.filter keep).eraseDups = values.eraseDups.filter keep := by
  -- What follows a value is looked at without its repetitions, so the tail alone is not enough.
  induction hlength : values.length using Nat.strongRecOn generalizing values with
  | ind bound ih =>
      subst hlength
      cases values with
      | nil => rfl
      | cons value rest =>
          have hshorter : (rest.filter (!· == value)).length < (value :: rest).length :=
            Nat.lt_succ_of_le (List.length_filter_le _ rest)
          have hrest := ih _ hshorter _ rfl
          rw [List.eraseDups_cons, List.filter_cons, List.filter_cons, ← hrest, List.filter_filter]
          by_cases hvalue : keep value = true
          · rw [if_pos hvalue, if_pos hvalue, List.eraseDups_cons, List.filter_filter]
            simp only [Bool.and_comm]
          · rw [if_neg hvalue, if_neg hvalue]
            congr 1
            refine List.filter_congr fun other _ => ?_
            by_cases heq : other = value
            · simp [heq, hvalue]
            · simp [heq]

namespace Block

/-- The code of a block element, which is empty if it has none. -/
def codeOf (element : Element) : Text := (Attribute.read? "Code" element.attributes).getD []

/-- The name of a block element. -/
def nameOf (element : Element) : Text :=
  (Attribute.read? "Name" element.attributes).getD defaultBlockName

/-- Whether an element can be a block: it has a body and a code. -/
def isCandidate (element : Element) : Bool :=
  !element.selfClosing && (Attribute.read? "Code" element.attributes).isSome

/-- The elements in the forms with the wanted roles that can be blocks, in the order of the template. -/
def candidates (roles : List Text) (template : Text) : List Element :=
  ((Element.all formTags template).filter (isWanted roles)).flatMap fun form =>
    (Element.all tags form.body).filter isCandidate

/-- The first of some elements with a code. -/
def firstWith? (found : List Element) (code : Text) : Option Element :=
  found.find? (codeOf · == code)

/-- The first element with each code that is not excluded, in the order in which the codes first come. -/
def kept (excluded : List Text) (found : List Element) : List Element :=
  ((found.map codeOf).eraseDups.filter (!excluded.contains ·)).filterMap (firstWith? found)

/-- The block that an element with a code is. -/
def ofElement (element : Element) : Block where
  code := codeOf element
  name := nameOf element
  items := ((Element.all Item.tags element.body).filter (!·.selfClosing)).map Item.ofElement

theorem ofElement?_eq (element : Element) :
    ofElement? element = if isCandidate element then some (ofElement element) else none := by
  rw [ofElement?, isCandidate, ofElement, codeOf, nameOf]
  cases element.selfClosing with
  | true => rfl
  | false => cases Attribute.read? "Code" element.attributes <;> rfl

/-- The blocks of a template are those of the candidates. -/
theorem all_eq_map (roles : List Text) (template : Text) :
    all roles template = (candidates roles template).map ofElement := by
  rw [all, candidates, List.map_flatMap]
  congr 1
  funext form
  rw [← List.filterMap_eq_map, List.filterMap_filter]
  congr 1
  funext element
  exact ofElement?_eq element

section Kept

variable {excluded : List Text} {element : Element} {found : List Element}

theorem firstWith?_cons_self : firstWith? (element :: found) (codeOf element) = some element := by
  simp [firstWith?]

theorem firstWith?_cons_of_ne {code : Text} (hne : codeOf element ≠ code) :
    firstWith? (element :: found) code = firstWith? found code := by
  rw [firstWith?, List.find?_cons_of_neg (by simpa using hne), firstWith?]

theorem codeOf_of_firstWith? {code : Text} (h : firstWith? found code = some element) :
    codeOf element = code := by
  have hfound := List.find?_some h
  exact beq_iff_eq.mp hfound

/-- The codes of kept elements are the distinct codes that are not excluded. -/
theorem map_codeOf_kept (excluded : List Text) (found : List Element) :
    (kept excluded found).map codeOf =
      (found.map codeOf).eraseDups.filter (!excluded.contains ·) := by
  rw [kept, List.map_filterMap]
  have hsome : ∀ code ∈ (found.map codeOf).eraseDups.filter (!excluded.contains ·),
      (firstWith? found code).map codeOf = some code := by
    intro code hcode
    have hmem : code ∈ found.map codeOf :=
      List.mem_eraseDups.mp (List.mem_filter.mp hcode).1
    obtain ⟨element, helement, rfl⟩ := List.mem_map.mp hmem
    have hisSome : (firstWith? found (codeOf element)).isSome := by
      rw [firstWith?, List.find?_isSome]
      exact ⟨element, helement, beq_self_eq_true _⟩
    obtain ⟨first, hfirst⟩ := Option.isSome_iff_exists.mp hisSome
    rw [hfirst, Option.map_some, codeOf_of_firstWith? hfirst]
  rw [List.filterMap_congr hsome, List.filterMap_some]

/-- A kept element is the first one with its code. -/
theorem firstWith?_of_mem_kept (hmem : element ∈ kept excluded found) :
    firstWith? found (codeOf element) = some element := by
  obtain ⟨code, -, hfirst⟩ := List.mem_filterMap.mp hmem
  rwa [codeOf_of_firstWith? hfirst]

/-- Only the set of the excluded codes matters. -/
theorem kept_congr {others : List Text} (hsame : ∀ code, code ∈ others ↔ code ∈ excluded)
    (found : List Element) : kept others found = kept excluded found := by
  rw [kept, kept]
  congr 1
  refine List.filter_congr fun code _ => ?_
  rw [Bool.eq_iff_iff]
  simp [hsame]

/-- Excluding further codes takes out the elements with these codes. -/
theorem kept_append (excluded more : List Text) (found : List Element) :
    kept (excluded ++ more) found =
      (kept excluded found).filter fun element => !more.contains (codeOf element) := by
  rw [kept, kept, List.filter_filterMap, List.filterMap_filter, List.filterMap_filter]
  refine List.filterMap_congr fun code _ => ?_
  cases hfirst : firstWith? found code with
  | none => simp
  | some first =>
      rw [Option.filter_some, codeOf_of_firstWith? hfirst]
      by_cases hexcluded : code ∈ excluded <;> by_cases hmore : code ∈ more <;>
        simp [hexcluded, hmore]

/-- The first element is kept unless its code is excluded, and its code counts as excluded for the
elements after it. -/
theorem kept_cons (excluded : List Text) (element : Element) (found : List Element) :
    kept excluded (element :: found) =
      if codeOf element ∈ excluded then kept excluded found
      else element :: kept (codeOf element :: excluded) found := by
  have hother : ∀ code ∈ (found.map codeOf).eraseDups.filter fun code =>
      !excluded.contains code && !code == codeOf element,
      firstWith? (element :: found) code = firstWith? found code := by
    intro code hcode
    have hne := (List.mem_filter.mp hcode).2
    simp only [Bool.and_eq_true, Bool.not_eq_true', beq_eq_false_iff_ne] at hne
    exact firstWith?_cons_of_ne (Ne.symm hne.2)
  -- After the first element, only other codes are looked up, and for these it makes no difference.
  rw [kept, List.map_cons, List.eraseDups_cons, eraseDups_filter, List.filter_cons,
    List.filter_filter]
  by_cases hcode : codeOf element ∈ excluded
  · rw [if_neg (by simpa using hcode), if_pos hcode, List.filterMap_congr hother, kept]
    congr 1
    refine List.filter_congr fun code _ => ?_
    by_cases heq : code = codeOf element
    · simp [heq, hcode]
    · simp [heq]
  · rw [if_pos (by simpa using hcode), if_neg hcode, List.filterMap_cons_some firstWith?_cons_self,
      List.filterMap_congr hother, kept]
    congr 2
    refine List.filter_congr fun code _ => ?_
    rw [List.contains_cons, Bool.not_or, Bool.and_comm]

/-- The retained blocks are those of the kept elements. -/
theorem retained_map (excluded : List Text) (found : List Element) :
    retained excluded (found.map ofElement) = (kept excluded found).map ofElement := by
  induction found generalizing excluded with
  | nil => rfl
  | cons element rest ih =>
      rw [List.map_cons, retained, kept_cons, ih, ih]
      change (if codeOf element ∈ excluded then _ else _) = _
      split
      · rfl
      · rw [List.map_cons]
        rfl

end Kept

/-! ## Sections of bodies -/

/-- The section of a block element, made from its name and its body, and the ledger after it. -/
def sectionOf (dictionary : Dictionary) (element : Element) (ledger : Ledger) : Node × Ledger :=
  let (children, ledger) := enterItems dictionary (ofElement element).items ledger
  (.branch (nameOf element) children, ledger)

/-- The sections of block elements made one after the other, and the ledger after them. -/
def sectionsEach (dictionary : Dictionary) : List Element → Ledger → List Node × Ledger
  | [], ledger => ([], ledger)
  | element :: rest, ledger =>
    let (made, ledger) := sectionOf dictionary element ledger
    let (others, ledger) := sectionsEach dictionary rest ledger
    (made :: others, ledger)

theorem enterBlocks_map (dictionary : Dictionary) (elements : List Element) (ledger : Ledger) :
    enterBlocks dictionary (elements.map ofElement) ledger =
      sectionsEach dictionary elements ledger := by
  induction elements generalizing ledger with
  | nil => rfl
  | cons element rest ih =>
      simp only [List.map_cons, enterBlocks, sectionsEach, sectionOf, ih]
      rfl

/-- Each element has one section, which has its name and the nodes of its body. -/
theorem forall₂_sectionsEach (dictionary : Dictionary) (elements : List Element)
    (ledger : Ledger) :
    List.Forall₂ (fun element node => ∃ before, node = (sectionOf dictionary element before).1)
      elements (sectionsEach dictionary elements ledger).1 := by
  induction elements generalizing ledger with
  | nil => exact List.Forall₂.nil
  | cons element rest ih => exact List.Forall₂.cons ⟨ledger, rfl⟩ (ih _)

/-! ## One pass -/

/-- How far a pass over a template has come: the codes of the blocks that it has entered, their
sections, and the ledger. -/
structure Pass where
  seen : List Text := []
  nodes : List Node := []
  ledger : Ledger := {}

namespace Pass

/-- Comes to an element of a form. It is entered if it has a body and a code that is neither excluded
nor that of a block before it. -/
def visit (dictionary : Dictionary) (excluded : List Text) (pass : Pass) (element : Element) : Pass :=
  if element.selfClosing then pass
  else match Attribute.read? "Code" element.attributes with
    | none => pass
    | some code =>
      if code ∈ excluded ∨ code ∈ pass.seen then pass
      else
        let (made, ledger) := sectionOf dictionary element pass.ledger
        ⟨pass.seen ++ [code], pass.nodes ++ [made], ledger⟩

/-- Comes to a form element, whose own elements are visited if it has a wanted role. -/
def visitForm (dictionary : Dictionary) (excluded roles : List Text) (pass : Pass)
    (form : Element) : Pass :=
  if isWanted roles form then (Element.all tags form.body).foldl (visit dictionary excluded) pass
  else pass

/-- The pass over a whole template. -/
def ofTemplate (dictionary : Dictionary) (excluded roles : List Text) (template : Text) : Pass :=
  (Element.all formTags template).foldl (visitForm dictionary excluded roles) {}

variable {dictionary : Dictionary} {excluded : List Text} {element : Element}

/-- An element that cannot be a block leaves everything as it is. -/
theorem visit_of_not_isCandidate (hnot : isCandidate element = false) (pass : Pass) :
    visit dictionary excluded pass element = pass := by
  unfold visit
  rw [isCandidate] at hnot
  cases hclosing : element.selfClosing with
  | true => rfl
  | false =>
      cases hcode : Attribute.read? "Code" element.attributes with
      | none => rfl
      | some code =>
          rw [hclosing, hcode] at hnot
          cases hnot

/-- A candidate with an excluded or repeated code leaves everything as it is, and every other one is
entered. -/
theorem visit_of_isCandidate (hcandidate : isCandidate element = true) (pass : Pass) :
    visit dictionary excluded pass element =
      if codeOf element ∈ excluded ++ pass.seen then pass
      else ⟨pass.seen ++ [codeOf element],
        pass.nodes ++ [(sectionOf dictionary element pass.ledger).1],
        (sectionOf dictionary element pass.ledger).2⟩ := by
  unfold visit
  rw [isCandidate, Bool.and_eq_true, Bool.not_eq_true'] at hcandidate
  obtain ⟨hopen, hsome⟩ := hcandidate
  obtain ⟨code, hcode⟩ := Option.isSome_iff_exists.mp hsome
  have hcodeOf : codeOf element = code := by rw [codeOf, hcode, Option.getD_some]
  rw [hopen, hcode, hcodeOf]
  simp only [Bool.false_eq_true, if_false, List.mem_append]

/-- Visiting elements enters those that are kept when the codes seen before count as excluded. -/
theorem foldl_visit (dictionary : Dictionary) (excluded : List Text) (elements : List Element)
    (pass : Pass) :
    let entered := kept (excluded ++ pass.seen) (elements.filter isCandidate)
    elements.foldl (visit dictionary excluded) pass =
      ⟨pass.seen ++ entered.map codeOf,
        pass.nodes ++ (sectionsEach dictionary entered pass.ledger).1,
        (sectionsEach dictionary entered pass.ledger).2⟩ := by
  intro entered
  induction elements generalizing pass with
  | nil => simp [entered, kept, sectionsEach]
  | cons element rest ih =>
      rw [List.foldl_cons, ih]
      cases hcandidate : isCandidate element with
      | false =>
          rw [visit_of_not_isCandidate hcandidate]
          simp only [entered, List.filter_cons, hcandidate, Bool.false_eq_true, if_false]
      | true =>
          have hentered : entered = if codeOf element ∈ excluded ++ pass.seen then
              kept (excluded ++ pass.seen) (rest.filter isCandidate)
            else element ::
              kept (codeOf element :: (excluded ++ pass.seen)) (rest.filter isCandidate) := by
            simp only [entered, List.filter_cons, hcandidate, if_true, kept_cons]
          rw [visit_of_isCandidate hcandidate, hentered]
          split
          · rfl
          · -- The code of this element is seen from here on.
            have hsame : ∀ code, code ∈ excluded ++ (pass.seen ++ [codeOf element]) ↔
                code ∈ codeOf element :: (excluded ++ pass.seen) := by
              intro code
              simp only [List.mem_append, List.mem_cons, List.not_mem_nil, or_false]
              tauto
            simp only [kept_congr hsame, List.map_cons, sectionsEach, List.append_assoc,
              List.singleton_append]

theorem foldl_visitForm (dictionary : Dictionary) (excluded roles : List Text)
    (forms : List Element) (pass : Pass) :
    forms.foldl (visitForm dictionary excluded roles) pass =
      ((forms.filter (isWanted roles)).flatMap fun form => Element.all tags form.body).foldl
        (visit dictionary excluded) pass := by
  induction forms generalizing pass with
  | nil => rfl
  | cons form rest ih =>
      rw [List.foldl_cons, ih, List.filter_cons, visitForm]
      split
      · rw [List.flatMap_cons, List.foldl_append]
      · rfl

/-- A pass over a template enters the kept candidates. -/
theorem ofTemplate_eq (dictionary : Dictionary) (excluded roles : List Text) (template : Text) :
    let entered := kept excluded (candidates roles template)
    ofTemplate dictionary excluded roles template =
      ⟨entered.map codeOf, (sectionsEach dictionary entered {}).1,
        (sectionsEach dictionary entered {}).2⟩ := by
  intro entered
  have hcandidates : candidates roles template =
      (((Element.all formTags template).filter (isWanted roles)).flatMap fun form =>
        Element.all tags form.body).filter isCandidate := by
    rw [candidates, List.filter_flatMap]
  rw [ofTemplate, foldl_visitForm, foldl_visit, ← hcandidates]
  simp only [List.append_nil, List.nil_append, entered]

end Pass

end Block

/-- A form is made from the bodies of the kept candidates, in order and with one new ledger. -/
theorem Form.extract_eq_sectionsEach (template dictionary : Text) (excluded roles : List Text) :
    extract template dictionary excluded roles =
      let made := Block.sectionsEach (Dictionary.read dictionary)
        (Block.kept excluded (Block.candidates roles template)) {}
      ⟨made.1, made.2.aliases⟩ := by
  rw [extract, ofBlocks, Block.all_eq_map, Block.retained_map, Block.enterBlocks_map]

/-- How the blocks of a form are selected among the candidates of its template. -/
structure Form.Selected (template dictionary : Text) (excluded roles : List Text) (kept : List Element)
    (form : Form) : Prop where
  /-- One block is kept for each code that is not excluded, in the order in which the codes first come. -/
  codes : kept.map Block.codeOf =
    ((Block.candidates roles template).map Block.codeOf).eraseDups.filter (!excluded.contains ·)
  /-- A kept block is the first one with its code. -/
  first : ∀ element ∈ kept,
    (Block.candidates roles template).find? (Block.codeOf · == Block.codeOf element) = some element
  /-- The sections of the form are those of the kept blocks, with their names and bodies. -/
  sections : List.Forall₂ (fun element node => ∃ ledger,
    node = (Block.sectionOf (Dictionary.read dictionary) element ledger).1) kept form.nodes
  /-- The form is made from the kept blocks only, with one new ledger. -/
  alone : (form.nodes, form.aliases) =
    let made := Block.sectionsEach (Dictionary.read dictionary) kept {}
    (made.1, made.2.aliases)
  /-- A pass over the template that leaves everything as it is at any other element comes to the same
  codes, sections and ledger. -/
  passed : Block.Pass.ofTemplate (Dictionary.read dictionary) excluded roles template =
    let made := Block.sectionsEach (Dictionary.read dictionary) kept {}
    ⟨kept.map Block.codeOf, made.1, made.2⟩
  /-- Only the set of the excluded codes matters. -/
  congr : ∀ others, (∀ code, code ∈ others ↔ code ∈ excluded) →
    Block.kept others (Block.candidates roles template) = kept ∧
      Form.extract template dictionary others roles = form
  /-- Excluding further codes takes these codes out and leaves the others in their order. -/
  further : ∀ more, (Block.kept (excluded ++ more) (Block.candidates roles template)).map Block.codeOf =
    (kept.map Block.codeOf).filter (!more.contains ·)

/-- The blocks of a form are the first candidates of its template with codes that are not excluded. -/
theorem Form.extract_selected (template dictionary : Text) (excluded roles : List Text) :
    Form.Selected template dictionary excluded roles
      (Block.kept excluded (Block.candidates roles template))
      (extract template dictionary excluded roles) where
  codes := Block.map_codeOf_kept excluded _
  first _ hmem := Block.firstWith?_of_mem_kept hmem
  sections := by
    rw [extract_eq_sectionsEach]
    exact Block.forall₂_sectionsEach _ _ {}
  alone := by rw [extract_eq_sectionsEach]
  passed := Block.Pass.ofTemplate_eq _ excluded roles template
  congr others hsame := by
    have hkept := Block.kept_congr hsame (Block.candidates roles template)
    rw [extract_eq_sectionsEach, extract_eq_sectionsEach, hkept]
    exact ⟨rfl, rfl⟩
  further more := by
    rw [Block.kept_append, List.filter_map]
    rfl

end FormFill

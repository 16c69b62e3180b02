import FormFill.Proofs.Document.Printing
import FormFill.Proofs.Markup.AttributeList

/-!
# Selectors with many choices

A selector is printed with any attributes and any number of choices, whose values may hold `>`. The first
choice that is marked should give the selector its code and its alias. It does so unless a `>` in front of
its `Code` hides it, or an earlier choice takes over whose `Code` begins with the opening of a marker: the
key of that choice goes on up to the next end of a marker in front of a quote, in the same line.
-/

namespace FormFill.Document

open Tag Element

/-- A choice of a selector, with the text in front of it. -/
structure SelectorChoice where
  gap : Gap
  attributes : List Attribute.Pair
  nodup : (attributes.map (·.name)).Nodup
  noEquals : ∀ pair ∈ attributes, '=' ∉ pair.value
  plain : ∀ pair ∈ attributes, '<' ∉ pair.value
  /-- Whether a blank stands in front of the slash. -/
  spaced : Bool

namespace SelectorChoice

/-- What stands between the attributes and the end of the tag. -/
def ending (choice : SelectorChoice) : Text := if choice.spaced then [' ', '/'] else ['/']

/-- The tag of a choice, which closes itself. -/
def tag (choice : SelectorChoice) : Tag :=
  ⟨false, FieldKind.plain.tag, Attribute.textOf choice.attributes ++ choice.ending⟩

def text (choice : SelectorChoice) : Text := choice.gap.text ++ choice.tag.text

/-- A choice whose `Code` is one marker with a key. -/
structure Offers (choice : SelectorChoice) (marker : Marker) : Prop where
  code : ∃ pair ∈ choice.attributes, pair.name = "Code" ∧ pair.value = marker.text
  isKey : Marker.IsKey marker.key
  ne_nil : marker.key ≠ []

/-- An attribute in front of the `Code` of a choice holds a `>`. -/
def IsHidden (choice : SelectorChoice) : Prop :=
  ∃ pair ∈ choice.attributes.takeWhile (·.name ≠ ("Code" : Text)), '>' ∈ pair.value

instance (choice : SelectorChoice) : Decidable choice.IsHidden :=
  inferInstanceAs (Decidable (∃ pair ∈ choice.attributes.takeWhile _, _))

/-- The key that is read in a choice, given the text behind its tag. -/
def given? (choice : SelectorChoice) (behind : Text) : Option Text :=
  match Attribute.reached "Code" choice.attributes with
  | [] => none
  | pair :: later => Attribute.filling?
      (pair.value ++ '"' :: (Attribute.textOf later ++ (choice.ending ++ '>' :: behind)))

/-- The first key that is read in choices, given the text behind them. -/
def firstGiven? : List SelectorChoice → Text → Option Text
  | [], _ => none
  | choice :: rest, behind =>
    (choice.given? (rest.flatMap text ++ behind)).or (firstGiven? rest behind)

theorem firstGiven?_append (first second : List SelectorChoice) (behind : Text) :
    firstGiven? (first ++ second) behind =
      (firstGiven? first (second.flatMap text ++ behind)).or (firstGiven? second behind) := by
  induction first with
  | nil => rfl
  | cons choice first ih =>
      rw [List.cons_append, firstGiven?, firstGiven?, ih, Option.or_assoc, List.flatMap_append,
        List.append_assoc]

section Reading

variable (choice : SelectorChoice)

theorem of_mem_ending : ∀ c ∈ choice.ending, c ≠ '<' ∧ Text.isNameChar c = false ∧
    Text.isWord c = false := by
  have hslash : '/' ≠ '<' ∧ Text.isNameChar '/' = false ∧ Text.isWord '/' = false := by decide
  have hblank : ' ' ≠ '<' ∧ Text.isNameChar ' ' = false ∧ Text.isWord ' ' = false := by decide
  rw [ending]
  split
  · exact List.forall_mem_cons.mpr ⟨hblank, List.forall_mem_singleton.mpr hslash⟩
  · exact List.forall_mem_singleton.mpr hslash

theorem plain_attributes : '<' ∉ choice.tag.attributes := by
  have htext := Attribute.not_mem_textOf (by decide) (by decide) choice.plain
  intro hmem
  rcases List.mem_append.mp hmem with hfront | hending
  · exact htext hfront
  · exact (choice.of_mem_ending _ hending).1 rfl

theorem isClean_tag : choice.tag.IsClean := by
  refine ⟨FieldKind.isWordName_tag .plain, ?_, ?_⟩
  · intro c hc
    rw [tag, List.head?_append, Option.mem_def, Option.or_eq_some_iff] at hc
    rcases hc with hfront | ⟨-, hending⟩
    · exact Attribute.head_textOf choice.attributes c hfront
    · exact (choice.of_mem_ending c (List.mem_of_mem_head? hending)).2.2
  · rw [tag, Attribute.isInside_textOf, ending]
    cases choice.spaced <;> rfl

/-- A choice is passed over by every search for other tags than its own. -/
theorem skips_text {names : List Text} (hnames : ∀ name ∈ names, IsWordName name)
    (hother : FieldKind.plain.tag ∉ names) : Skips names choice.text := by
  have htag : '<' ∉ choice.tag.text.tail := by
    have hattributes := choice.plain_attributes
    rw [tag] at hattributes ⊢
    simpa [Tag.text, FieldKind.plain_tag] using hattributes
  exact choice.gap.skips.append (choice.isClean_tag.skips hnames hother htag)

/-- What is read first from a choice on is what it gives, or what is read first behind it. -/
theorem firstChoiceKey?_text (behind : Text) : Parameter.firstChoiceKey? (choice.text ++ behind) =
    (choice.given? behind).or (Parameter.firstChoiceKey? behind) := by
  have htext : choice.tag.text ++ behind = '<' :: (FieldKind.plain.tag ++
      (Attribute.textOf choice.attributes ++ (choice.ending ++ '>' :: behind))) := by
    simp [tag, Tag.text]
  have hend : ∀ before, Attribute.findMarkerInTag? "Code" before (choice.ending ++ '>' :: behind) = none :=
    Attribute.findMarkerInTag?_end (by decide) fun c hc => (choice.of_mem_ending c hc).2.1
  have hgiven : Attribute.findMarkerInTag? "Code" Parameter.choiceOpening.getLast?
      (Attribute.textOf choice.attributes ++ (choice.ending ++ '>' :: behind)) = choice.given? behind :=
    Attribute.findMarkerInTag?_textOf (by decide) choice.nodup choice.noEquals hend _
  have hplain : '<' ∉ FieldKind.plain.tag ++ (choice.tag.attributes ++ ['>']) := by
    simp [FieldKind.plain_tag, choice.plain_attributes]
  have hbehind : Parameter.firstChoiceKey? (FieldKind.plain.tag ++
      (Attribute.textOf choice.attributes ++ (choice.ending ++ '>' :: behind))) =
        Parameter.firstChoiceKey? behind := by
    rw [← firstChoiceKey?_append hplain behind]
    simp [tag]
  rw [text, List.append_assoc, firstChoiceKey?_append choice.gap.plain, htext,
    firstChoiceKey?_opening, hgiven, hbehind]

end Reading

theorem firstChoiceKey?_flatMap (choices : List SelectorChoice) (last : Gap) :
    Parameter.firstChoiceKey? (choices.flatMap text ++ last.text) = firstGiven? choices last.text := by
  induction choices with
  | nil =>
      have hnone := firstChoiceKey?_append last.plain []
      rw [List.append_nil] at hnone
      exact hnone
  | cons choice choices ih =>
      rw [List.flatMap_cons, List.append_assoc, firstChoiceKey?_text, ih, firstGiven?]

/-- A choice that is marked gives its key unless it is hidden. -/
theorem Offers.given?_eq {choice : SelectorChoice} {marker : Marker} (h : choice.Offers marker)
    (behind : Text) : choice.given? behind = if choice.IsHidden then none else some marker.key := by
  obtain ⟨code, hmem, hname, hvalue⟩ := h.code
  have hiff := Attribute.reached_eq_nil_iff ⟨code, hmem, hname⟩
  rw [given?]
  cases hreached : Attribute.reached "Code" choice.attributes with
  | nil =>
      have hhidden : choice.IsHidden := hiff.mp hreached
      rw [if_pos hhidden]
  | cons pair later =>
      have hvisible : ¬choice.IsHidden := by
        intro hhidden
        rw [hiff.mpr hhidden] at hreached
        cases hreached
      obtain ⟨hpair, hpairName⟩ := Attribute.mem_of_reached hreached
      have hsame : pair = code :=
        List.inj_on_of_nodup_map choice.nodup hpair hmem (hpairName.trans hname.symm)
      rw [if_neg hvisible, hsame]
      dsimp only
      rw [hvalue, Attribute.filling?_marker h.isKey]

/-- A key that can stand in a marker is given only by a choice that is marked with it. -/
theorem exists_offers_of_given? {choice : SelectorChoice} {behind key : Text}
    (h : choice.given? behind = some key) (hkey : Marker.IsKey key) (hne : key ≠ [])
    (hquote : '"' ∉ key) : ∃ marker, choice.Offers marker := by
  rw [given?] at h
  split at h
  · cases h
  next pair later hreached =>
    obtain ⟨operation, rest, htext, -, -⟩ := Attribute.filling?_eq_some_iff.mp h
    obtain ⟨hmem, hname⟩ := Attribute.mem_of_reached hreached
    have hopening : '"' ∉ Marker.opening operation := by cases operation <;> decide
    have hmarker : '"' ∉ Marker.text ⟨operation, key⟩ := by
      simp [Marker.text, Marker.closing, hopening, hquote]
    have hparts : pair.value ++ '"' :: (Attribute.textOf later ++ (choice.ending ++ '>' :: behind)) =
        Marker.text ⟨operation, key⟩ ++ '"' :: rest := by
      rw [htext]
      simp [Marker.text]
    have hvalue := (Text.eq_of_append_cons_eq pair.noQuote hmarker hparts).1
    exact ⟨⟨operation, key⟩, ⟨pair, hmem, hname, hvalue⟩, hkey, hne⟩

/-- A choice whose `Code` does not begin with the opening of a marker gives no key. -/
theorem given?_eq_none {choice : SelectorChoice} (hcode : ∀ pair ∈ choice.attributes,
    pair.name = "Code" → ∀ operation, ¬Marker.opening operation <+: pair.value) (behind : Text) :
    choice.given? behind = none := by
  rw [given?]
  split
  · rfl
  next pair later hreached =>
    obtain ⟨hmem, hname⟩ := Attribute.mem_of_reached hreached
    rw [Option.eq_none_iff_forall_ne_some]
    intro key hkey
    obtain ⟨operation, rest, htext, -, -⟩ := Attribute.filling?_eq_some_iff.mp hkey
    have hquote : '"' ∉ Marker.opening operation := by cases operation <;> decide
    have hopening : Marker.opening operation <+: pair.value :=
      (Text.prefix_append_cons_iff hquote).mp ⟨_, htext.symm⟩
    exact hcode pair hmem hname operation hopening

theorem firstGiven?_eq_none {choices : List SelectorChoice}
    (hchoices : ∀ choice ∈ choices, ∀ behind, choice.given? behind = none) (behind : Text) :
    firstGiven? choices behind = none := by
  induction choices with
  | nil => rfl
  | cons choice choices ih =>
      obtain ⟨hchoice, hchoices⟩ := List.forall_mem_cons.mp hchoices
      rw [firstGiven?, hchoice, ih hchoices, Option.or_none]

/-- Choices of which none is marked give no key that can stand in a marker. -/
theorem exists_offers_of_firstGiven? {choices : List SelectorChoice} {behind key : Text}
    (h : firstGiven? choices behind = some key) (hkey : Marker.IsKey key) (hne : key ≠ [])
    (hquote : '"' ∉ key) : ∃ choice ∈ choices, ∃ marker, choice.Offers marker := by
  induction choices with
  | nil => cases h
  | cons choice choices ih =>
      rw [firstGiven?, Option.or_eq_some_iff] at h
      rcases h with hhere | ⟨-, hlater⟩
      · exact ⟨choice, List.mem_cons_self, exists_offers_of_given? hhere hkey hne hquote⟩
      · obtain ⟨other, hother, hoffers⟩ := ih hlater
        exact ⟨other, List.mem_cons_of_mem choice hother, hoffers⟩

section First

variable {before after : List SelectorChoice} {choice : SelectorChoice} {marker : Marker}

/-- When the key of the first marked choice is the first that is read. -/
theorem firstGiven?_eq_some_iff (hchoice : choice.Offers marker)
    (hfirst : ∀ other ∈ before, ∀ marker, ¬other.Offers marker) (behind : Text) :
    firstGiven? (before ++ choice :: after) behind = some marker.key ↔
      firstGiven? before ((choice :: after).flatMap text ++ behind) = none ∧
        (¬choice.IsHidden ∨ firstGiven? after behind = some marker.key) := by
  rw [firstGiven?_append, firstGiven?, hchoice.given?_eq]
  cases hbefore : firstGiven? before ((choice :: after).flatMap text ++ behind) with
  | none =>
      by_cases hhidden : choice.IsHidden
      · simp [hhidden]
      · simp [hhidden]
  | some key =>
      -- An earlier choice gives another key, for with this one it would be the first that is marked.
      have hne : key ≠ marker.key := by
        rintro rfl
        obtain ⟨code, -, -, hcode⟩ := hchoice.code
        have hquote : '"' ∉ marker.key := by
          have hvalue := code.noQuote
          rw [hcode, Marker.text] at hvalue
          simp only [List.mem_append, not_or] at hvalue
          exact hvalue.1.2
        obtain ⟨other, hother, found, hoffers⟩ :=
          exists_offers_of_firstGiven? hbefore hchoice.isKey hchoice.ne_nil hquote
        exact hfirst other hother found hoffers
      simp [hne]

end First

end SelectorChoice

/-- A selector with any attributes and any choices. -/
structure Menu where
  attributes : List Attribute.Pair
  choices : List SelectorChoice
  last : Gap

namespace Menu

variable (menu : Menu)

def inside : Text := menu.choices.flatMap (·.text) ++ menu.last.text

def text : Text := written FieldKind.select.tag (Attribute.textOf menu.attributes) menu.inside

/-- The element that is printed. -/
def element : Element :=
  ⟨FieldKind.select.tag, Attribute.textOf menu.attributes, menu.inside, false, 0, menu.text.length⟩

/-- From the text of a menu one field is made, with a key as its code and as its alias. -/
def SurfacesAs (dictionary : Dictionary) (key : Text) : Prop :=
  ∃ field, Parameter.extract dictionary menu.text {} =
      ([field], { aliases := [(key, key)], counters := [(key, 1)], issued := [key] }) ∧
    field.kind = .select ∧ field.code = key

theorem all_text : Element.all Parameter.tags menu.text = [menu.element] := by
  have hname := FieldKind.isWordName_tag .select
  have hinside : Balanced FieldKind.select.tag menu.inside := by
    apply Balanced.of_skips
    refine (Skips.flatMap fun choice _ => ?_).append menu.last.skips
    exact choice.skips_text (by simpa using hname) (by decide)
  have hall := allFrom_written Parameter.isWordName_tags (FieldKind.tag_mem_tags .select)
    (Attribute.isClean_textOf hname menu.attributes) (Attribute.ownClosing?_textOf _ _) hinside 0 []
  rw [List.append_nil, ← text, allFrom_nil, Nat.zero_add] at hall
  rw [all_eq_allFrom (by decide), hall, element]

/-- A menu with a marker in it surfaces as a key exactly if this is the key of its selector. -/
theorem surfacesAs_iff (hmarker : Marker.occursIn menu.inside = true) (dictionary : Dictionary)
    (key : Text) : menu.SurfacesAs dictionary key ↔ Parameter.selectorKey? menu.element = some key := by
  have hall : Parameter.all menu.text = (Parameter.ofElement? menu.element).toList := by
    rw [Parameter.all, menu.all_text]
    cases hparameter : Parameter.ofElement? menu.element with
    | none => rw [List.filterMap_cons_none hparameter]; rfl
    | some parameter => rw [List.filterMap_cons_some hparameter]; rfl
  have hoccurs : Marker.occursIn menu.element.body = true := hmarker
  have hkind : FieldKind.ofTag? menu.element.tag = some .select := rfl
  have hopen : menu.element.selfClosing = false := rfl
  rw [SurfacesAs, Parameter.extract, hall, Parameter.ofElement?, hkind]
  dsimp only
  simp only [hoccurs, hopen]
  cases Parameter.selectorKey? menu.element with
  | none =>
      cases Attribute.read? "Code" menu.element.attributes with
      | none => simp [Parameter.enterAll]
      | some code => simp [Parameter.enterAll, Parameter.enter_empty]
  | some found => simp [Parameter.enterAll, Parameter.enter_empty, Parameter.field]

theorem selectorKey?_element (menu : Menu) : Parameter.selectorKey? menu.element =
    ((SelectorChoice.firstGiven? menu.choices menu.last.text).filter (!·.isEmpty)).or
      ((Parameter.selectedKey? (Attribute.textOf menu.attributes)).filter (!·.isEmpty)) := by
  rw [Parameter.selectorKey?, element, inside, SelectorChoice.firstChoiceKey?_flatMap]

/-- A marked choice puts its marker into the menu. -/
theorem occursIn_inside {choice : SelectorChoice} {marker : Marker} (hmem : choice ∈ menu.choices)
    (hchoice : choice.Offers marker) : Marker.occursIn menu.inside = true := by
  obtain ⟨code, hcode, -, hvalue⟩ := hchoice.code
  have hwritten : marker.text <:+: Attribute.written code.name code.value := by
    refine ⟨' ' :: Attribute.opening code.name, ['"'], ?_⟩
    rw [← hvalue]
    rfl
  have htag : Attribute.textOf choice.attributes <:+: choice.text :=
    ⟨choice.gap.text ++ '<' :: FieldKind.plain.tag, choice.ending ++ ['>'], by
      simp [SelectorChoice.text, SelectorChoice.tag, Tag.text]⟩
  have hattributes : Attribute.written code.name code.value <:+: Attribute.textOf choice.attributes := by
    rw [Attribute.textOf, List.flatMap_def]
    exact List.infix_of_mem_flatten (List.mem_map.mpr ⟨code, hcode, rfl⟩)
  have hchoices : choice.text <:+: menu.choices.flatMap (·.text) := by
    rw [List.flatMap_def]
    exact List.infix_of_mem_flatten (List.mem_map_of_mem hmem)
  have hinside : marker.text <:+: menu.inside :=
    (((hwritten.trans hattributes).trans htag).trans hchoices).trans (List.prefix_append _ _).isInfix
  exact Marker.occursIn_of_within hinside

end Menu

section First

variable {before after : List SelectorChoice} {choice : SelectorChoice} {marker : Marker}

/-- The first marked choice of a selector gives it code and alias, whatever its own attributes are, if no
choice before it gives a key and if it is not hidden, or a later choice gives the same key; and only then.
No choice before it gives a key if none of them has a `Code` that begins with the opening of a marker. -/
theorem surfaces_first_offer_iff (hchoice : choice.Offers marker)
    (hfirst : ∀ other ∈ before, ∀ marker, ¬other.Offers marker) (last : Gap) :
    ((∀ attributes dictionary,
        (Menu.mk attributes (before ++ choice :: after) last).SurfacesAs dictionary marker.key) ↔
      SelectorChoice.firstGiven? before ((choice :: after).flatMap (·.text) ++ last.text) = none ∧
        (¬choice.IsHidden ∨ SelectorChoice.firstGiven? after last.text = some marker.key)) ∧
    ((∀ other ∈ before, ∀ pair ∈ other.attributes, pair.name = "Code" → ∀ operation,
        ¬Marker.opening operation <+: pair.value) →
      SelectorChoice.firstGiven? before ((choice :: after).flatMap (·.text) ++ last.text) = none) := by
  have hne : (!marker.key.isEmpty) = true := by simpa using hchoice.ne_nil
  have hmem : choice ∈ before ++ choice :: after := by simp
  constructor
  · rw [← SelectorChoice.firstGiven?_eq_some_iff hchoice hfirst]
    constructor
    · intro h
      -- Without attributes of its own the selector has no other key.
      have hkey := (Menu.surfacesAs_iff _ (Menu.occursIn_inside _ hmem hchoice) [] _).mp (h [] [])
      have hnone : Parameter.selectedKey? (Attribute.textOf []) = none := rfl
      rw [Menu.selectorKey?_element, hnone, Option.filter_none, Option.or_none] at hkey
      exact (Option.filter_eq_some_iff.mp hkey).1
    · intro h attributes dictionary
      rw [Menu.surfacesAs_iff _ (Menu.occursIn_inside _ hmem hchoice), Menu.selectorKey?_element]
      dsimp only
      rw [h, Option.filter_some, if_pos hne, Option.some_or]
  · intro hcode
    exact SelectorChoice.firstGiven?_eq_none
      (fun other hother behind => SelectorChoice.given?_eq_none (hcode other hother) behind) _

end First

/-- A name that holds a `>`. -/
def arrowName : Attribute.Pair := ⟨"Name", "a>b", Attribute.isName_name, by decide⟩

/-- A marker with the key `K` in the `Code`. -/
def markedCode : Attribute.Pair :=
  ⟨"Code", "\x7b?External(K)?\x7d", Attribute.isName_code, by decide⟩

/-- A marked choice with its name behind the `Code`. -/
def namedBehind : SelectorChoice where
  gap := ⟨[], by decide⟩
  attributes := [markedCode, arrowName]
  nodup := by decide
  noEquals := by decide
  plain := by decide
  spaced := true

/-- A marked choice with its name in front of the `Code`. -/
def namedInFront : SelectorChoice :=
  { namedBehind with
    attributes := [arrowName, markedCode]
    nodup := by decide
    noEquals := by decide
    plain := by decide }

/-- A choice with a name alone. -/
def namedOnly : SelectorChoice :=
  { namedBehind with
    attributes := [arrowName]
    nodup := by decide
    noEquals := by decide
    plain := by decide }

theorem offers_of_mem {choice : SelectorChoice} (h : markedCode ∈ choice.attributes) :
    choice.Offers ⟨.external, "K"⟩ :=
  ⟨⟨markedCode, h, rfl, rfl⟩, ⟨by decide, by decide, by decide⟩, by decide⟩

theorem not_offers_namedOnly (marker : Marker) : ¬namedOnly.Offers marker := by
  intro hoffers
  obtain ⟨code, hmem, hname, -⟩ := hoffers.code
  rw [List.mem_singleton.mp hmem] at hname
  exact absurd hname (by decide)

/-- Behind the `Code` a `>` does no harm, nor does it in a choice that is not marked. -/
theorem surfaces_first_offer_named : namedBehind.Offers ⟨.external, "K"⟩ ∧
    (∀ other ∈ [namedOnly], ∀ marker, ¬other.Offers marker) ∧
    ∀ attributes dictionary,
      (Menu.mk attributes [namedOnly, namedBehind] ⟨[], by decide⟩).SurfacesAs dictionary "K" := by
  have hchoice : namedBehind.Offers ⟨.external, "K"⟩ := offers_of_mem List.mem_cons_self
  have hfirst : ∀ other ∈ [namedOnly], ∀ marker, ¬other.Offers marker := by
    intro other hother
    rw [List.mem_singleton.mp hother]
    exact not_offers_namedOnly
  refine ⟨hchoice, hfirst, ?_⟩
  have hsurfaces := (@surfaces_first_offer_iff [namedOnly] [] _ _ hchoice hfirst ⟨[], by decide⟩).1
  apply hsurfaces.mpr
  exact ⟨by decide, Or.inl (by decide)⟩

/-- A `>` in the name of the only marked choice keeps its marker from the selector. -/
theorem not_forall_surfaces_first_offer : ¬ ∀ (attributes : List Attribute.Pair)
    (before after : List SelectorChoice) (choice : SelectorChoice) (marker : Marker) (last : Gap)
    (dictionary : Dictionary), choice.Offers marker →
      (∀ other ∈ before, ∀ marker, ¬other.Offers marker) →
      (Menu.mk attributes (before ++ choice :: after) last).SurfacesAs dictionary marker.key := by
  intro h
  let own : Attribute.Pair := ⟨"Code", "S", by decide, by decide⟩
  let menu : Menu := ⟨[own], [namedInFront], ⟨[], by decide⟩⟩
  have hoffers : namedInFront.Offers ⟨.external, "K"⟩ :=
    offers_of_mem (List.mem_cons_of_mem _ List.mem_cons_self)
  have hsurfaces : menu.SurfacesAs [] "K" :=
    h [own] [] [] namedInFront ⟨.external, "K"⟩ menu.last [] hoffers (List.forall_mem_nil _)
  obtain ⟨field, hextract, -⟩ := hsurfaces
  have haliases : (Parameter.extract [] menu.text {}).2.aliases = [] := by decide +kernel
  rw [hextract] at haliases
  cases haliases

end FormFill.Document

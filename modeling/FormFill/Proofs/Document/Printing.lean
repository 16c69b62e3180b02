import FormFill.Proofs.Document.Basic

/-!
# Reading what is printed

Each printed element is read back by the search for its tag and passed over by the searches for the tags
of other levels. What an input says about its field is read from its printed element.
-/

namespace FormFill

theorem FieldKind.isWordName_tag (kind : FieldKind) : IsWordName kind.tag := by
  cases kind <;> decide

theorem FieldKind.plain_tag (kind : FieldKind) : '<' ∉ kind.tag :=
  (isWordName_tag kind).not_mem (by decide)

theorem FieldKind.tag_mem_tags (kind : FieldKind) : kind.tag ∈ Parameter.tags := by
  cases kind <;> decide

namespace Document

open Tag Element

theorem isValue_of_mem {value? : Option Value} {text : Text} (h : text ∈ value?.map (·.text)) :
    Attribute.IsValue text ∧ '<' ∉ text := by
  obtain ⟨value, -, rfl⟩ := Option.map_eq_some_iff.mp h
  exact ⟨value.isValue, value.plain⟩

namespace Attributes

variable (attributes : Attributes)

theorem isValue_entries : ∀ entry ∈ attributes.entries, Attribute.IsName entry.1 ∧
    ∀ value ∈ entry.2, Attribute.IsValue value ∧ '<' ∉ value := by
  simp only [entries, List.forall_mem_cons]
  refine ⟨⟨by decide, fun _ => isValue_of_mem⟩, ⟨by decide, fun _ => isValue_of_mem⟩,
    ⟨by decide, fun _ => isValue_of_mem⟩, ⟨by decide, fun _ => isValue_of_mem⟩,
    ⟨by decide, fun _ => isValue_of_mem⟩, List.forall_mem_nil _⟩

theorem isAttributes_entries : IsAttributes (Attribute.writtenAll attributes.entries) := by
  have hentries := attributes.isValue_entries
  refine Attribute.isAttributes_writtenAll (fun entry hmem => ?_) fun entry hmem value hvalue => ?_
  · exact ⟨(hentries entry hmem).1, fun value hvalue => ((hentries entry hmem).2 value hvalue).1⟩
  · exact ((hentries entry hmem).2 value hvalue).2

/-- Every attribute is read back under its name. -/
theorem read?_entries :
    let written := Attribute.writtenAll attributes.entries
    Attribute.read? "Code" written = attributes.code.map (·.text) ∧
      Attribute.read? "Name" written = attributes.name.map (·.text) ∧
      Attribute.read? "RegEx" written = attributes.pattern.map (·.text) ∧
      Attribute.read? "ErrorText" written = attributes.errorText.map (·.text) ∧
      Attribute.read? "Dictionary" written = attributes.dictionary.map (·.text) := by
  have hnodup : (attributes.entries.map (·.1)).Nodup := by
    change List.Nodup ["Code".toList, "Name".toList, "RegEx".toList, "ErrorText".toList,
      "Dictionary".toList]
    decide
  have hread : ∀ name value?, (name, value?) ∈ attributes.entries →
      Attribute.read? name (Attribute.writtenAll attributes.entries) = value? := by
    intro name value? hmem
    refine Attribute.read?_writtenAll_of_mem (fun entry hentry => ?_) hnodup hmem
    have hvalue := attributes.isValue_entries entry hentry
    exact ⟨hvalue.1, fun value hmem => (hvalue.2 value hmem).1⟩
  refine ⟨hread _ _ ?_, hread _ _ ?_, hread _ _ ?_, hread _ _ ?_, hread _ _ ?_⟩
  · exact List.Mem.head _
  · exact List.Mem.tail _ (List.Mem.head _)
  · exact List.Mem.tail _ (List.Mem.tail _ (List.Mem.head _))
  · exact List.Mem.tail _ (List.Mem.tail _ (List.Mem.tail _ (List.Mem.head _)))
  · exact List.Mem.tail _ (List.Mem.tail _ (List.Mem.tail _ (List.Mem.tail _ (List.Mem.head _))))

end Attributes

section Elements

variable {names : List Text} {tag inside : Text}

theorem skips_element (hnames : ∀ name ∈ names, IsWordName name) (htag : IsWordName tag)
    (hother : tag ∉ names) (attributes : Attributes) (hinside : Skips names inside) :
    Skips names (element tag attributes inside) :=
  skips_written hnames htag hother attributes.isAttributes_entries hinside

theorem balanced_element (htag : IsWordName tag) (attributes : Attributes)
    (hinside : Balanced tag inside) : Balanced tag (element tag attributes inside) :=
  balanced_written htag attributes.isAttributes_entries hinside

theorem yields_element {α : Type} {taken : Element → List α}
    (hnames : ∀ name ∈ names, IsWordName name) (hmem : tag ∈ names) (attributes : Attributes)
    (hinside : Balanced tag inside)
    (htaken : ∀ element start stop, taken (element.moved start stop) = taken element) :
    Yields names taken (element tag attributes inside)
      (taken ⟨tag, Attribute.writtenAll attributes.entries, inside, false, 0, 0⟩) :=
  Yields.written hnames hmem attributes.isAttributes_entries hinside htaken

theorem Gap.skips (gap : Gap) : Skips names gap.text := Skips.of_not_mem gap.plain

/-- What is taken from printed parts and a gap at the end is what each part yields. -/
theorem taken_flatMap {α β : Type} {taken : Element → List β} {items : List α} {text : α → Text}
    {values : α → List β} (hne : names ≠ [])
    (hitems : ∀ item, Yields names taken (text item) (values item)) (last : Gap) :
    (Element.all names (items.flatMap text ++ last.text)).flatMap taken =
      items.flatMap values := by
  have hyields : Yields names taken (items.flatMap text) (items.flatMap values) :=
    Yields.flatMap fun item _ => hitems item
  have hall := (hyields.append (Yields.of_skips last.skips)).all_eq hne
  rwa [List.append_nil] at hall

end Elements

/-- What is read first from an opening tag of a choice on is what is read in this tag, or what is read
first behind its beginning. -/
theorem firstChoiceKey?_opening (rest : Text) :
    Parameter.firstChoiceKey? ('<' :: (FieldKind.plain.tag ++ rest)) =
      (Attribute.findMarkerInTag? "Code" Parameter.choiceOpening.getLast? rest).or
        (Parameter.firstChoiceKey? (FieldKind.plain.tag ++ rest)) := by
  have hafter : Text.after? Parameter.choiceOpening ('<' :: (FieldKind.plain.tag ++ rest)) =
      some rest := Text.after?_eq_some_iff.mpr rfl
  rw [Parameter.firstChoiceKey?, hafter, Option.bind_some]
  cases Attribute.findMarkerInTag? "Code" Parameter.choiceOpening.getLast? rest <;> rfl

namespace ChoiceMarker

variable (choice : ChoiceMarker)

theorem noQuote_text : '"' ∉ choice.marker.text := by
  have hopening : '"' ∉ Marker.opening choice.marker.operation := by
    cases choice.marker.operation <;> decide
  simp [Marker.text, Marker.closing, hopening, choice.noQuote]

theorem plain_text : '<' ∉ choice.marker.text := by
  have hopening : '<' ∉ Marker.opening choice.marker.operation := by
    cases choice.marker.operation <;> decide
  simp [Marker.text, Marker.closing, hopening, choice.plain]

theorem isClean_tag : choice.tag.IsClean := by
  refine ⟨FieldKind.isWordName_tag .plain, ?_, ?_⟩
  · intro c hc
    obtain rfl : ' ' = c := by simpa [tag, Attribute.written] using hc
    decide
  · rw [tag, Attribute.isInside_written (by decide) choice.noQuote_text]
    rfl

/-- A choice is passed over by every search for other tags than its own. -/
theorem skips_tag {names : List Text} (hnames : ∀ name ∈ names, IsWordName name)
    (hother : FieldKind.plain.tag ∉ names) : Skips names choice.tag.text := by
  refine choice.isClean_tag.skips hnames hother ?_
  simp [tag, Tag.text, FieldKind.plain_tag, Attribute.written, Attribute.opening, choice.plain_text]

/-- The key of a choice is found in its tag. -/
theorem firstChoiceKey?_tag (rest : Text) :
    Parameter.firstChoiceKey? (choice.tag.text ++ rest) = some choice.marker.key := by
  have htext : choice.tag.text ++ rest = '<' :: (FieldKind.plain.tag ++
      (Attribute.written "Code" choice.marker.text ++ (['/', '>'] ++ rest))) := by
    simp [tag, Tag.text]
  rw [htext, firstChoiceKey?_opening, Attribute.findMarkerInTag?_written (by decide) choice.isKey,
    Option.some_or]

end ChoiceMarker

/-- Text without `<` in front of a choice does not matter. -/
theorem firstChoiceKey?_append {front : Text} (hfront : '<' ∉ front) (rest : Text) :
    Parameter.firstChoiceKey? (front ++ rest) = Parameter.firstChoiceKey? rest := by
  induction front with
  | nil => rfl
  | cons c front ih =>
      rw [List.mem_cons, not_or] at hfront
      have hnone : Text.after? Parameter.choiceOpening (c :: (front ++ rest)) = none := by
        rw [Parameter.choiceOpening, Text.after?, if_neg hfront.1]
      rw [List.cons_append, Parameter.firstChoiceKey?, hnone, Option.bind_none, ih hfront.2]

namespace Selector

variable (selector : Selector)

theorem skips_inside {names : List Text} (hnames : ∀ name ∈ names, IsWordName name)
    (hother : FieldKind.plain.tag ∉ names) : Skips names selector.inside :=
  (selector.before.skips.append (selector.choice.skips_tag hnames hother)).append
    selector.after.skips

theorem firstChoiceKey?_inside :
    Parameter.firstChoiceKey? selector.inside = some selector.choice.marker.key := by
  rw [inside, List.append_assoc, firstChoiceKey?_append selector.before.plain,
    selector.choice.firstChoiceKey?_tag]

theorem occursIn_inside : Marker.occursIn selector.inside = true := by
  have hwithin : selector.choice.marker.text <:+: selector.inside := by
    refine ⟨selector.before.text ++ '<' :: (FieldKind.plain.tag ++
      (' ' :: Attribute.opening "Code")), ['"', '/', '>'] ++ selector.after.text, ?_⟩
    simp [inside, ChoiceMarker.tag, Tag.text, Attribute.written]
  exact Marker.occursIn_of_within hwithin

end Selector

theorem taken_moved (element : Element) (start stop : Nat) :
    Parameter.taken (element.moved start stop) = Parameter.taken element := rfl

/-- The element of an entry says what the entry says. -/
theorem Entry.taken_eq (entry : Entry) :
    Parameter.taken ⟨entry.kind.tag, Attribute.writtenAll entry.attributes.entries,
      entry.body.text, false, 0, 0⟩ = [entry.parameter] := by
  obtain ⟨hcode, hname, hpattern, herror, -⟩ := entry.attributes.read?_entries
  have hoccurs := Marker.occursIn_of_firstKey? entry.body.firstKey
  simp only [Parameter.taken, Parameter.ofElement?, FieldKind.ofTag?_tag, entry.notSelect, if_false,
    hoccurs, hcode, hname, hpattern, herror, entry.body.firstKey]
  rfl

/-- The element of a selector says what the selector says. -/
theorem Selector.taken_eq (selector : Selector) :
    Parameter.taken ⟨FieldKind.select.tag, Attribute.writtenAll selector.attributes.entries,
      selector.inside, false, 0, 0⟩ = [selector.parameter] := by
  obtain ⟨-, hname, hpattern, herror, hdictionary⟩ := selector.attributes.read?_entries
  have hkey : Parameter.selectorKey? ⟨FieldKind.select.tag,
      Attribute.writtenAll selector.attributes.entries, selector.inside, false, 0, 0⟩ =
        some selector.choice.marker.key := by
    have hne : (!selector.choice.marker.key.isEmpty) = true := by
      simpa using selector.choice.ne_nil
    rw [Parameter.selectorKey?, selector.firstChoiceKey?_inside, Option.filter_some, if_pos hne,
      Option.some_or]
  simp only [Parameter.taken, Parameter.ofElement?, FieldKind.ofTag?_tag, if_true,
    selector.occursIn_inside, hkey, hname, hpattern, herror, hdictionary]
  rfl

namespace Input

/-- An input is passed over by every search for tags that are no tags of inputs. -/
theorem skips {names : List Text} (hnames : ∀ name ∈ names, IsWordName name)
    (hother : ∀ kind : FieldKind, kind.tag ∉ names) (input : Input) : Skips names input.text := by
  cases input with
  | plain entry =>
      exact skips_element hnames (FieldKind.isWordName_tag _) (hother _) _
        (Skips.of_not_mem entry.body.plain)
  | choosing selector =>
      exact skips_element hnames (FieldKind.isWordName_tag _) (hother _) _
        (selector.skips_inside hnames (hother _))

/-- A printed input yields what it says about its field. -/
theorem yields (input : Input) :
    Yields Parameter.tags Parameter.taken input.text [input.parameter] := by
  cases input with
  | plain entry =>
      have hinside : Balanced entry.kind.tag entry.body.text :=
        Balanced.of_skips (Skips.of_not_mem entry.body.plain)
      have hyields := yields_element Parameter.isWordName_tags
        (FieldKind.tag_mem_tags entry.kind) entry.attributes hinside taken_moved
      rwa [entry.taken_eq] at hyields
  | choosing selector =>
      have hinside : Balanced FieldKind.select.tag selector.inside :=
        Balanced.of_skips (selector.skips_inside (by decide) (by decide))
      have hyields := yields_element Parameter.isWordName_tags
        (FieldKind.tag_mem_tags .select) selector.attributes hinside taken_moved
      rwa [selector.taken_eq] at hyields

end Input

end Document

end FormFill

import FormFill.Proofs.Form.Filling
import FormFill.Proofs.Markup.Spans

/-!
# Surfaced elements

An element that is no selector makes a field if it has a code and the opening of a marker stands in its
body, whether or not a marker is opened by it. The alias of the field takes more than that: the body has a
marker, and the key of the first one is not empty.
-/

namespace FormFill

namespace Parameter

theorem exists_kind_of_mem_all {text : Text} {element : Element}
    (hmem : element ∈ Element.all tags text) : ∃ kind : FieldKind, element.tag = kind.tag := by
  rw [Element.all_eq_allFrom (by decide)] at hmem
  have htag := (Element.isSpelled_of_mem_allFrom text 0 text rfl element hmem).tag_mem
  obtain ⟨kind, -, hkind⟩ := List.mem_map.mp htag
  exact ⟨kind, hkind.symm⟩

/-- When an element makes a parameter that is no selector. -/
theorem isSome_ofElement?_iff {element : Element} {kind : FieldKind} (htag : element.tag = kind.tag)
    (hkind : kind ≠ .select) : (ofElement? element).isSome = true ↔
      element.selfClosing = false ∧ (Attribute.read? "Code" element.attributes).isSome = true ∧
        ∃ operation, Marker.opening operation <:+: element.body := by
  have hfound : FieldKind.ofTag? element.tag = some kind := by rw [htag, FieldKind.ofTag?_tag]
  rw [← Marker.occursIn_iff, ofElement?, hfound]
  cases element.selfClosing with
  | true => simp
  | false =>
      by_cases hopening : Marker.occursIn element.body = true
      · simp [hopening, hkind]
      · simp [hopening, hkind]

/-- What a field has from its element, and when it has an alias. -/
structure Surfaces (aliases : Table Text) (element : Element) (field : Field) : Prop where
  opened : element.selfClosing = false
  tag_eq : element.tag = field.kind.tag
  name_eq : field.name = (Attribute.read? "Name" element.attributes).getD defaultFieldName
  pattern_eq : field.pattern = Attribute.read? "RegEx" element.attributes
  errorText_eq : field.errorText = Attribute.read? "ErrorText" element.attributes
  code : field.kind ≠ .select → ∃ raw number,
    Attribute.read? "Code" element.attributes = some raw ∧ field.code = Ledger.candidate raw number
  /-- The first marker of the body decides on the alias. -/
  aliased : field.kind ≠ .select → ((aliases.get? field.code).isSome = true ↔
    ∃ marker rest, Marker.all element.body = marker :: rest ∧ marker.key ≠ [])

theorem surfaces_of_mem_issues {issues : List Issue} (hnodup : (issues.map Issue.code).Nodup)
    {issue : Issue} (hmem : issue ∈ issues) {element : Element}
    (helement : ofElement? element = some issue.parameter) (dictionary : Dictionary) :
    Surfaces (issues.filterMap Issue.alias?) element
      (issue.parameter.field dictionary issue.code) := by
  obtain ⟨hopened, htag, hname, hpattern, herror⟩ := of_ofElement? helement
  refine ⟨hopened, htag, hname, hpattern, herror, fun hkind => ?_, fun hkind => ?_⟩
  · exact ⟨_, issue.number, (code_and_key_of_ofElement? helement hkind).1, rfl⟩
  · have hkey := (code_and_key_of_ofElement? helement hkind).2
    rw [field_code, Issue.get?_filterMap hnodup hmem, Issue.alias?, Option.isSome_map,
      Option.isSome_map, hkey, Marker.isSome_firstKey?_iff]

/-- The fields of a text come from the elements that make parameters. An open element that is no selector
is among them exactly if it has a code and the opening of a marker stands in its body, so every marker in
its body surfaces it. -/
theorem extract_surfaces (dictionary : Dictionary) (text : Text) :
    (∀ element ∈ Element.all tags text, element.selfClosing = false →
      element.tag ≠ FieldKind.select.tag →
        (element ∈ elements text ↔ (Attribute.read? "Code" element.attributes).isSome = true ∧
          ∃ operation, Marker.opening operation <:+: element.body) ∧
        ((Attribute.read? "Code" element.attributes).isSome = true →
          Marker.all element.body ≠ [] → element ∈ elements text)) ∧
    List.Forall₂ (Surfaces (extract dictionary text {}).2.aliases) (elements text)
      (extract dictionary text {}).1 := by
  constructor
  · intro element hmem hopened htag
    obtain ⟨kind, hkind⟩ := exists_kind_of_mem_all hmem
    have hselect : kind ≠ .select := by
      rintro rfl
      exact htag hkind
    have hiff : element ∈ elements text ↔ (Attribute.read? "Code" element.attributes).isSome = true ∧
        ∃ operation, Marker.opening operation <:+: element.body := by
      rw [elements, List.mem_filter, isSome_ofElement?_iff hkind hselect]
      simp [hmem, hopened]
    refine ⟨hiff, fun hcode hmarkers => hiff.mpr ⟨hcode, ?_⟩⟩
    obtain ⟨marker, hmarker⟩ := List.exists_mem_of_ne_nil _ hmarkers
    rw [← Marker.occursIn_iff]
    exact Marker.occursIn_of_within (Marker.mem_all_iff.mp hmarker).2
  · obtain ⟨hparameters, hnodup, hfields, haliases⟩ := extract_eq dictionary text
    have helements := elements_all text
    rw [← hparameters, List.forall₂_map_right_iff] at helements
    rw [hfields, haliases, List.forall₂_map_right_iff]
    refine List.forall₂_iff_zip.mpr ⟨helements.length_eq, ?_⟩
    intro element issue hzip
    exact surfaces_of_mem_issues hnodup (List.of_mem_zip hzip).2
      (List.forall₂_zip helements hzip) dictionary

/-- An opening that is never closed surfaces its element, and the field has no alias. -/
theorem not_forall_surfaced_iff_keyed :
    (¬ ∀ text, ∀ element ∈ Element.all tags text, element.selfClosing = false →
      element.tag ≠ FieldKind.select.tag →
        (element ∈ elements text ↔ (Attribute.read? "Code" element.attributes).isSome = true ∧
          ∃ marker ∈ Marker.all element.body, marker.key ≠ [])) ∧
    ¬ ∀ text, ∀ field ∈ (extract [] text {}).1, field.kind ≠ .select →
      ((extract [] text {}).2.aliases.get? field.code).isSome = true := by
  let text : Text := "<Param Code=\"A\">\x7b?External(</Param>".toList
  have hfacts : (∃ element ∈ Element.all tags text, element.selfClosing = false ∧
        element.tag ≠ FieldKind.select.tag ∧ element ∈ elements text ∧
        Marker.all element.body = []) ∧
      ∃ field ∈ (extract [] text {}).1, field.kind ≠ .select ∧
        (extract [] text {}).2.aliases.get? field.code = none := by
    decide +kernel
  obtain ⟨⟨element, hmem, hopened, htag, hsurfaced, hmarkers⟩, field, hfield, hkind, hnone⟩ := hfacts
  constructor
  · intro h
    obtain ⟨-, marker, hmarker, -⟩ := (h text element hmem hopened htag).mp hsurfaced
    rw [hmarkers] at hmarker
    cases hmarker
  · intro h
    have halias := h text field hfield hkind
    rw [hnone] at halias
    cases halias

end Parameter

end FormFill

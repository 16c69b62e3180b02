import FormFill.Proofs.Form.Filling
import FormFill.Proofs.Form.Markers
import FormFill.Proofs.Markup.Attribute

/-!
# Selectors and the markers of the text

A selector takes its key from an attribute, where the key goes on up to the first end of a marker in front
of a quote. The search for markers is stricter, for it lets neither an opening nor an end stand inside a
key. So the alias of a selector need not be the key of a marker, and then no substitution reaches it.
-/

namespace FormFill

namespace Parameter

/-- The attributes from which a selector takes its key. -/
def keyAttributes : List Text := ["Code", "CodeSelected"]

/-- A key that fills one of these attributes in a text, up to the first end of a marker in front of a
quote. -/
structure IsTaken (text key : Text) : Prop where
  ne_nil : key ≠ []
  oneLine : '\n' ∉ key
  unended : ¬Marker.closing ++ ['"'] <:+: key
  stands : ∃ name ∈ keyAttributes, ∃ operation,
    Attribute.opening name ++ (Marker.opening operation ++ (key ++ (Marker.closing ++ ['"']))) <:+: text

variable {text key : Text}

theorem IsTaken.of_within {whole : Text} (h : IsTaken text key) (hwithin : text <:+: whole) :
    IsTaken whole key := by
  obtain ⟨name, hname, operation, hstands⟩ := h.stands
  exact ⟨h.ne_nil, h.oneLine, h.unended, name, hname, operation, hstands.trans hwithin⟩

theorem isTaken_of_filling? {name rest : Text} (hname : name ∈ keyAttributes) (hne : key ≠ [])
    (hwithin : Attribute.opening name ++ rest <:+: text) (h : Attribute.filling? rest = some key) :
    IsTaken text key := by
  obtain ⟨operation, after, rfl, hline, hfree⟩ := Attribute.filling?_eq_some_iff.mp h
  refine ⟨hne, hline, hfree, name, hname, operation, List.IsInfix.trans ?_ hwithin⟩
  refine List.IsPrefix.isInfix ⟨after, ?_⟩
  simp only [List.append_assoc]

/-- A key that has been taken is the key of a marker of the text if neither an opening nor an end of a
marker stands in it, and only then. -/
theorem IsTaken.mem_keys_iff (h : IsTaken text key) :
    key ∈ Marker.keys text ↔ ¬Marker.mark <:+: key ∧ ¬Marker.closing <:+: key := by
  constructor
  · intro hmem
    obtain ⟨marker, hmarker, rfl⟩ := List.mem_map.mp hmem
    have hkey := (Marker.mem_all_iff.mp hmarker).1
    exact ⟨hkey.noMark, hkey.noClosing⟩
  · rintro ⟨hmark, hclosing⟩
    obtain ⟨name, -, operation, hstands⟩ := h.stands
    have hmarker : Marker.text ⟨operation, key⟩ <:+: text := by
      refine List.IsInfix.trans ⟨Attribute.opening name, ['"'], ?_⟩ hstands
      simp only [Marker.text, List.append_assoc]
    have hmem := Marker.mem_all_iff.mpr ⟨⟨h.oneLine, hmark, hclosing⟩, hmarker⟩
    exact List.mem_map_of_mem hmem

theorem exists_of_firstChoiceKey? (h : firstChoiceKey? text = some key) :
    ∃ rest, Attribute.opening "Code" ++ rest <:+: text ∧ Attribute.filling? rest = some key := by
  induction text with
  | nil => cases h
  | cons c text ih =>
      rw [firstChoiceKey?] at h
      split at h
      next found hfound =>
        cases h
        obtain ⟨after, hafter, hmarker⟩ := Option.bind_eq_some_iff.mp hfound
        rw [Attribute.findMarkerInTag?_eq_search] at hmarker
        obtain ⟨rest, hwithin, hfilling⟩ := Attribute.exists_of_search hmarker
        refine ⟨rest, hwithin.trans ?_, hfilling⟩
        rw [Text.after?_eq_some_iff.mp hafter]
        exact (List.suffix_append _ _).isInfix
      next =>
        obtain ⟨rest, hwithin, hfilling⟩ := ih h
        exact ⟨rest, hwithin.trans (List.suffix_cons c text).isInfix, hfilling⟩

/-- The key of a selector is taken from its body or from its own attributes. -/
theorem isTaken_of_selectorKey? {element : Element} (h : selectorKey? element = some key) :
    IsTaken element.body key ∨ IsTaken element.attributes key := by
  rw [selectorKey?, Option.or_eq_some_iff] at h
  rcases h with hchoice | ⟨-, hown⟩
  · obtain ⟨hfound, hne⟩ := Option.filter_eq_some_iff.mp hchoice
    obtain ⟨rest, hwithin, hfilling⟩ := exists_of_firstChoiceKey? hfound
    exact Or.inl (isTaken_of_filling? (by decide) (by simpa using hne) hwithin hfilling)
  · obtain ⟨hfound, hne⟩ := Option.filter_eq_some_iff.mp hown
    rw [selectedKey?, Attribute.findMarker?_eq_search] at hfound
    obtain ⟨rest, hwithin, hfilling⟩ := Attribute.exists_of_search hfound
    exact Or.inr (isTaken_of_filling? (by decide) (by simpa using hne) hwithin hfilling)

theorem markerKey_of_ofElement? {element : Element} {parameter : Parameter}
    (h : ofElement? element = some parameter) (hkind : parameter.kind = .select) :
    parameter.markerKey = selectorKey? element := by
  cases hfound : FieldKind.ofTag? element.tag with
  | none =>
      rw [ofElement?, hfound] at h
      cases h
  | some kind =>
      simp only [ofElement?, hfound, Option.ite_none_left_eq_some, Option.map_eq_some_iff] at h
      obtain ⟨-, rawCode, -, rfl⟩ := h
      exact if_pos hkind

/-- The key of a selector is taken from the text of its element. -/
theorem IsPiece.isTaken {parameter : Parameter} {piece : Text} (h : parameter.IsPiece piece)
    (hkind : parameter.kind = .select) (hkey : parameter.markerKey = some key) : IsTaken piece key := by
  obtain ⟨element, hall, -, -, hparameter⟩ := h
  have hmem : element ∈ Element.all tags piece := by rw [hall]; exact List.mem_singleton_self _
  obtain ⟨front, part, back, rfl, -, hpart⟩ :=
    Element.exists_of_mem_all isWordName_tags (by decide) hmem
  obtain ⟨later, rfl⟩ := hpart.opened (of_ofElement? hparameter).1
  rw [markerKey_of_ofElement? hparameter hkind] at hkey
  rcases isTaken_of_selectorKey? hkey with hbody | hattributes
  · refine hbody.of_within ⟨front ++ (Element.openingTag element.tag element.attributes).text,
      later ++ back, ?_⟩
    simp only [List.append_assoc]
  · refine hattributes.of_within ⟨front ++ ('<' :: element.tag), '>' :: (element.body ++ later ++ back),
      ?_⟩
    simp [Tag.text, Element.openingTag]

/-- Every field of a text is made by its issue. If it is a selector that was the first with its raw code
and has an alias, then the alias has been taken from an attribute, and it is the key of a marker of the
text exactly if it holds neither an opening nor an end of a marker. In this case, and in no other,
substitutions reach it. -/
theorem selectors_reach_iff (dictionary : Dictionary) (text : Text) :
    List.Forall₂ (fun issue field =>
        field.code = Ledger.candidate issue.parameter.rawCode issue.number ∧
        field.kind = issue.parameter.kind ∧
        (field.kind = .select → issue.number = 1 → ∀ key,
          (extract dictionary text {}).2.aliases.get? field.code = some key →
          IsTaken text key ∧
          (key ∈ Marker.keys text ↔ ¬Marker.mark <:+: key ∧ ¬Marker.closing <:+: key) ∧
          (Substitution.Reaches text (extract dictionary text {}).2.aliases field.code key ↔
            key ∈ Marker.keys text)))
      (issues dictionary (all text) {}) (extract dictionary text {}).1 := by
  obtain ⟨hparameters, hnodup, hfields, haliases⟩ := extract_eq dictionary text
  rw [hfields, List.forall₂_map_right_iff, List.forall₂_same]
  intro issue hissue
  refine ⟨rfl, rfl, fun hkind hnumber key halias => ?_⟩
  change Table.get? issue.code _ = some key at halias
  have hentry := Table.mem_of_get?_eq_some halias
  rw [haliases] at halias
  have hmarked := Issue.markerKey_of_get? hnodup hissue hnumber halias
  have hleaf : issue.parameter ∈ all text := by
    rw [← hparameters]
    exact List.mem_map_of_mem hissue
  obtain ⟨piece, hwithin, hpiece⟩ := (sourced_all text).exists_isPiece hleaf
  have htaken := (hpiece.isTaken hkind hmarked).of_within hwithin
  exact ⟨htaken, htaken.mem_keys_iff, Substitution.Reaches.mem_keys,
    fun hmem => Substitution.reaches hmem hentry⟩

/-- A broken opening in front of the marker of a choice becomes a part of the alias. -/
theorem not_forall_selectors_reach : ¬ ∀ (dictionary : Dictionary) (text : Text),
    List.Forall₂ (fun issue field => field.kind = .select → issue.number = 1 → ∀ key,
        (extract dictionary text {}).2.aliases.get? field.code = some key → key ∈ Marker.keys text)
      (issues dictionary (all text) {}) (extract dictionary text {}).1 := by
  intro h
  let text : Text := ("<ParamSelect Code=\"S\"><Param Code=\"\x7b?External(\x7b?External(K)?\x7d\"/>" ++
    "</ParamSelect>").toList
  let key : Text := "\x7b?External(K".toList
  have hfacts : (∃ h : 0 < (extract [] text {}).1.length,
        ((extract [] text {}).1.get ⟨0, h⟩).kind = .select ∧
        (extract [] text {}).2.aliases.get? ((extract [] text {}).1.get ⟨0, h⟩).code = some key) ∧
      (∃ h : 0 < (issues [] (all text) {}).length, ((issues [] (all text) {}).get ⟨0, h⟩).number = 1) ∧
      key ∉ Marker.keys text := by
    decide +kernel
  obtain ⟨⟨hfield, hkind, halias⟩, ⟨hissue, hnumber⟩, hkey⟩ := hfacts
  exact hkey ((h [] text).get (i := 0) hissue hfield hkind hnumber key halias)

end Parameter

end FormFill

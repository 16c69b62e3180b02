import FormFill.Proofs.Form.Source
import FormFill.Proofs.Substitution.Exact

/-!
# Fields and the markers of the template

The key that a field takes from its element is the key of a marker of the whole template, whatever the
template holds around the element. A field that keeps its raw code has this key as its alias, so a
substitution replaces every marker with the key, all of them by one text. This text is the value of the
field unless a field before it has the same alias.
-/

namespace FormFill

namespace Parameter

variable {parameter : Parameter} {piece key : Text}

/-- The key of a parameter that is no selector is the key of a marker inside its element. -/
theorem IsPiece.mem_keys (h : parameter.IsPiece piece) (hkind : parameter.kind ≠ .select)
    (hmarker : parameter.markerKey = some key) : key ∈ Marker.keys piece := by
  obtain ⟨element, hall, -, -, hparameter⟩ := h
  have hmem : element ∈ Element.all tags piece := by rw [hall]; exact List.mem_singleton_self _
  obtain ⟨front, part, back, rfl, -, hpart⟩ :=
    Element.exists_of_mem_all isWordName_tags (by decide) hmem
  obtain ⟨-, hfirst⟩ := code_and_key_of_ofElement? hparameter hkind
  have hbody : key ∈ Marker.keys element.body :=
    Marker.mem_keys_of_firstKey? (hfirst.symm.trans hmarker)
  exact Marker.keys_subset_of_within (hpart.body_within.trans ⟨front, back, rfl⟩) hbody

end Parameter

/-- The parameter of every issue of a form has its element in the template. -/
theorem Form.exists_isPiece_of_mem_issues {template dictionary : Text} {excluded roles : List Text}
    {issue : Issue} (hmem : issue ∈ issues template dictionary excluded roles) :
    ∃ piece, piece <:+: template ∧ issue.parameter.IsPiece piece := by
  obtain ⟨hparameters, -⟩ := extract_eq template dictionary excluded roles
  have hleaf : issue.parameter ∈
      Block.leaves (Block.retained excluded (Block.all roles template)) := by
    rw [← hparameters]
    exact List.mem_map_of_mem hmem
  exact (Block.sourced_retained template excluded roles).exists_isPiece hleaf

namespace Substitution

/-- What substitutions with an alias map do to the markers whose key is the alias of a code. -/
structure Reaches (template : Text) (aliases : Table Text) (code key : Text) : Prop where
  /-- The template has a marker with the key. -/
  mem_keys : key ∈ Marker.keys template
  /-- A marker with the key is replaced, whatever the values are. -/
  replaced : ∀ values : Values, ∃ entry ∈ (run template aliases values).report.entries,
    entry.marker.key = key ∧ entry.isReplaced = true
  /-- Every marker with the key is replaced by one text, wherever it stands. -/
  uniform : ∀ values : Values, ∃ source newText : Text,
    (∀ start stop marker, Marker.IsSpan template start stop marker → marker.key = key →
      ⟨marker, start, .replaced source newText⟩ ∈ (run template aliases values).report.entries) ∧
    (∀ before marker after, template = before ++ Marker.text marker ++ after →
      Marker.IsKey marker.key → marker.key = key →
      fill template aliases values =
        fill before aliases values ++ newText ++ fill after aliases values) ∧
    /- It is the value of the code unless an entry before that of the code has the same alias. -/
    ∀ earlier later, aliases = earlier ++ (code, key) :: later →
      (∀ other ∈ earlier, other.2 ≠ key) →
      source = code ∧ newText = (values.valueOf? code).getD []

variable {template : Text} {aliases : Table Text} {code key : Text}

/-- An alias that is the key of a marker of the template reaches it. -/
theorem reaches (hkey : key ∈ Marker.keys template) (halias : (code, key) ∈ aliases) :
    Reaches template aliases code key := by
  -- The first code with the alias decides, for all markers with this key alike.
  obtain ⟨source, hsource⟩ : ∃ source, codeOf? aliases key = some source := by
    rw [← Option.isSome_iff_exists, ← Option.ne_none_iff_isSome, Ne, codeOf?_eq_none_iff, not_not]
    exact List.mem_map_of_mem halias
  have houtcome : ∀ (values : Values) (marker : Marker), marker.key = key →
      outcome aliases values marker = .replaced source ((values.valueOf? source).getD []) := by
    intro values marker hmarker
    rw [outcome, hmarker, hsource]
  obtain ⟨marker, hmarker, hmarkerKey⟩ := List.mem_map.mp hkey
  obtain ⟨hadmissible, before, after, htemplate⟩ := Marker.mem_all_iff.mp hmarker
  refine ⟨hkey, fun values => ?_, fun values => ?_⟩
  · have hspan : Marker.IsSpan template before.length (before.length + marker.text.length) marker :=
      Marker.isSpan_iff.mpr ⟨before, after, htemplate.symm, hadmissible, rfl, rfl⟩
    obtain ⟨entry, hentry, -, -, rfl⟩ := (@exists_entry_iff aliases values ..).mp hspan
    refine ⟨entry, hentry, hmarkerKey, ?_⟩
    rw [Entry.isReplaced, (mem_entries_run_iff.mp hentry).2, houtcome values _ hmarkerKey]
  · refine ⟨source, (values.valueOf? source).getD [], ?_, ?_, ?_⟩
    · intro start stop found hspan hfound
      obtain ⟨entry, hentry, rfl, -, rfl⟩ := (@exists_entry_iff aliases values ..).mp hspan
      have hresult := (mem_entries_run_iff.mp hentry).2
      rw [houtcome values _ hfound] at hresult
      rw [← hresult]
      exact hentry
    · intro front found back htext hfoundKey hfound
      rw [htext, fill_append_marker hfoundKey, pieceText, houtcome values _ hfound]
    · intro earlier later haliases hearlier
      rw [haliases, codeOf?_append hearlier] at hsource
      obtain rfl : code = source := Option.some.inj hsource
      exact ⟨rfl, rfl⟩

end Substitution

/-- Every field of a form is made by its issue. If it is no selector, if it was the first with its raw
code and if it has an alias, then the template has a marker with this key, and every substitution
replaces the markers with the key by one text, which is the value of the field unless an earlier field
has the same alias. -/
theorem Form.fields_reach_markers (template dictionary : Text) (excluded roles : List Text) :
    List.Forall₂ (fun issue field =>
        field.code = Ledger.candidate issue.parameter.rawCode issue.number ∧
        field.kind = issue.parameter.kind ∧
        (field.kind ≠ .select → issue.number = 1 → ∀ key,
          (extract template dictionary excluded roles).aliases.get? field.code = some key →
          Substitution.Reaches template (extract template dictionary excluded roles).aliases
            field.code key))
      (issues template dictionary excluded roles)
      (fieldsOf (extract template dictionary excluded roles).nodes) := by
  obtain ⟨-, hnodup, hfields, haliases⟩ := extract_eq template dictionary excluded roles
  rw [hfields, List.forall₂_map_right_iff, List.forall₂_same]
  intro issue hissue
  refine ⟨rfl, rfl, fun hkind hnumber key halias => ?_⟩
  change Table.get? issue.code _ = some key at halias
  have hentry := Table.mem_of_get?_eq_some halias
  rw [haliases, Issue.get?_filterMap hnodup hissue, Issue.alias?, Option.map_map] at halias
  obtain ⟨marked, hmarked, hkey⟩ := Option.map_eq_some_iff.mp halias
  -- The first field with a raw code has no suffix, so its alias is the key as it stands in the text.
  have hsuffix : Ledger.suffix issue.number = [] := by rw [hnumber]; rfl
  obtain rfl : marked = key := by
    rw [← hkey, Function.comp, hsuffix, List.append_nil]
  obtain ⟨piece, hwithin, hpiece⟩ := exists_isPiece_of_mem_issues hissue
  have hmem := Marker.keys_subset_of_within hwithin (hpiece.mem_keys hkind hmarked)
  exact Substitution.reaches hmem hentry

/-- A broken opening before the element does not hide its marker, and a later field with the same raw
code has another alias. -/
theorem Form.fields_reach_markers_after_opening :
    let template : Text := ("<Form Code=\"Act\"><Simple Code=\"B\"><Section>\x7b?Editor(" ++
      "<Param Code=\"C\">\x7b?External(K)?\x7d</Param>" ++
      "<ParamMemo Code=\"C\">\x7b?External(K)?\x7d</ParamMemo>" ++
      "</Section></Simple></Form>").toList
    let aliases := (extract template [] [] defaultRoles).aliases
    aliases = [("C".toList, "K".toList), ("C_2".toList, "K_2".toList)] ∧
      Substitution.Reaches template aliases "C".toList "K".toList := by
  intro template aliases
  let fields := fieldsOf (extract template [] [] defaultRoles).nodes
  let found := issues template [] [] defaultRoles
  have hfacts : aliases = [("C".toList, "K".toList), ("C_2".toList, "K_2".toList)] ∧
      (∃ h : 0 < fields.length,
        (fields.get ⟨0, h⟩).code = "C".toList ∧ (fields.get ⟨0, h⟩).kind ≠ .select) ∧
      ∃ h : 0 < found.length, (found.get ⟨0, h⟩).number = 1 := by
    decide +kernel
  obtain ⟨haliases, ⟨hlength, hcode, hkind⟩, hfound, hnumber⟩ := hfacts
  refine ⟨haliases, ?_⟩
  obtain ⟨-, -, hfirst⟩ :=
    (fields_reach_markers template [] [] defaultRoles).get (i := 0) hfound hlength
  have hreach := hfirst hkind hnumber "K".toList
  rw [List.get_eq_getElem] at hreach hcode
  rw [hcode] at hreach
  refine hreach ?_
  change aliases.get? _ = _
  rw [haliases]
  rfl

end FormFill

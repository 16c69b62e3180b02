import FormFill.Proofs.Form.Source
import FormFill.Proofs.Substitution.Exact

/-!
# Filling what has been extracted

A text whose parameters each have a marker key of their own is filled with the aliases that its
extraction has recorded. The first marker of an element gets the value of the element's own field if the
field kept its raw code and no field before it has the key as its alias. Fields that share a raw code
get suffixed aliases, so only distinct raw codes make sure that every marker gets its own value.
-/

namespace FormFill

namespace Parameter

/-- The elements of a text that make parameters, in order. -/
def elements (text : Text) : List Element :=
  (Element.all tags text).filter fun element => (ofElement? element).isSome

/-- The elements that make parameters and the parameters that they make come in one order. -/
theorem elements_all (text : Text) :
    List.Forall₂ (fun element parameter => ofElement? element = some parameter) (elements text)
      (all text) := by
  rw [elements, all]
  induction Element.all tags text with
  | nil => exact List.Forall₂.nil
  | cons element rest ih =>
      cases hparameter : ofElement? element with
      | none => simpa [hparameter] using ih
      | some parameter =>
          rw [List.filter_cons_of_pos (by simp [hparameter]),
            List.filterMap_cons_some hparameter]
          exact List.Forall₂.cons hparameter ih

/-- Texts without selectors whose parameters have marker keys, no two of them the same. -/
structure Distinct (text : Text) : Prop where
  kinds : ∀ parameter ∈ all text, parameter.kind ≠ .select
  keyed : ∀ parameter ∈ all text, parameter.markerKey.isSome = true
  keys_nodup : ((all text).map (·.markerKey)).Nodup

instance : DecidablePred Distinct := fun text =>
  decidable_of_iff ((∀ parameter ∈ all text,
      parameter.kind ≠ .select ∧ parameter.markerKey.isSome = true) ∧
    ((all text).map (·.markerKey)).Nodup)
    ⟨fun h => ⟨fun _ hmem => (h.1 _ hmem).1, fun _ hmem => (h.1 _ hmem).2, h.2⟩,
      fun h => ⟨fun _ hmem => ⟨h.kinds _ hmem, h.keyed _ hmem⟩, h.keys_nodup⟩⟩

end Parameter

/-- A marker of a text is the first one inside an element of the text. -/
structure Element.FirstMarker (text : Text) (element : Element) (before : Text) (marker : Marker)
    (after : Text) : Prop where
  text_eq : text = before ++ marker.text ++ after
  isKey : Marker.IsKey marker.key
  /-- Between the opening tag and the marker stands no other marker. -/
  inside : ∃ front inner rest,
    element.start = front.length ∧ element.body = inner ++ marker.text ++ rest ∧
    before = front ++ (openingTag element.tag element.attributes).text ++ inner ∧
    rest <+: after ∧ Marker.all inner = []

/-- An element whose body has a first key has a first marker with this key. -/
theorem Element.exists_firstMarker {text key : Text} {element : Element}
    (hmem : element ∈ Element.all Parameter.tags text) (hopen : element.selfClosing = false)
    (hkey : Marker.firstKey? element.body = some key) :
    ∃ before marker after, FirstMarker text element before marker after ∧ marker.key = key := by
  obtain ⟨front, piece, back, rfl, hstart, hpiece⟩ :=
    exists_of_mem_all Parameter.isWordName_tags (by decide) hmem
  obtain ⟨later, rfl⟩ := hpiece.opened hopen
  unfold Marker.firstKey? at hkey
  split at hkey
  · cases hkey
  next marker others hall =>
    simp only [Option.ite_none_left_eq_some, Option.some.injEq] at hkey
    obtain ⟨hadmissible, inner, rest, hbody, hinner⟩ := Marker.exists_of_all_cons hall
    refine ⟨front ++ (openingTag element.tag element.attributes).text ++ inner, marker,
      rest ++ later ++ back, ⟨?_, hadmissible, front, inner, rest, hstart, hbody, rfl, ?_, hinner⟩,
      hkey.2⟩
    · rw [hbody]
      simp only [List.append_assoc]
    · rw [List.append_assoc]
      exact List.prefix_append rest _

namespace Substitution

/-- A marker of a text is reported as replaced by the value of a code, and this value stands in the
filled text in place of the marker. -/
structure FilledBy (aliases : Table Text) (values : Values) (before : Text) (marker : Marker)
    (after code : Text) : Prop where
  reported : ⟨marker, before.length, .replaced code ((values.valueOf? code).getD [])⟩ ∈
    (run (before ++ marker.text ++ after) aliases values).report.entries
  text_eq : fill (before ++ marker.text ++ after) aliases values =
    fill before aliases values ++ (values.valueOf? code).getD [] ++ fill after aliases values

/-- A marker is filled by the code that counts for its key and by no other. -/
theorem filledBy_iff {aliases : Table Text} {values : Values} {before after code : Text}
    {marker : Marker} (hkey : Marker.IsKey marker.key) :
    FilledBy aliases values before marker after code ↔ codeOf? aliases marker.key = some code := by
  constructor
  · intro hfilled
    have houtcome := (mem_entries_run_iff.mp hfilled.reported).2
    rw [outcome] at houtcome
    cases hcode : codeOf? aliases marker.key with
    | none =>
        rw [hcode] at houtcome
        cases houtcome
    | some source =>
        rw [hcode] at houtcome
        simp only [Outcome.replaced.injEq] at houtcome
        rw [houtcome.1]
  · intro hcode
    have houtcome : outcome aliases values marker =
        .replaced code ((values.valueOf? code).getD []) := by
      rw [outcome, hcode]
    constructor
    · rw [mem_entries_run_iff]
      exact ⟨Marker.isSpan_iff.mpr ⟨before, after, rfl, hkey, rfl, rfl⟩, houtcome.symm⟩
    · rw [fill_append_marker hkey, pieceText, houtcome]

end Substitution

namespace Parameter

/-- After the extraction of a text, filling it puts the value of each field in place of the first
marker inside the field's own element. -/
def FillsOwn (dictionary : Dictionary) (text : Text) (values : Values) : Prop :=
  List.Forall₂ (fun element field => ∃ before marker after,
      element.FirstMarker text before marker after ∧
      Substitution.FilledBy (extract dictionary text {}).2.aliases values before marker after
        field.code)
    (elements text) (extract dictionary text {}).1

/-- The fields and the aliases of a text are those of its issues, whose codes are distinct. -/
theorem extract_eq (dictionary : Dictionary) (text : Text) :
    (issues dictionary (all text) {}).map (·.parameter) = all text ∧
      ((issues dictionary (all text) {}).map Issue.code).Nodup ∧
      (extract dictionary text {}).1 = (issues dictionary (all text) {}).map
        (fun issue => issue.parameter.field dictionary issue.code) ∧
      (extract dictionary text {}).2.aliases =
        (issues dictionary (all text) {}).filterMap Issue.alias? := by
  obtain ⟨hparameters, -, -, hnodup, hfields, haliases⟩ :=
    enterAll_eq dictionary (all text) {} (by simp [Table.keys])
  exact ⟨hparameters, hnodup, hfields, haliases⟩

/-- The code of an issue counts for its key if the issue kept its raw code and no entry before its own
has the key as its alias. -/
theorem codeOf?_eq_some_iff_of_mem_issues {issues : List Issue} {issue : Issue} {key : Text}
    (hnodup : (issues.map Issue.code).Nodup) (hmem : issue ∈ issues)
    (hkey : issue.parameter.markerKey = some key) :
    Substitution.codeOf? (issues.filterMap Issue.alias?) key = some issue.code ↔
      issue.number = 1 ∧
        ∀ entry ∈ Table.before issue.code (issues.filterMap Issue.alias?), entry.2 ≠ key := by
  have hkeys : (Table.keys (issues.filterMap Issue.alias?)).Nodup :=
    hnodup.sublist (Issue.keys_filterMap_sublist issues)
  have hget : Table.get? issue.code (issues.filterMap Issue.alias?) =
      some (key ++ Ledger.suffix issue.number) := by
    rw [Issue.get?_filterMap hnodup hmem, Issue.alias?, hkey]
    rfl
  have hsuffix : key ++ Ledger.suffix issue.number = key ↔ issue.number = 1 :=
    Ledger.candidate_eq_raw_iff
  rw [Substitution.codeOf?_eq_some_iff_of_get? hkeys hget, hsuffix]

/-- If every issue kept its raw code, keys that are distinct are distinct aliases. -/
theorem aliases_nodup_of_kept {issues : List Issue} (hkept : ∀ issue ∈ issues, issue.number = 1)
    (hkeys : (issues.map (·.parameter.markerKey)).Nodup) :
    ((issues.filterMap Issue.alias?).map (·.2)).Nodup := by
  have haliases : (issues.filterMap Issue.alias?).map (·.2) =
      (issues.map (·.parameter.markerKey)).filterMap id := by
    rw [List.map_filterMap, List.filterMap_map]
    refine List.filterMap_congr fun issue hissue => ?_
    have hsuffix : Ledger.suffix issue.number = [] := by rw [hkept issue hissue]; rfl
    simp [Issue.alias?, hsuffix]
  rw [haliases]
  refine hkeys.filterMap ?_
  intro first second key hfirst hsecond
  exact (Option.mem_def.mp hfirst).trans (Option.mem_def.mp hsecond).symm

section Distinct

variable {text : Text}

/-- The element of every issue of a text has a first marker with the key of the issue. -/
theorem Distinct.issues_firstMarker (h : Distinct text) (dictionary : Dictionary) :
    List.Forall₂ (fun element issue => issue ∈ issues dictionary (all text) {} ∧
        Attribute.read? "Code" element.attributes = some issue.parameter.rawCode ∧
        ∃ before marker after, element.FirstMarker text before marker after ∧
          issue.parameter.markerKey = some marker.key)
      (elements text) (issues dictionary (all text) {}) := by
  obtain ⟨hparameters, -⟩ := extract_eq dictionary text
  have helements := elements_all text
  rw [← hparameters, List.forall₂_map_right_iff] at helements
  refine List.forall₂_iff_zip.mpr ⟨helements.length_eq, ?_⟩
  intro element issue hzip
  obtain ⟨helement, hissue⟩ := List.of_mem_zip hzip
  have hparameter := List.forall₂_zip helements hzip
  have hmem := (List.mem_filter.mp helement).1
  have hall : issue.parameter ∈ all text := List.mem_filterMap.mpr ⟨element, hmem, hparameter⟩
  obtain ⟨key, hkey⟩ := Option.isSome_iff_exists.mp (h.keyed _ hall)
  obtain ⟨hcode, hfirst⟩ := code_and_key_of_ofElement? hparameter (h.kinds _ hall)
  obtain ⟨before, marker, after, hmarker, rfl⟩ := Element.exists_firstMarker hmem
    (of_ofElement? hparameter).1 (hfirst.symm.trans hkey)
  exact ⟨hissue, hcode, before, marker, after, hmarker, hkey⟩

/-- If the raw codes of a text are distinct, every first marker is filled by its own field. -/
theorem fillsOwn_of_rawCodes_nodup (h : Distinct text)
    (hcodes : ((all text).map (·.rawCode)).Nodup) (dictionary : Dictionary) (values : Values) :
    FillsOwn dictionary text values := by
  obtain ⟨hparameters, hnodup, hfields, haliases⟩ := extract_eq dictionary text
  have hkept : ∀ issue ∈ issues dictionary (all text) {}, issue.number = 1 :=
    number_eq_one_of_mem_issues hcodes (by simp [Table.get?])
  have hkeys := h.keys_nodup
  rw [← hparameters, List.map_map] at hkeys
  rw [FillsOwn, hfields, haliases, List.forall₂_map_right_iff]
  refine (h.issues_firstMarker dictionary).imp ?_
  rintro element issue ⟨hissue, -, before, marker, after, hmarker, hkey⟩
  refine ⟨before, marker, after, hmarker, (Substitution.filledBy_iff hmarker.isKey).mpr ?_⟩
  -- The issue kept its raw code, so its alias is the key as it stands in the marker.
  have hsuffix : Ledger.suffix issue.number = [] := by rw [hkept issue hissue]; rfl
  have halias : issue.alias? = some (issue.code, marker.key) := by
    rw [Issue.alias?, hkey, hsuffix, Option.map_some, List.append_nil]
  rw [Substitution.codeOf?_eq_some_iff (aliases_nodup_of_kept hkept hkeys)]
  exact List.mem_filterMap.mpr ⟨issue, hissue, halias⟩

/-- The first marker of an element is filled by the element's own field if the field kept the `Code` of
the element and no alias before that of the field is the key of the marker, and only then. If all
elements have distinct codes, every first marker is filled by its own field. -/
theorem filledBy_own_iff (h : Distinct text) (dictionary : Dictionary) (values : Values) :
    List.Forall₂ (fun element field => ∃ before marker after,
        element.FirstMarker text before marker after ∧
        (Substitution.FilledBy (extract dictionary text {}).2.aliases values before marker after
            field.code ↔
          Attribute.read? "Code" element.attributes = some field.code ∧
            ∀ entry ∈ (extract dictionary text {}).2.aliases.before field.code,
              entry.2 ≠ marker.key))
      (elements text) (extract dictionary text {}).1 ∧
    (((all text).map (·.rawCode)).Nodup → FillsOwn dictionary text values) := by
  obtain ⟨-, hnodup, hfields, haliases⟩ := extract_eq dictionary text
  refine ⟨?_, fun hcodes => fillsOwn_of_rawCodes_nodup h hcodes dictionary values⟩
  rw [hfields, haliases, List.forall₂_map_right_iff]
  refine (h.issues_firstMarker dictionary).imp ?_
  rintro element issue ⟨hissue, hcode, before, marker, after, hmarker, hkey⟩
  refine ⟨before, marker, after, hmarker, ?_⟩
  have hkept : some issue.parameter.rawCode = some issue.code ↔ issue.number = 1 := by
    rw [Option.some.injEq, eq_comm]
    exact Ledger.candidate_eq_raw_iff
  dsimp only [field_code]
  rw [Substitution.filledBy_iff hmarker.isKey, codeOf?_eq_some_iff_of_mem_issues hnodup hissue hkey,
    hcode, hkept]

end Distinct

/-- Two elements with a code of their own each. -/
theorem filledBy_own_of_two_codes :
    let text : Text := ("<Param Code=\"A\">\x7b?External(K)?\x7d</Param>, " ++
      "<ParamDate Code=\"B\">on \x7b?Editor(L)?\x7d</ParamDate>").toList
    let values : Values := [("B".toList, some "1 May".toList), ("A".toList, none)]
    Distinct text ∧ ((all text).map (·.rawCode)).Nodup ∧ FillsOwn [] text values ∧
      Substitution.fill text (extract [] text {}).2.aliases values =
        "<Param Code=\"A\"></Param>, <ParamDate Code=\"B\">on 1 May</ParamDate>".toList := by
  intro text values
  have hfacts : Distinct text ∧ ((all text).map (·.rawCode)).Nodup ∧
      Substitution.fill text (extract [] text {}).2.aliases values =
        "<Param Code=\"A\"></Param>, <ParamDate Code=\"B\">on 1 May</ParamDate>".toList := by
    decide +kernel
  obtain ⟨hdistinct, hcodes, hfill⟩ := hfacts
  exact ⟨hdistinct, hcodes, (filledBy_own_iff hdistinct [] values).2 hcodes, hfill⟩

/-- Two elements with one code: the second field has a suffixed alias, which is no key of the text, so
the marker of its element stays as it is. -/
theorem not_fillsOwn_of_repeated_code :
    let text : Text := ("<Param Code=\"A\">\x7b?External(K)?\x7d</Param>" ++
      "<Param Code=\"A\">\x7b?External(L)?\x7d</Param>").toList
    let values : Values := [("A".toList, some "1".toList), ("A_2".toList, some "2".toList)]
    Distinct text ∧ ¬ FillsOwn [] text values ∧
      Substitution.fill text (extract [] text {}).2.aliases values =
        ("<Param Code=\"A\">1</Param>" ++
          "<Param Code=\"A\">\x7b?External(L)?\x7d</Param>").toList := by
  intro text values
  -- No marker of the text is filled by the second field.
  have hfacts : Distinct text ∧
      Substitution.fill text (extract [] text {}).2.aliases values =
        ("<Param Code=\"A\">1</Param>" ++
          "<Param Code=\"A\">\x7b?External(L)?\x7d</Param>").toList ∧
      1 < (elements text).length ∧
      (∃ h : 1 < (extract [] text {}).1.length,
        ((extract [] text {}).1.get ⟨1, h⟩).code = "A_2".toList) ∧
      ∀ entry ∈ (Substitution.run text (extract [] text {}).2.aliases values).report.entries,
        entry.outcome ≠ .replaced "A_2".toList "2".toList := by
    decide +kernel
  obtain ⟨hdistinct, hfill, helement, ⟨hfield, hcode⟩, hnone⟩ := hfacts
  refine ⟨hdistinct, fun hown => ?_, hfill⟩
  obtain ⟨before, marker, after, hmarker, hfilled⟩ := hown.get (i := 1) helement hfield
  have hreported := hfilled.reported
  rw [← hmarker.text_eq, hcode] at hreported
  exact hnone _ hreported rfl

end Parameter

end FormFill

import FormFill.Proofs.Validation

/-!
# Missing values

A value may be missing in two ways: a table has no entry for the code, or an entry without a value. A fill
without a profile takes both for an empty text, so they come to the same faults, messages, document and
markers, which are those of a substitution of the table itself. The report does tell them apart. It calls a
value missing only if its code has no entry, where a substitution of the table calls both missing.
-/

namespace FormFill

/-- A table that holds the entries of another, in any order, and besides them only entries without a value
for codes of which the other says nothing. -/
structure Values.Pads (padded entered : Values) : Prop where
  nodup : (Table.keys padded).Nodup
  get?_eq : ∀ code, Table.get? code padded = Table.get? code entered ∨
    Table.get? code entered = none ∧ Table.get? code padded = some none

/-- Tables that fill the same text in for every code. -/
def Values.FillAlike (values other : Values) : Prop :=
  ∀ code, (values.valueOf? code).getD [] = (other.valueOf? code).getD []

section

variable {values other entered padded : Values}

namespace Values.FillAlike

theorem symm (h : values.FillAlike other) : other.FillAlike values := fun code => (h code).symm

theorem trans {third : Values} (h : values.FillAlike other) (hother : other.FillAlike third) :
    values.FillAlike third := fun code => (h code).trans (hother code)

end Values.FillAlike

/-- Entries without a value for new codes may be added at the end. -/
theorem Values.pads_append {codes : List Text} (hnodup : (Table.keys entered).Nodup)
    (hcodes : codes.Nodup) (hnew : ∀ code ∈ codes, code ∉ Table.keys entered) :
    Pads (entered ++ codes.map fun code => (code, none)) entered where
  nodup := by
    have hkeys : Table.keys (codes.map fun code => (code, (none : Option Text))) = codes := by
      rw [Table.keys, List.map_map]
      exact List.map_id codes
    rw [Table.keys, List.map_append, ← Table.keys, ← Table.keys, hkeys, List.nodup_append']
    exact ⟨hnodup, hcodes, fun code hentered hcode => hnew code hcode hentered⟩
  get?_eq code := by
    rw [Table.get?_append]
    cases Table.get? code entered with
    | some value => exact Or.inl rfl
    | none =>
        cases hnull : Table.get? code (codes.map fun code => (code, (none : Option Text))) with
        | none => exact Or.inl rfl
        | some value =>
            obtain ⟨_, -, hentry⟩ := List.mem_map.mp (Table.mem_of_get?_eq_some hnull)
            cases hentry
            exact Or.inr ⟨rfl, rfl⟩

/-- Entries without a value fill nothing in, as if they were not there. -/
theorem Values.Pads.fillAlike (h : padded.Pads entered) : padded.FillAlike entered := by
  intro code
  rw [Values.valueOf?, Values.valueOf?]
  rcases h.get?_eq code with heq | ⟨hnone, hnull⟩
  · rw [heq]
  · rw [hnone, hnull]
    rfl

/-- A code that has an entry keeps it. -/
theorem Values.Pads.mem_keys (h : padded.Pads entered) {code : Text}
    (hmem : code ∈ Table.keys entered) : code ∈ Table.keys padded := by
  by_contra hnew
  rcases h.get?_eq code with heq | ⟨hnone, -⟩
  · exact Table.get?_eq_none_iff.mp (heq.symm.trans (Table.get?_eq_none_iff.mpr hnew)) hmem
  · exact Table.get?_eq_none_iff.mp hnone hmem

/-! ## Checks and substitutions -/

namespace Validation

/-- A text that is there and not empty is seen when a missing text is taken to be empty. -/
theorem nonEmpty?_getD (value : Option Text) : nonEmpty? (some (value.getD [])) = nonEmpty? value := by
  cases value <;> rfl

theorem check_congr (release : Pattern.Release) (field : Field) {value other : Option Text}
    (h : value.getD [] = other.getD []) : check field value release = check field other release := by
  have hseen : nonEmpty? value = nonEmpty? other := by
    rw [← nonEmpty?_getD value, h, nonEmpty?_getD]
  simp only [check, hseen]

theorem checkAll_congr (release : Pattern.Release) (h : values.FillAlike other) (fields : List Field)
    (findings : Findings) :
    checkAll release values fields findings = checkAll release other fields findings := by
  induction fields generalizing findings with
  | nil => rfl
  | cons field rest ih => simp only [checkAll, check_congr release field (h field.code), ih]

end Validation

namespace Substitution

variable (aliases : Table Text)

theorem outcome_congr (h : values.FillAlike other) :
    outcome aliases values = outcome aliases other := by
  funext marker
  simp only [outcome, h _]

theorem entriesFrom_congr (h : values.FillAlike other) (offset : Nat) (pieces : List Marker.Piece) :
    entriesFrom aliases values offset pieces = entriesFrom aliases other offset pieces := by
  induction pieces generalizing offset with
  | nil => rfl
  | cons piece rest ih =>
      cases piece with
      | plain c => exact ih (offset + 1)
      | marker marker => rw [entriesFrom, entriesFrom, outcome_congr aliases h, ih]

theorem pieceText_congr (h : values.FillAlike other) :
    pieceText aliases values = pieceText aliases other := by
  funext piece
  cases piece with
  | plain c => rfl
  | marker marker => rw [pieceText, pieceText, outcome_congr aliases h]

/-- Tables that fill the same texts in come to the same document and the same markers. -/
theorem run_congr (h : values.FillAlike other) (template : Text) :
    (run template aliases values).text = (run template aliases other).text ∧
      (run template aliases values).report.entries = (run template aliases other).report.entries := by
  refine ⟨?_, entriesFrom_congr aliases h 0 _⟩
  simp only [run, pieceText_congr aliases h]

end Substitution

/-! ## Tables without a profile -/

namespace Fill

/-- The value under which a code is filled in: an empty text for an entry without a value, and none for a
code without an entry. -/
theorem valueOf?_merge_none (hnodup : (Table.keys entered).Nodup) (code : Text) :
    (present (merge none entered)).valueOf? code =
      (Table.get? code entered).map fun value => value.getD [] := by
  have hkeys : Table.keys (entered.map fun entry => (entry.1, entry.2.getD [])) =
      Table.keys entered := by
    rw [Table.keys, Table.keys, List.map_map]
    rfl
  have hmerge : merge none entered = entered.map fun entry => (entry.1, entry.2.getD []) :=
    Table.setAll_of_nodup (hkeys ▸ hnodup)
  rw [Values.valueOf?, present, Table.get?_map, hmerge,
    Table.get?_map fun value : Option Text => value.getD []]
  cases Table.get? code entered <;> rfl

/-- What is filled in is what the table itself would fill in. -/
theorem fillAlike_present (hnodup : (Table.keys entered).Nodup) :
    (present (merge none entered)).FillAlike entered := by
  intro code
  rw [valueOf?_merge_none hnodup, Values.valueOf?]
  cases Table.get? code entered <;> rfl

/-- A fill takes no note of how a value is missing: it comes to the same fault, or to results that differ at
most in the values and in those that are called missing. -/
theorem run_congr (hentered : (Table.keys entered).Nodup) (hpadded : (Table.keys padded).Nodup)
    (h : padded.FillAlike entered) (template dictionary : Text) (config : Config)
    (release : Pattern.Release) :
    match run template dictionary entered config none release with
    | .error fault => run template dictionary padded config none release = .error fault
    | .ok filled => ∃ other, run template dictionary padded config none release = .ok other ∧
        other.form = filled.form ∧ other.errors = filled.errors ∧
        other.output.text = filled.output.text ∧
        other.output.report.entries = filled.output.report.entries := by
  have hvalues : (present (merge none padded)).FillAlike (present (merge none entered)) :=
    (fillAlike_present hpadded).trans (h.trans (fillAlike_present hentered).symm)
  have hcheck : Validation.checkForm (Form.read template dictionary config).nodes
      (present (merge none padded)) release =
        Validation.checkForm (Form.read template dictionary config).nodes
          (present (merge none entered)) release :=
    Validation.checkAll_congr release hvalues _ _
  obtain ⟨htext, hentries⟩ :=
    Substitution.run_congr (Form.read template dictionary config).aliases hvalues template
  rw [run, run, hcheck]
  cases Validation.checkForm (Form.read template dictionary config).nodes
      (present (merge none entered)) release with
  | error fault => rfl
  | ok findings =>
      dsimp only
      by_cases hblocked : (!findings.errors.isEmpty && config.blocking) = true
      · rw [if_pos hblocked, if_pos hblocked]
      · rw [if_neg hblocked, if_neg hblocked]
        exact ⟨_, rfl, rfl, rfl, htext, hentries⟩

/-- What a fill that succeeds has substituted. -/
theorem output_of_run {template dictionary : Text} {config : Config} {profile : Option Profile}
    {release : Pattern.Release} {filled : Filled}
    (h : run template dictionary entered config profile release = .ok filled) :
    filled.output =
      Substitution.run template filled.form.aliases (present (merge profile entered)) := by
  rw [run] at h
  split at h
  next => cases h
  next findings hcheck =>
    split at h
    next => cases h
    next =>
      cases h
      rfl

/-- A fill calls the values of those codes missing that have an alias and no entry. -/
theorem missing_of_run (hnodup : (Table.keys entered).Nodup) {template dictionary : Text}
    {config : Config} {release : Pattern.Release} {filled : Filled}
    (h : run template dictionary entered config none release = .ok filled) :
    filled.output.report.missing =
      (Table.keys filled.form.aliases).filter fun code => code ∉ Table.keys entered := by
  rw [output_of_run h]
  refine List.filter_congr fun code _ => ?_
  rw [valueOf?_merge_none hnodup, Option.isNone_map, Bool.eq_iff_iff, decide_eq_true_iff,
    Option.isNone_iff_eq_none, Table.get?_eq_none_iff]

/-- Two choices from a list are the same if and only if they agree on its members. -/
theorem filter_eq_filter_iff {codes : List Text} {first second : Text → Bool} :
    codes.filter first = codes.filter second ↔ ∀ code ∈ codes, first code = second code := by
  refine ⟨fun h code hmem => ?_, List.filter_congr⟩
  have hboth : code ∈ codes.filter first ↔ code ∈ codes.filter second := by rw [h]
  rw [List.mem_filter, List.mem_filter] at hboth
  simpa [hmem, ← Bool.eq_iff_iff] using hboth

/-- A code counts as missing for a fill as for the table itself unless its entry has no value. -/
theorem isMissing_iff (code : Text) :
    decide (code ∉ Table.keys entered) = (entered.valueOf? code).isNone ↔
      Table.get? code entered ≠ some none := by
  rw [Bool.eq_iff_iff, decide_eq_true_iff, Option.isNone_iff_eq_none, ← Table.get?_eq_none_iff,
    Values.valueOf?]
  cases Table.get? code entered with
  | none => simp
  | some value => cases value <;> simp

/-- How a fill takes entries without a value that are added to a table. -/
structure TakesAsAbsent (template dictionary : Text) (config : Config) (release : Pattern.Release)
    (entered padded : Values) : Prop where
  /-- They have no say in whether it comes to a fault, and to which. -/
  faults : ∀ fault, run template dictionary padded config none release = .error fault ↔
    run template dictionary entered config none release = .error fault
  /-- They have no say in the form, the messages, the document and what becomes of the markers. The report
  calls the same values missing exactly if no code that has an alias is among those added. -/
  fills : ∀ filled, run template dictionary entered config none release = .ok filled →
    ∃ other, run template dictionary padded config none release = .ok other ∧
      other.form = filled.form ∧ other.errors = filled.errors ∧
      other.output.text = filled.output.text ∧
      other.output.report.entries = filled.output.report.entries ∧
      (other.output.report.missing = filled.output.report.missing ↔
        ∀ code ∈ Table.keys filled.form.aliases,
          code ∈ Table.keys padded → code ∈ Table.keys entered)
  /-- The document and the markers are those of a substitution of the table itself. It calls the same values
  missing exactly if no code that has an alias has an entry without a value. -/
  substitutes : ∀ filled, run template dictionary entered config none release = .ok filled →
    filled.output.text = (Substitution.run template filled.form.aliases entered).text ∧
      filled.output.report.entries =
        (Substitution.run template filled.form.aliases entered).report.entries ∧
      (filled.output.report.missing =
          (Substitution.run template filled.form.aliases entered).report.missing ↔
        ∀ code ∈ Table.keys filled.form.aliases, Table.get? code entered ≠ some none)

/-- A fill without a profile takes entries without a value as it takes codes without an entry, but for the
values that its report calls missing. -/
theorem takesAsAbsent (template dictionary : Text) (config : Config) (release : Pattern.Release)
    {entered padded : Values} (hnodup : (Table.keys entered).Nodup) (hpads : padded.Pads entered) :
    TakesAsAbsent template dictionary config release entered padded := by
  have hrun := run_congr hnodup hpads.nodup hpads.fillAlike template dictionary config release
  refine ⟨fun fault => ?_, fun filled hfilled => ?_, fun filled hfilled => ?_⟩
  · cases hentered : run template dictionary entered config none release with
    | error other =>
        rw [hentered] at hrun
        rw [hrun]
    | ok filled =>
        rw [hentered] at hrun
        obtain ⟨other, hother, -⟩ := hrun
        rw [hother]
        exact ⟨nofun, nofun⟩
  · rw [hfilled] at hrun
    obtain ⟨other, hother, hform, herrors, htext, hentries⟩ := hrun
    refine ⟨other, hother, hform, herrors, htext, hentries, ?_⟩
    rw [missing_of_run hpads.nodup hother, missing_of_run hnodup hfilled, hform, filter_eq_filter_iff]
    refine forall₂_congr fun code _ => ?_
    rw [decide_eq_decide, not_iff_not]
    exact ⟨Iff.mp, fun h => ⟨h, hpads.mem_keys⟩⟩
  · have houtput := output_of_run hfilled
    obtain ⟨htext, hentries⟩ := Substitution.run_congr filled.form.aliases
      (fillAlike_present hnodup) template
    rw [missing_of_run hnodup hfilled]
    refine ⟨houtput ▸ htext, houtput ▸ hentries, filter_eq_filter_iff.trans ?_⟩
    exact forall₂_congr fun code _ => isMissing_iff code

end Fill

end

/-! ## A fill with an entry without a value -/

namespace NullFill

/-- A template with two fields. -/
def template : Text :=
  "<Form Code=\"Act\"><Simple Code=\"B\"><Section>".toList ++
    "<Param Code=\"C\">\x7b?External(K)?\x7d</Param>".toList ++
    "<Param Code=\"D\">\x7b?External(L)?\x7d</Param>".toList ++
    "</Section></Simple></Form>".toList

/-- A value for one of them. -/
def given : Values := [("D", some "7")]

/-- The value, and entries without a value for the other field and for none. -/
def withNulls : Values := given ++ ["C".toList, "E".toList].map fun code => (code, none)

theorem pads : withNulls.Pads given :=
  Values.pads_append (by decide) (by decide) (by decide)

/-- What a fill of the template calls missing. -/
def missing? (values : Values) : Option (List Text) :=
  match Fill.run template [] values {} none .later with
  | .ok filled => some filled.output.report.missing
  | .error _ => none

theorem exists_run_of_missing? {values : Values} {codes : List Text}
    (h : missing? values = some codes) :
    ∃ filled, Fill.run template [] values {} none .later = .ok filled ∧
      filled.output.report.missing = codes := by
  rw [missing?] at h
  split at h
  next filled hfilled => exact ⟨filled, hfilled, Option.some.inj h⟩
  next => cases h

end NullFill

/-- The document and the markers of a fill are the same with and without the entries. -/
theorem Fill.takesAsAbsent_of_null :
    (Table.keys NullFill.given).Nodup ∧ NullFill.withNulls.Pads NullFill.given ∧
      TakesAsAbsent NullFill.template [] {} .later NullFill.given NullFill.withNulls :=
  ⟨by decide, NullFill.pads, takesAsAbsent NullFill.template [] {} .later (by decide) NullFill.pads⟩

/-- A report does not always treat an entry without a value like a code without an entry. -/
theorem Fill.not_forall_report_eq : ¬ ∀ (template dictionary : Text) (config : Config)
    (release : Pattern.Release) (entered padded : Values) (filled other : Filled),
      (Table.keys entered).Nodup → padded.Pads entered →
        run template dictionary entered config none release = .ok filled →
          run template dictionary padded config none release = .ok other →
            other.output.report = filled.output.report := by
  intro h
  have hgiven : NullFill.missing? NullFill.given = some ["C".toList] := by decide +kernel
  have hnulls : NullFill.missing? NullFill.withNulls = some [] := by decide +kernel
  obtain ⟨filled, hfilled, hmissing⟩ := NullFill.exists_run_of_missing? hgiven
  obtain ⟨other, hother, hnone⟩ := NullFill.exists_run_of_missing? hnulls
  have hreport := h _ _ _ _ _ _ filled other (by decide) NullFill.pads hfilled hother
  rw [hreport, hmissing] at hnone
  cases hnone

end FormFill

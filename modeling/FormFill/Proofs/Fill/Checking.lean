import FormFill.Proofs.Form.Source
import FormFill.Proofs.Validation

/-!
# Checked fills

The value of a field is the one that was entered for its code, or else the one that the profile has for it.
If all patterns of a form can be used, the messages of a fill are those of the fields whose values fail their
check. Such a fill is refused with these messages, if there are any and the configuration says so; all else
that it comes to is the same whether or not the configuration says so.
-/

namespace FormFill

/-- A pattern that can be used in a release of the pattern language: it is malformed and asks for nothing, or
it can be read and decides every text. -/
inductive Pattern.IsUsable (release : Release) (pattern : Text) : Prop where
  | malformed {breach : Breach} (hread : Node.read pattern = .error (.malformed breach))
  | decides {node : Node} (hread : Node.read pattern = .ok node)
    (hmatch : ∀ text, ∃ matched, node.matchesAll release text = .ok matched)

/-- No fault escapes the check of a field whose pattern can be used. -/
theorem Validation.not_escapes {release : Pattern.Release} {field : Field}
    (h : ∀ pattern, nonEmpty? field.pattern = some pattern → Pattern.IsUsable release pattern)
    (value : Option Text) (fault : Pattern.Fault) : ¬ Escapes release field value fault := by
  rintro (⟨hpattern, -, hread, hfault⟩ | @⟨pattern, text, node, hpattern, -, hread, hmatch⟩)
  · rcases h _ hpattern with hmalformed | ⟨hnode, -⟩
    · exact hfault _ (Except.error.inj (hread.symm.trans hmalformed))
    · cases hread.symm.trans hnode
  · rcases h _ hpattern with hmalformed | ⟨hnode, hdecides⟩
    · cases hread.symm.trans hmalformed
    · obtain rfl := Except.ok.inj (hread.symm.trans hnode)
      obtain ⟨matched, hmatched⟩ := hdecides text
      cases hmatch.symm.trans hmatched

namespace Fill

/-- The value of a code: the last one that was entered for it, which is empty if it is missing, or else the
one that the profile has for it. -/
def valueFor (profile : Option Profile) (entered : Values) (code : Text) : Option Text :=
  match Table.get? code entered.reverse with
  | some value => some (value.getD [])
  | none => profile.bind fun profile => Table.get? code profile.values

theorem valueOf?_merge (profile : Option Profile) (entered : Values) :
    (present (merge profile entered)).valueOf? = valueFor profile entered := by
  funext code
  have hpresent : (present (merge profile entered)).valueOf? code =
      Table.get? code (merge profile entered) := by
    rw [Values.valueOf?, present, Table.get?_map]
    cases Table.get? code (merge profile entered) <;> rfl
  rw [hpresent, merge, Table.get?_setAll, ← List.map_reverse,
    Table.get?_map (fun value : Option Text => value.getD []), valueFor]
  cases Table.get? code entered.reverse with
  | some value => rfl
  | none => cases profile <;> rfl

/-- What a fill comes to whose configuration blocks or does not block: it is refused with its messages if
there are any and the configuration blocks, and succeeds otherwise. -/
def ComesTo (template dictionary : Text) (entered : Values) (config : Config)
    (profile : Option Profile) (release : Pattern.Release) (filled : Filled) : Prop :=
  ∀ blocking, run template dictionary entered { config with blocking } profile release =
    if blocking && !filled.errors.isEmpty then .error (.rejected filled.errors filled.form)
    else .ok filled

variable (template dictionary : Text) (config : Config) (profile : Option Profile)
  (release : Pattern.Release)

theorem codes_nodup :
    ((fieldsOf (Form.read template dictionary config).nodes).map (·.code)).Nodup := by
  obtain ⟨-, hnodup, hfields, -⟩ :=
    Form.extract_eq template dictionary config.excluded config.roles
  rw [Form.read, hfields, List.map_map]
  exact hnodup

/-- If all patterns can be used, a fill comes to the form of the template, the messages of the values that
fail, and the template in which the values stand. -/
theorem comesTo_of_isUsable (entered : Values)
    (husable : ∀ field ∈ fieldsOf (Form.read template dictionary config).nodes, ∀ pattern,
      Validation.nonEmpty? field.pattern = some pattern → Pattern.IsUsable release pattern) :
    ComesTo template dictionary entered config profile release
      { form := Form.read template dictionary config
        values := merge profile entered
        output := Substitution.run template (Form.read template dictionary config).aliases
          (present (merge profile entered))
        errors := Validation.messages release (valueFor profile entered)
          (fieldsOf (Form.read template dictionary config).nodes) } := by
  have hescapes : ∀ field ∈ fieldsOf (Form.read template dictionary config).nodes, ∀ fault,
      ¬ Validation.Escapes release field ((present (merge profile entered)).valueOf? field.code) fault :=
    fun field hmem => Validation.not_escapes (husable field hmem) _
  obtain ⟨warnings, hcheck⟩ := @Validation.checkAll_eq_ok release _ _ {}
    (codes_nodup template dictionary config) (by simp [Table.keys]) hescapes
  rw [valueOf?_merge, List.nil_append] at hcheck
  intro blocking
  have hform : Form.read template dictionary { config with blocking } =
      Form.read template dictionary config := rfl
  rw [run, Validation.checkForm, hform, hcheck]
  cases blocking <;> simp

end Fill

/-! ## A checked fill -/

/-- Whether a pattern has no groups or is malformed. -/
def Pattern.isPlain (pattern : Text) : Bool :=
  match Node.read pattern with
  | .ok node => node.groupCount == 0
  | .error (.malformed _) => true
  | .error _ => false

/-- A pattern without groups leaves none crossed. -/
theorem Pattern.isUsable_of_isPlain {pattern : Text} (h : isPlain pattern = true) (release : Release) :
    IsUsable release pattern := by
  unfold isPlain at h
  split at h
  next node hread =>
    refine .decides hread fun text => ?_
    rw [beq_iff_eq] at h
    unfold Node.matchesAll
    dsimp only
    generalize StateT.run _ _ = result
    obtain ⟨matched, memory⟩ := result
    exact ⟨matched, by simp [Memory.isCrossed, h]⟩
  next breach hread => exact .malformed hread
  next => cases h

namespace CheckedFill

/-- A template with two fields of one code, two that a profile fills, and one whose pattern is malformed. -/
def template : Text :=
  "<Form Code=\"Act\"><Simple Code=\"B\"><Section>".toList ++
    "<Param Code=\"C\" RegEx=\"[0-9]+\" ErrorText=\"digits\">\x7b?External(C)?\x7d</Param>".toList ++
    "<Param Code=\"C\" RegEx=\"[0-9]+\">\x7b?External(D)?\x7d</Param>".toList ++
    "<Param Code=\"FIO1\" RegEx=\"[A-Z][a-z]+\">\x7b?External(E)?\x7d</Param>".toList ++
    "<Param Code=\"FIO2\" RegEx=\"[A-Z][a-z]+\">\x7b?External(F)?\x7d</Param>".toList ++
    "<Param Code=\"G\" RegEx=\"([0-9\">\x7b?External(G)?\x7d</Param>".toList ++
    "</Section></Simple></Form>".toList

/-- Values of which one is missing, and one is for no field. -/
def entered : Values :=
  [("C", some "x"), ("C_2", some "7y"), ("FIO1", none), ("G", some "z"), ("H", some "z")]

/-- A profile that has one text for everything. -/
def profile : Profile := ⟨fun _ => some "smith"⟩

end CheckedFill

end FormFill

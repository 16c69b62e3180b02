import FormFill.Fill
import FormFill.Proofs.Table

/-!
# What checks find

A check comes to a fault if the pattern cannot be read and is not malformed, or if its match is a fault.
Otherwise the messages of a form are those of the fields whose values fail, in the order of the fields: the
codes are distinct, so no message takes the place of another. A fault of the first field that has one ends
the checks.
-/

namespace FormFill

namespace Validation

/-- Whether the value of a field fails its check: there are a value and a pattern, and the pattern can be
read and does not match the value. -/
def fails (release : Pattern.Release) (field : Field) (value : Option Text) : Bool :=
  match nonEmpty? field.pattern, nonEmpty? value with
  | some pattern, some text =>
    match Pattern.Node.read pattern with
    | .ok node =>
      match node.matchesAll release text with
      | .ok matched => !matched
      | .error _ => false
    | .error _ => false
  | _, _ => false

/-- A check of a value comes to a fault that is not forgiven: that of a pattern which cannot be read and is
not malformed, or that of a match. -/
inductive Escapes (release : Pattern.Release) (field : Field) (value : Option Text)
    (fault : Pattern.Fault) : Prop where
  | reading {pattern text : Text} (hpattern : nonEmpty? field.pattern = some pattern)
    (hvalue : nonEmpty? value = some text) (hread : Pattern.Node.read pattern = .error fault)
    (hfault : ∀ breach, fault ≠ .malformed breach)
  | matching {pattern text : Text} {node : Pattern.Node}
    (hpattern : nonEmpty? field.pattern = some pattern) (hvalue : nonEmpty? value = some text)
    (hread : Pattern.Node.read pattern = .ok node) (hmatch : node.matchesAll release text = .error fault)

variable {release : Pattern.Release}

theorem check_eq_error_iff {field : Field} {value : Option Text} {fault : Pattern.Fault} :
    check field value release = .error fault ↔ Escapes release field value fault := by
  constructor
  · intro h
    unfold check at h
    split at h
    next pattern text hpattern hvalue =>
      split at h
      next node hread =>
        cases hmatch : node.matchesAll release text with
        | ok matched => cases matched <;> simp [hmatch, bind, Except.bind, pure, Except.pure] at h
        | error other =>
            simp only [hmatch, bind, Except.bind, Except.error.injEq] at h
            exact .matching hpattern hvalue hread (h ▸ hmatch)
      next => cases h
      next other hfault hread =>
        obtain rfl := Except.error.inj h
        exact .reading hpattern hvalue hread hfault
    next => cases h
  · rintro (⟨hpattern, hvalue, hread, hfault⟩ | ⟨hpattern, hvalue, hread, hmatch⟩)
    · simp only [check, hpattern, hvalue, hread]
    · simp only [check, hpattern, hvalue, hread, hmatch, bind, Except.bind]

/-- A check rejects the values that fail it, with the message of the field. -/
theorem check_eq_rejected_iff {field : Field} {value : Option Text} {message : Text} :
    check field value release = .ok (.rejected message) ↔
      fails release field value = true ∧ message = errorText field := by
  unfold check fails
  cases nonEmpty? field.pattern with
  | none => simp
  | some pattern =>
      cases nonEmpty? value with
      | none => simp
      | some text =>
          dsimp only
          cases Pattern.Node.read pattern with
          | error fault => cases fault <;> simp
          | ok node =>
              dsimp only
              cases node.matchesAll release text with
              | error fault => simp [bind, Except.bind]
              | ok matched =>
                  cases matched with
                  | true => simp [bind, Except.bind, pure, Except.pure]
                  | false =>
                      simp only [bind, Except.bind, pure, Except.pure, Bool.not_false, true_and]
                      exact ⟨fun h => by cases h; rfl, fun h => by rw [h]; rfl⟩

/-- The messages of the fields whose values fail their check, by code and in the order of the fields. -/
def messages (release : Pattern.Release) (value : Text → Option Text) (fields : List Field) : Table Text :=
  (fields.filter fun field => fails release field (value field.code)).map fun field =>
    (field.code, errorText field)

/-- Checking fields goes on with what is found about the first. -/
theorem checkAll_cons {values : Values} {field : Field} {verdict : Verdict}
    (h : check field (values.valueOf? field.code) release = .ok verdict) (rest : List Field)
    (findings : Findings) : ∃ warnings, checkAll release values (field :: rest) findings =
      checkAll release values rest
        ⟨if fails release field (values.valueOf? field.code) then
          findings.errors.set field.code (errorText field) else findings.errors, warnings⟩ := by
  have hrejected := @check_eq_rejected_iff release field (values.valueOf? field.code)
  simp only [checkAll, h, bind, Except.bind]
  rw [h] at hrejected
  cases verdict with
  | accepted =>
      have hpasses : fails release field (values.valueOf? field.code) = false := by
        simpa using @hrejected (errorText field)
      exact ⟨findings.warnings, by simp [hpasses]⟩
  | unchecked breach =>
      have hpasses : fails release field (values.valueOf? field.code) = false := by
        simpa using @hrejected (errorText field)
      exact ⟨findings.warnings + 1, by simp [hpasses]⟩
  | rejected message =>
      obtain ⟨hfails, rfl⟩ := hrejected.mp rfl
      exact ⟨findings.warnings, by simp [hfails]⟩

/-- If no fault escapes and the codes are distinct, the messages are those of the fields whose values fail. -/
theorem checkAll_eq_ok {values : Values} {fields : List Field} {findings : Findings}
    (hcodes : (fields.map (·.code)).Nodup)
    (hnew : ∀ field ∈ fields, field.code ∉ findings.errors.keys)
    (hescapes : ∀ field ∈ fields, ∀ fault,
      ¬ Escapes release field (values.valueOf? field.code) fault) :
    ∃ warnings, checkAll release values fields findings =
      .ok ⟨findings.errors ++ messages release values.valueOf? fields, warnings⟩ := by
  induction fields generalizing findings with
  | nil => exact ⟨findings.warnings, by simp [checkAll, messages]⟩
  | cons field rest ih =>
      obtain ⟨hhere, hlater⟩ := List.forall_mem_cons.mp hnew
      rw [List.map_cons, List.nodup_cons] at hcodes
      have hne : ∀ later ∈ rest, later.code ≠ field.code := by
        rintro later hmem heq
        exact hcodes.1 (heq ▸ List.mem_map_of_mem hmem)
      obtain ⟨verdict, hverdict⟩ : ∃ verdict,
          check field (values.valueOf? field.code) release = .ok verdict := by
        cases hcheck : check field (values.valueOf? field.code) release with
        | ok verdict => exact ⟨verdict, rfl⟩
        | error fault =>
            exact absurd (check_eq_error_iff.mp hcheck) (hescapes field List.mem_cons_self fault)
      obtain ⟨warnings, hcons⟩ := checkAll_cons hverdict rest findings
      have hrest := fun later hmem => hescapes later (List.mem_cons_of_mem _ hmem)
      rw [hcons, Table.set_of_not_mem hhere]
      cases hfails : fails release field (values.valueOf? field.code) with
      | false =>
          obtain ⟨total, hall⟩ := @ih ⟨findings.errors, warnings⟩ hcodes.2 hlater hrest
          exact ⟨total, by simpa [messages, hfails] using hall⟩
      | true =>
          have hnew' : ∀ later ∈ rest,
              later.code ∉ Table.keys (findings.errors ++ [(field.code, errorText field)]) := by
            intro later hmem
            rw [Table.keys, List.map_append, List.mem_append, not_or]
            exact ⟨hlater later hmem, by simpa using hne later hmem⟩
          obtain ⟨total, hall⟩ := @ih ⟨_, warnings⟩ hcodes.2 hnew' hrest
          exact ⟨total, by simpa [messages, hfails] using hall⟩

/-- Checking fields comes to a fault if one escapes and none has escaped before it. -/
theorem checkAll_eq_error_iff {values : Values} {fields : List Field} {findings : Findings}
    {fault : Pattern.Fault} :
    checkAll release values fields findings = .error fault ↔ ∃ before field after,
      fields = before ++ field :: after ∧
      (∀ earlier ∈ before, ∀ other, ¬ Escapes release earlier (values.valueOf? earlier.code) other) ∧
      Escapes release field (values.valueOf? field.code) fault := by
  induction fields generalizing findings with
  | nil => simp [checkAll]
  | cons field rest ih =>
      cases hcheck : check field (values.valueOf? field.code) release with
      | error other =>
          have hescapes := check_eq_error_iff.mp hcheck
          have hall : checkAll release values (field :: rest) findings = .error other := by
            simp only [checkAll, hcheck, bind, Except.bind]
          rw [hall]
          constructor
          · intro h
            obtain rfl := Except.error.inj h
            exact ⟨[], field, rest, rfl, by simp, hescapes⟩
          · rintro ⟨before, first, after, hfields, hbefore, hfirst⟩
            cases before with
            | nil =>
                obtain ⟨rfl, -⟩ := List.cons.inj hfields
                have hsame := hcheck.symm.trans (check_eq_error_iff.mpr hfirst)
                rw [Except.error.inj hsame]
            | cons earlier before =>
                obtain ⟨rfl, -⟩ := List.cons.inj hfields
                exact absurd hescapes (hbefore field List.mem_cons_self other)
      | ok verdict =>
          have hnone : ∀ other, ¬ Escapes release field (values.valueOf? field.code) other := by
            intro other hescapes
            rw [check_eq_error_iff.mpr hescapes] at hcheck
            cases hcheck
          obtain ⟨warnings, hcons⟩ := checkAll_cons hcheck rest findings
          rw [hcons, ih]
          constructor
          · rintro ⟨before, first, after, rfl, hbefore, hfirst⟩
            exact ⟨field :: before, first, after, rfl,
              List.forall_mem_cons.mpr ⟨hnone, hbefore⟩, hfirst⟩
          · rintro ⟨before, first, after, hfields, hbefore, hfirst⟩
            cases before with
            | nil =>
                obtain ⟨rfl, -⟩ := List.cons.inj hfields
                exact absurd hfirst (hnone fault)
            | cons earlier before =>
                obtain ⟨rfl, hrest⟩ := List.cons.inj hfields
                exact ⟨before, first, after, hrest, (List.forall_mem_cons.mp hbefore).2, hfirst⟩

end Validation

end FormFill

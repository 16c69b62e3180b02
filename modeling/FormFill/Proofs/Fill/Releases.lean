import FormFill.Proofs.Validation

/-!
# Releases of the pattern language

Releases differ in where matching goes on behind a repetition that keeps to the most rounds. Patterns without
such a repetition are matched alike in all of them, and so are patterns in which it repeats single characters
only. So a fill comes to the same in all releases unless the pattern of a field keeps to rounds.
-/

namespace FormFill

namespace Pattern.Node

/-- Whether a pattern holds a repetition that keeps to the most rounds, where a round is more than one
character. -/
def keepsToRounds : Node → Bool
  | .empty | .one _ | .anchor _ | .reference .. => false
  | .seq first rest => first.keepsToRounds || rest.keepsToRounds
  | .either first second => first.keepsToRounds || second.keepsToRounds
  | .repeated _ _ preference body =>
    (preference == .onlyMost && body.single?.isNone) || body.keepsToRounds
  | .group _ body | .atomic body | .look _ _ body => body.keepsToRounds
  | .conditional _ yes no => yes.keepsToRounds || no.keepsToRounds

variable {node : Node}

/-- Matching is the same in all releases unless rounds are kept to. -/
theorem run_eq_of_keepsToRounds_eq_false (h : node.keepsToRounds = false) (release other : Release)
    (text : Array Char) (kept : Bool) :
    node.run release text kept = node.run other text kept := by
  induction node generalizing kept with
  | empty | one | anchor | reference => rfl
  | seq first rest ihFirst ihRest =>
      obtain ⟨hfirst, hrest⟩ := Bool.or_eq_false_iff.mp h
      funext next here
      rw [run, run, ihFirst hfirst, ihRest hrest]
  | either first second ihFirst ihSecond =>
      obtain ⟨hfirst, hsecond⟩ := Bool.or_eq_false_iff.mp h
      funext next here
      rw [run, run, ihFirst hfirst, ihSecond hsecond]
  | repeated least most preference body ih =>
      obtain ⟨hrounds, hbody⟩ := Bool.or_eq_false_iff.mp h
      funext next here
      rw [run, run]
      cases hsingle : body.single? with
      | some test => rfl
      | none =>
          -- The release is looked at only behind a repetition that keeps to the most rounds.
          cases preference with
          | most => simp only [ih hbody]
          | fewest => simp only [ih hbody]
          | onlyMost => simp [hsingle] at hrounds
  | group number body ih =>
      funext next here
      rw [run, run, ih h]
  | atomic body ih =>
      funext next here
      rw [run, run, ih h]
  | look direction negated body ih =>
      funext next here
      cases direction with
      | ahead => rw [run, run, ih h]
      | behind width => rw [run, run, ih h]
  | conditional number yes no ihYes ihNo =>
      obtain ⟨hyes, hno⟩ := Bool.or_eq_false_iff.mp h
      funext next here
      by_cases hempty : no = .empty
      · subst hempty
        simp only [run, ihYes hyes]
      · rw [run, run, ihYes hyes, ihNo hno] <;> exact hempty

theorem matchesAll_eq_of_keepsToRounds_eq_false (h : node.keepsToRounds = false)
    (release other : Release) (text : Text) :
    node.matchesAll release text = node.matchesAll other text := by
  unfold matchesAll
  simp only [run_eq_of_keepsToRounds_eq_false h release other]

end Pattern.Node

/-- Whether the pattern of a field can be read and keeps to rounds. -/
def Field.keepsToRounds (field : Field) : Bool :=
  match field.pattern.map Pattern.Node.read with
  | some (.ok node) => node.keepsToRounds
  | _ => false

namespace Validation

/-- What is found about a value does not depend on the release unless the pattern keeps to rounds. -/
theorem check_eq_of_keepsToRounds_eq_false {field : Field} (h : field.keepsToRounds = false)
    (value : Option Text) (release other : Pattern.Release) :
    check field value release = check field value other := by
  unfold check
  cases hpattern : nonEmpty? field.pattern with
  | none => rfl
  | some pattern =>
      cases nonEmpty? value with
      | none => rfl
      | some text =>
          dsimp only
          cases hread : Pattern.Node.read pattern with
          | error fault => cases fault <;> rfl
          | ok node =>
              have hnode : node.keepsToRounds = false := by
                rwa [Field.keepsToRounds, Option.eq_some_of_filter_eq_some hpattern, Option.map_some,
                  hread] at h
              dsimp only
              rw [node.matchesAll_eq_of_keepsToRounds_eq_false hnode release other]

/-- A pattern that keeps to rounds may tell releases apart: the second round fails behind the last character,
and earlier releases go on from there. -/
example (field : Field) (h : field.pattern = some "(?:ab?c)*+".toList) :
    fails .earlier field (some "aca".toList) = false ∧ fails .later field (some "aca".toList) = true := by
  unfold fails
  rw [h]
  decide +kernel

theorem checkAll_eq_of_keepsToRounds_eq_false {fields : List Field}
    (h : ∀ field ∈ fields, field.keepsToRounds = false) (values : Values) (findings : Findings)
    (release other : Pattern.Release) :
    checkAll release values fields findings = checkAll other values fields findings := by
  induction fields generalizing findings with
  | nil => rfl
  | cons field rest ih =>
      obtain ⟨hfield, hrest⟩ := List.forall_mem_cons.mp h
      simp only [checkAll, ih hrest,
        check_eq_of_keepsToRounds_eq_false hfield (values.valueOf? field.code) release other]

end Validation

/-- A fill comes to the same in all releases if no pattern of a field keeps to rounds. -/
theorem Fill.run_eq_of_keepsToRounds_eq_false (template dictionary : Text) (entered : Values)
    (config : Config) (profile : Option Profile)
    (h : ∀ field ∈ fieldsOf (Form.read template dictionary config).nodes, field.keepsToRounds = false)
    (release other : Pattern.Release) :
    run template dictionary entered config profile release =
      run template dictionary entered config profile other := by
  rw [run, run, Validation.checkForm, Validation.checkForm,
    Validation.checkAll_eq_of_keepsToRounds_eq_false h _ _ release other]

end FormFill

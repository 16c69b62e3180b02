import FormFill.Proofs.Fill.Checking
import FormFill.Proofs.Pattern.Counting
import FormFill.Proofs.Pattern.Reading

/-!
# Faults of fills

A fill does not only succeed or refuse values: it comes to a fault if the pattern of a field with a value
cannot be used. That is not so for malformed patterns, which ask for nothing. What remains are numbers of
repetitions that are too large or have too many digits, escapes whose number is too large, options that
contradict each other, and matches that leave a group crossed.
-/

namespace FormFill

/-- A match comes to no fault but that of a crossed group. -/
theorem Pattern.Node.matchesAll_eq_error {release : Release} {node : Node} {text : Text} {fault : Fault}
    (h : node.matchesAll release text = .error fault) : fault = .crossedGroup := by
  unfold matchesAll at h
  dsimp only at h
  split at h
  next matched memory =>
    split at h
    next => exact (Except.error.inj h).symm
    next => cases h

namespace Validation

variable {release : Pattern.Release} {field : Field} {value : Option Text} {fault : Pattern.Fault}

/-- A fault that escapes a check comes from a match, or what it comes from stands in the pattern. -/
theorem Escapes.cause (h : Escapes release field value fault) :
    ∃ pattern, nonEmpty? field.pattern = some pattern ∧
      (fault = .crossedGroup ∨ Pattern.Unforgiven (Pattern.Token.scan pattern) fault) := by
  rcases h with ⟨hpattern, -, hread, hfault⟩ | ⟨hpattern, -, -, hmatch⟩
  · refine ⟨_, hpattern, Or.inr ?_⟩
    rcases Pattern.explained_of_read hread with ⟨breach, hbreach⟩ | hunforgiven
    · exact absurd hbreach (hfault breach)
    · exact hunforgiven
  · exact ⟨_, hpattern, Or.inl (Pattern.Node.matchesAll_eq_error hmatch)⟩

/-- A fault escapes the check of every value of a field that asks for a letter or a digit more often than the
bound for repetitions allows. -/
theorem escapes_of_tooLarge {c : Char} {digits : Text} (hc : c.isAlphanum = true)
    (hdigits : ∀ d ∈ digits, d.isDigit = true) (hlength : digits.length ≤ Text.digitLimit)
    (hbound : Pattern.repetitionBound ≤ Pattern.ofBase 10 digits)
    (hpattern : field.pattern = some (c :: '\x7b' :: (digits ++ ['\x7d']))) {text : Text}
    (hvalue : nonEmpty? value = some text) : Escapes release field value .repetitionTooLarge := by
  have hnonempty : nonEmpty? field.pattern = some (c :: '\x7b' :: (digits ++ ['\x7d'])) := by
    rw [hpattern]
    rfl
  exact .reading hnonempty hvalue (Pattern.read_eq_tooLarge hc hdigits hlength hbound) nofun

end Validation

namespace Fill

variable (template dictionary : Text) (entered : Values) (config : Config) (profile : Option Profile)
  (release : Pattern.Release)

/-- A fill comes to the first fault that escapes the check of a field, in the order of the fields. -/
theorem run_eq_pattern_iff (fault : Pattern.Fault) :
    run template dictionary entered config profile release = .error (.pattern fault) ↔
      ∃ before field after,
        fieldsOf (Form.read template dictionary config).nodes = before ++ field :: after ∧
        (∀ earlier ∈ before, ∀ other,
          ¬ Validation.Escapes release earlier (valueFor profile entered earlier.code) other) ∧
        Validation.Escapes release field (valueFor profile entered field.code) fault := by
  rw [← valueOf?_merge, ← @Validation.checkAll_eq_error_iff release _ _ {}, run, Validation.checkForm]
  constructor
  · intro h
    split at h
    next other hcheck =>
      obtain rfl := FillFault.pattern.inj (Except.error.inj h)
      exact hcheck
    next findings hcheck => split at h <;> cases h
  · intro h
    rw [h]

/-- A fill does not get past a fault that escapes the check of a field. -/
theorem exists_run_eq_pattern {field : Field}
    (hmem : field ∈ fieldsOf (Form.read template dictionary config).nodes)
    {fault : Pattern.Fault}
    (hescapes : Validation.Escapes release field (valueFor profile entered field.code) fault) :
    ∃ first, run template dictionary entered config profile release = .error (.pattern first) := by
  classical
  let escapes (field : Field) : Prop :=
    ∃ fault, Validation.Escapes release field (valueFor profile entered field.code) fault
  -- The first such field decides, which need not be the given one.
  obtain ⟨first, hfirst⟩ : ∃ first, (fieldsOf (Form.read template dictionary config).nodes).find?
      (fun field => decide (escapes field)) = some first := by
    rw [← Option.isSome_iff_exists, List.find?_isSome]
    exact ⟨field, hmem, decide_eq_true ⟨fault, hescapes⟩⟩
  obtain ⟨hhere, before, after, hfields, hbefore⟩ := List.find?_eq_some_iff_append.mp hfirst
  obtain ⟨found, hfound⟩ := of_decide_eq_true hhere
  refine ⟨found, (run_eq_pattern_iff template dictionary entered config profile release found).mpr
    ⟨before, first, after, hfields, fun earlier hearlier other hother => ?_, hfound⟩⟩
  have hnone := hbefore earlier hearlier
  rw [Bool.not_eq_true', decide_eq_false_iff_not] at hnone
  exact hnone ⟨other, hother⟩

/-- A fill comes to a fault if a field with a value asks for a letter or a digit more often than the bound for
repetitions allows. -/
theorem exists_fault_of_tooLarge {field : Field}
    (hmem : field ∈ fieldsOf (Form.read template dictionary config).nodes) {c : Char} {digits : Text}
    (hc : c.isAlphanum = true) (hdigits : ∀ d ∈ digits, d.isDigit = true)
    (hlength : digits.length ≤ Text.digitLimit)
    (hbound : Pattern.repetitionBound ≤ Pattern.ofBase 10 digits)
    (hpattern : field.pattern = some (c :: '\x7b' :: (digits ++ ['\x7d']))) {text : Text}
    (hvalue : Validation.nonEmpty? (valueFor profile entered field.code) = some text) :
    ∃ fault, run template dictionary entered config profile release = .error (.pattern fault) :=
  exists_run_eq_pattern template dictionary entered config profile release hmem
    (Validation.escapes_of_tooLarge hc hdigits hlength hbound hpattern hvalue)

end Fill

namespace CountedFill

/-- A template with a field whose pattern asks for a letter more often than the bound allows. -/
def template : Text :=
  "<Form Code=\"Act\"><Simple Code=\"B\"><Section>".toList ++
    "<Param Code=\"C\" RegEx=\"a\x7b4294967296\x7d\">\x7b?External(K)?\x7d</Param>".toList ++
    "</Section></Simple></Form>".toList

/-- A value of the field. -/
def entered : Values := [("C", some "a")]

/-- The fault of a pattern that a fill comes to. -/
def fault? : Except FillFault Filled → Option Pattern.Fault
  | .error (.pattern fault) => some fault
  | .error (.rejected ..) | .ok _ => none

theorem eq_pattern_of_fault? {result : Except FillFault Filled} {fault : Pattern.Fault}
    (h : fault? result = some fault) : result = .error (.pattern fault) := by
  rcases result with (⟨errors, form⟩ | other) | filled
  · cases h
  · rw [Option.some.inj h]
  · cases h

theorem run_eq (release : Pattern.Release) :
    Fill.run template [] entered {} none release = .error (.pattern .repetitionTooLarge) :=
  eq_pattern_of_fault? (by cases release <;> decide +kernel)

end CountedFill

end FormFill

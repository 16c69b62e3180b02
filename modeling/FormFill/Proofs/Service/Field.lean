import FormFill.Proofs.Json.Reading
import FormFill.Service.Field

/-!
# What the texts of a form come to

A text that is no JSON document, or not the right one, is refused by its sender's fault. The exception is a
text in which an integer with more than 4300 digits is reached before anything is wrong: it is not foreseen,
so that reading it is a failure of the service.
-/

namespace FormFill.Service

open Json (Value)

/-- The sender is told: what the text holds has been read, or it is refused as a bad request. -/
def IsAnswered {α : Type} (result : Except Failure α) : Prop :=
  (∃ found, result = .ok found) ∨
    ∃ refusal, result = .error (.refused refusal) ∧ refusal.status = 400

/-- An integer with more than 4300 digits is reached in a text. -/
def IsOverlong (text : Text) : Prop := ∃ count, 4300 < count ∧ Json.ReachesInteger count text

/-- What reading the text of a field comes to. -/
structure ReadsField {α : Type} (field text : Text) (result : Except Failure α) : Prop where
  answered_iff : IsAnswered result ↔ ¬ IsOverlong text
  /-- The failure that is not foreseen is shown as an internal error. -/
  overlong : ∀ count, 4300 < count → Json.ReachesInteger count text → ∃ fault : Fault,
    result = .error (.unexpected fault) ∧ fault.label = "ValueError".toList ∧
    fault.message = (Text.tooManyDigitsMessage count).toList ∧
    (Failure.unexpected fault).status = 500 ∧
    (Failure.unexpected fault).code = "INTERNAL_ERROR".toList
  /-- What is neither a JSON document nor overlong is refused as no JSON. -/
  malformed_iff : (∃ fault, result = .error (.refused (.notJson field text fault))) ↔
    ¬ Json.IsDocument text ∧ ¬ IsOverlong text

theorem isOverlong_iff {text : Text} :
    IsOverlong text ↔ ∃ count, Json.read text = .error (.tooManyDigits count) :=
  exists_congr fun _ => Json.read_eq_tooManyDigits_iff.symm

/-- A field is read so if what follows its JSON document is answered. -/
theorem readsField_of_answered {α : Type} (field text : Text) {next : Value → Except Failure α}
    (hnext : ∀ value, IsAnswered (next value) ∧
      ∀ fault, next value ≠ .error (.refused (.notJson field text fault))) :
    ReadsField field text (match readJson field text with
      | .error failure => .error failure
      | .ok value => next value) := by
  rw [readJson]
  cases hread : Json.read text with
  | ok value =>
      have hdocument : Json.IsDocument text := Json.exists_read_eq_ok_iff.mp ⟨value, hread⟩
      have hoverlong : ¬ IsOverlong text := by
        rw [isOverlong_iff, hread]
        nofun
      exact ⟨iff_of_true (hnext value).1 hoverlong,
        fun count hcount hreaches => absurd ⟨count, hcount, hreaches⟩ hoverlong,
        iff_of_false (fun ⟨fault, h⟩ => (hnext value).2 fault h) fun h => h.1 hdocument⟩
  | error fault =>
      have hdocument : ¬ Json.IsDocument text := by
        rw [← Json.exists_read_eq_ok_iff, hread]
        nofun
      cases fault with
      | malformed problem position =>
          have hoverlong : ¬ IsOverlong text := by
            rw [isOverlong_iff, hread]
            nofun
          exact ⟨iff_of_true (Or.inr ⟨_, rfl, rfl⟩) hoverlong,
            fun count hcount hreaches => absurd ⟨count, hcount, hreaches⟩ hoverlong,
            iff_of_true ⟨_, rfl⟩ ⟨hdocument, hoverlong⟩⟩
      | tooManyDigits count =>
          have hoverlong : IsOverlong text := isOverlong_iff.mpr ⟨count, hread⟩
          refine ⟨iff_of_false ?_ (not_not.mpr hoverlong), fun other hother hreaches => ?_,
            iff_of_false nofun fun h => h.2 hoverlong⟩
          · rintro (⟨found, ⟨⟩⟩ | ⟨refusal, ⟨⟩, -⟩)
          · have hother := Json.read_eq_tooManyDigits_iff.mpr ⟨hother, hreaches⟩
            rw [hread] at hother
            cases hother
            exact ⟨_, rfl, rfl, rfl, rfl, rfl⟩

/-- The texts of a JSON document. -/
def textsOfJson (field : Text) : Value → Except Failure (List Text)
  | .array items =>
    match items.mapM textOfJson? with
    | some texts => .ok texts
    | none => .error (.refused (.notTextList field))
  | _ => .error (.refused (.notTextList field))

theorem readTexts_eq (field text : Text) : readTexts field text =
    match readJson field text with
    | .error failure => .error failure
    | .ok value => textsOfJson field value := by
  rw [readTexts]
  cases readJson field text with
  | error failure => rfl
  | ok value => cases value <;> rfl

/-- Values, profiles and lists of texts are answered, whatever the text is, unless it is overlong. -/
theorem readsField (field text : Text) :
    ReadsField "values" text (readValues text) ∧ ReadsField "profile" text (readProfile text) ∧
      ReadsField field text (readTexts field text) := by
  refine ⟨readsField_of_answered _ _ fun value => ?_, readsField_of_answered _ _ fun value => ?_,
    readTexts_eq field text ▸ readsField_of_answered _ _ fun value => ?_⟩
  · cases Values.ofJson? value with
    | none => exact ⟨Or.inr ⟨_, rfl, rfl⟩, nofun⟩
    | some values => exact ⟨Or.inl ⟨values, rfl⟩, nofun⟩
  · cases Profile.ofJson value with
    | error problems => exact ⟨Or.inr ⟨_, rfl, rfl⟩, nofun⟩
    | ok profile => exact ⟨Or.inl ⟨profile, rfl⟩, nofun⟩
  · rw [textsOfJson.eq_def]
    split
    next items =>
      cases items.mapM textOfJson? with
      | none => exact ⟨Or.inr ⟨_, rfl, rfl⟩, nofun⟩
      | some texts => exact ⟨Or.inl ⟨texts, rfl⟩, nofun⟩
    next => exact ⟨Or.inr ⟨_, rfl, rfl⟩, nofun⟩

/-- An object whose only member is an integer of so many digits. -/
def memberOfOnes (count : Nat) : Text :=
  "\x7b\"a\":".toList ++ (List.replicate count '1' ++ ['\x7d'])

theorem isWhole_replicate {count : Nat} (h : 0 < count) : Json.IsWhole (List.replicate count '1') := by
  obtain ⟨count, rfl⟩ := Nat.exists_eq_succ_of_ne_zero (Nat.ne_of_gt h)
  refine Or.inr ⟨⟨List.cons_ne_nil _ _, fun c hc => ?_⟩, by simp [List.replicate_succ]⟩
  rw [List.eq_of_mem_replicate hc]
  rfl

/-- The integer is reached behind the key. -/
theorem reachesInteger_memberOfOnes {count : Nat} (h : 0 < count) :
    Json.ReachesInteger count (memberOfOnes count) := by
  have hkey : Json.Brackets.curly.IsHead "\"a\":".toList :=
    ⟨[], ['a'], [], [], nofun, .plain (by decide) (by decide) (by decide) .nil, nofun, nofun, rfl⟩
  have hends : Json.EndsNumber ['\x7d'] := Json.endsNumber_of_head fun c hc => by
    cases hc
    exact Or.inr (by decide)
  have hnone : ∀ entry ∈ ([] : List (Json.Entry .curly)), Json.Written entry.value := nofun
  exact ⟨[], _, _, nofun, .entry .curly hnone hkey .nil,
    ⟨[], List.replicate count '1', ['\x7d'], Or.inl rfl, isWhole_replicate h, List.length_replicate,
      hends, rfl⟩, rfl⟩

/-- An object of values with an integer of 4301 digits is not answered. -/
theorem not_forall_isAnswered : ¬ ∀ field text : Text, IsAnswered (readValues text) ∧
    IsAnswered (readProfile text) ∧ IsAnswered (readTexts field text) := by
  intro h
  have hoverlong : IsOverlong (memberOfOnes 4301) :=
    ⟨4301, by decide, reachesInteger_memberOfOnes (by decide)⟩
  obtain ⟨count, hread⟩ := isOverlong_iff.mp hoverlong
  have hvalues := (h "values" (memberOfOnes 4301)).1
  rw [readValues, readJson, hread] at hvalues
  rcases hvalues with ⟨found, ⟨⟩⟩ | ⟨refusal, ⟨⟩, -⟩

end FormFill.Service

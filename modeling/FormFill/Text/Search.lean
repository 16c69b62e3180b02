import FormFill.Text.Basic

/-!
# Searching text

The first place where a mark stands splits a text into what comes before and what comes after. The
search may be confined: it gives up at the first character that may not be passed.
-/

namespace FormFill.Text

/-- The search below, with the characters already passed given from the end. -/
def splitAfter? (mark : Text) (passable : Char → Bool) (passed : Text) :
    Text → Option (Text × Text)
  | [] => (after? mark []).map (passed.reverse, ·)
  | c :: rest =>
    match after? mark (c :: rest) with
    | some rest => some (passed.reverse, rest)
    | none => if passable c then splitAfter? mark passable (c :: passed) rest else none

/-- The texts before and after the first place where the mark stands, if every character before it
may be passed. -/
def splitAt? (mark : Text) (passable : Char → Bool) (text : Text) : Option (Text × Text) :=
  splitAfter? mark passable [] text

theorem splitAfter?_eq {mark passed text before rest : Text} {passable : Char → Bool}
    (h : splitAfter? mark passable passed text = some (before, rest)) :
    passed.reverse ++ text = before ++ mark ++ rest := by
  induction text generalizing passed with
  | nil =>
    simp only [splitAfter?, Option.map_eq_some_iff, Prod.mk.injEq] at h
    obtain ⟨after, hafter, rfl, rfl⟩ := h
    rw [after?_eq_some_iff.mp hafter, List.append_assoc]
  | cons c text ih =>
    unfold splitAfter? at h
    split at h
    next after hafter =>
      simp only [Option.some.injEq, Prod.mk.injEq] at h
      obtain ⟨rfl, rfl⟩ := h
      rw [after?_eq_some_iff.mp hafter, List.append_assoc]
    next =>
      split at h
      · simpa using ih h
      · simp at h

/-- Nothing of the text is lost. -/
theorem eq_of_splitAt? {mark text before rest : Text} {passable : Char → Bool}
    (h : splitAt? mark passable text = some (before, rest)) : text = before ++ mark ++ rest := by
  simpa using splitAfter?_eq h

/-- The part of a text between two offsets. -/
def slice (start stop : Nat) (text : Text) : Text := (text.drop start).take (stop - start)

end FormFill.Text

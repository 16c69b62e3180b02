import FormFill.Text.LineEnds
import Mathlib.Data.List.Basic

/-!
# Texts with line feeds

A text whose lines have been made to end with line feeds goes along with the text it comes from: the
characters are the same up to the line ends. What looks at neither carriage returns nor line feeds reads
the same from both. A text without carriage returns stays as it is.
-/

namespace FormFill.Text

/-- A text and the same text with a line feed at the end of every line. -/
inductive LineFed : Text → Text → Prop where
  | nil : LineFed [] []
  | keep {c : Char} {text fed : Text} (hc : c ≠ '\r') (tail : LineFed text fed) :
    LineFed (c :: text) (c :: fed)
  | single {text fed : Text} (tail : LineFed text fed) : LineFed ('\r' :: text) ('\n' :: fed)
  | pair {text fed : Text} (tail : LineFed text fed) :
    LineFed ('\r' :: '\n' :: text) ('\n' :: fed)

theorem lineFeedsAfter_eq (done : Text) (afterReturn : Bool) (text : Text) :
    lineFeedsAfter done afterReturn text = done.reverse ++ lineFeedsAfter [] afterReturn text := by
  induction text generalizing done afterReturn with
  | nil => simp [lineFeedsAfter]
  | cons c rest ih =>
      rw [lineFeedsAfter, lineFeedsAfter]
      split
      · rw [ih ('\n' :: done), ih ['\n']]
        simp
      · split
        · exact ih done false
        · rw [ih (c :: done), ih [c]]
          simp

/-- A line feed after a carriage return belongs to the same line end. -/
theorem lineFeedsAfter_return (text : Text) :
    lineFeedsAfter [] true text =
      match text with
      | '\n' :: rest => withLineFeeds rest
      | rest => withLineFeeds rest := by
  cases text with
  | nil => rfl
  | cons c rest =>
      by_cases hfeed : c = '\n'
      · subst hfeed
        rfl
      · split
        next heq => exact absurd (List.cons.inj heq).1 hfeed
        next => simp [withLineFeeds, lineFeedsAfter, hfeed]

theorem withLineFeeds_return (text : Text) :
    withLineFeeds ('\r' :: text) = '\n' :: lineFeedsAfter [] true text := by
  rw [withLineFeeds, lineFeedsAfter, if_pos rfl, lineFeedsAfter_eq]
  rfl

theorem withLineFeeds_cons {c : Char} (hc : c ≠ '\r') (text : Text) :
    withLineFeeds (c :: text) = c :: withLineFeeds text := by
  rw [withLineFeeds, lineFeedsAfter, if_neg hc, if_neg (by simp), lineFeedsAfter_eq]
  rfl

/-- Reading a text as lines goes along with the text. -/
theorem lineFed_withLineFeeds (text : Text) : LineFed text (withLineFeeds text) := by
  induction hlength : text.length using Nat.strongRecOn generalizing text with
  | ind length ih =>
      subst hlength
      cases text with
      | nil => exact LineFed.nil
      | cons c rest =>
          by_cases hreturn : c = '\r'
          · subst hreturn
            rw [withLineFeeds_return, lineFeedsAfter_return]
            split
            next rest =>
              have hshorter : rest.length < ('\r' :: '\n' :: rest).length := by
                rw [List.length_cons, List.length_cons]
                omega
              exact LineFed.pair (ih _ hshorter rest rfl)
            next => exact LineFed.single (ih _ (by simp) _ rfl)
          · rw [withLineFeeds_cons hreturn]
            exact LineFed.keep hreturn (ih _ (by simp) rest rfl)

/-- A text without carriage returns stays as it is. -/
theorem withLineFeeds_eq_self {text : Text} (h : '\r' ∉ text) : withLineFeeds text = text := by
  induction text with
  | nil => rfl
  | cons c rest ih =>
      rw [List.mem_cons, not_or] at h
      rw [withLineFeeds_cons (Ne.symm h.1), ih h.2]

namespace LineFed

variable {text fed : Text}

theorem length_le (h : LineFed text fed) : fed.length ≤ text.length := by
  induction h with
  | nil => exact Nat.le_refl 0
  | keep _ _ ih => exact Nat.succ_le_succ ih
  | single _ ih => exact Nat.succ_le_succ ih
  | pair _ ih => exact Nat.le_succ_of_le (Nat.succ_le_succ ih)

/-- A character that ends no line is the first of both texts or of neither. -/
theorem of_cons {c : Char} (h : LineFed (c :: text) fed) (hc : c ≠ '\r') :
    ∃ rest, fed = c :: rest ∧ LineFed text rest := by
  cases h with
  | keep _ tail => exact ⟨_, rfl, tail⟩
  | single => exact absurd rfl hc
  | pair => exact absurd rfl hc

theorem exists_cons {c : Char} (h : LineFed (c :: text) fed) : ∃ d rest, fed = d :: rest := by
  cases h <;> exact ⟨_, _, rfl⟩

/-- The first characters are the same, or both end a line. -/
theorem head?_eq_or (h : LineFed text fed) :
    fed.head? = text.head? ∨ (text.head? = some '\r' ∧ fed.head? = some '\n') := by
  cases h with
  | nil => exact Or.inl rfl
  | keep => exact Or.inl rfl
  | single => exact Or.inr ⟨rfl, rfl⟩
  | pair => exact Or.inr ⟨rfl, rfl⟩

/-- What two texts begin with, as long as it holds no carriage return. -/
theorem of_append {first : Text} (h : LineFed (first ++ text) fed) (hfirst : '\r' ∉ first) :
    ∃ rest, fed = first ++ rest ∧ LineFed text rest := by
  induction first generalizing fed with
  | nil => exact ⟨fed, rfl, h⟩
  | cons c first ih =>
      rw [List.mem_cons, not_or] at hfirst
      obtain ⟨after, rfl, hafter⟩ := h.of_cons (Ne.symm hfirst.1)
      obtain ⟨rest, rfl, hrest⟩ := ih hafter hfirst.2
      exact ⟨rest, rfl, hrest⟩

theorem exists_of_append {first rest : Text} (h : LineFed text (first ++ rest))
    (hfirst : '\n' ∉ first) : ∃ after, text = first ++ after := by
  induction first generalizing text with
  | nil => exact ⟨text, rfl⟩
  | cons c first ih =>
      rw [List.mem_cons, not_or] at hfirst
      cases h with
      | keep _ tail =>
          obtain ⟨after, rfl⟩ := ih tail hfirst.2
          exact ⟨after, rfl⟩
      | single => exact absurd rfl hfirst.1
      | pair => exact absurd rfl hfirst.1

/-- A class to which no line end belongs takes the same characters off both texts. -/
theorem takeWhile_eq {p : Char → Bool} (hreturn : p '\r' = false) (hfeed : p '\n' = false)
    (h : LineFed text fed) : fed.takeWhile p = text.takeWhile p ∧
      LineFed (text.dropWhile p) (fed.dropWhile p) := by
  induction h with
  | nil => exact ⟨rfl, LineFed.nil⟩
  | @keep c _ _ hc tail ih =>
      cases hp : p c with
      | false => simpa [List.takeWhile_cons, List.dropWhile_cons, hp] using LineFed.keep hc tail
      | true => simpa [List.takeWhile_cons, List.dropWhile_cons, hp] using ih
  | single tail _ => simpa [List.takeWhile_cons, List.dropWhile_cons, hreturn, hfeed] using tail.single
  | pair tail _ => simpa [List.takeWhile_cons, List.dropWhile_cons, hreturn, hfeed] using tail.pair

/-- A class to which all line ends belong is dropped from both texts alike. -/
theorem dropWhile {p : Char → Bool} (hreturn : p '\r' = true) (hfeed : p '\n' = true)
    (h : LineFed text fed) : LineFed (text.dropWhile p) (fed.dropWhile p) := by
  induction h with
  | nil => exact LineFed.nil
  | @keep c _ _ hc tail ih =>
      cases hp : p c with
      | false => simpa [List.dropWhile_cons, hp] using LineFed.keep hc tail
      | true => simpa [List.dropWhile_cons, hp] using ih
  | single _ ih => simpa [List.dropWhile_cons, hreturn, hfeed] using ih
  | pair _ ih => simpa [List.dropWhile_cons, hreturn, hfeed] using ih

end LineFed

end FormFill.Text

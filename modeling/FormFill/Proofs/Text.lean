import FormFill.Text.Search
import Mathlib.Data.List.Basic

/-!
# Laws of texts

The beginning of a text that consists of characters of one class is determined if the next character
is of another class. A slice that covers one part of a text is this part.
-/

namespace FormFill.Text

/-- The part that two texts share before a character of another class is determined. -/
theorem eq_of_append_eq {p : Char → Bool} {first second firstRest secondRest : Text}
    (hfirst : ∀ c ∈ first, p c = true) (hsecond : ∀ c ∈ second, p c = true)
    (hfirstRest : ∀ c ∈ firstRest.head?, p c = false)
    (hsecondRest : ∀ c ∈ secondRest.head?, p c = false)
    (h : first ++ firstRest = second ++ secondRest) : first = second ∧ firstRest = secondRest := by
  rcases List.append_eq_append_iff.mp h with ⟨more, hmore, hrest⟩ | ⟨more, hmore, hrest⟩
  · cases more with
    | nil => exact ⟨by simpa using hmore.symm, by simpa using hrest⟩
    | cons c more =>
        have hclass := hsecond c (by simp [hmore])
        have hother := hfirstRest c (by simp [hrest])
        simp [hclass] at hother
  · cases more with
    | nil => exact ⟨by simpa using hmore, by simpa using hrest.symm⟩
    | cons c more =>
        have hclass := hfirst c (by simp [hmore])
        have hother := hsecondRest c (by simp [hrest])
        simp [hclass] at hother

/-- The part that two texts share before the first place of a character is determined. -/
theorem eq_of_append_cons_eq {c : Char} {first second firstRest secondRest : Text}
    (hfirst : c ∉ first) (hsecond : c ∉ second)
    (h : first ++ c :: firstRest = second ++ c :: secondRest) :
    first = second ∧ firstRest = secondRest := by
  have hpass : ∀ {text : Text}, c ∉ text → ∀ d ∈ text, (d != c) = true := by
    intro text htext d hd
    rw [bne_iff_ne]
    rintro rfl
    exact htext hd
  obtain ⟨hparts, hrests⟩ := eq_of_append_eq (hpass hfirst) (hpass hsecond) (by simp) (by simp) h
  exact ⟨hparts, (List.cons.inj hrests).2⟩

/-- The slice from the end of one part to the end of the next is the next part. -/
theorem slice_of_drop_eq {text piece rest : Text} {start : Nat}
    (h : text.drop start = piece ++ rest) : slice start (start + piece.length) text = piece := by
  rw [slice, h, Nat.add_sub_cancel_left, List.take_left]

theorem drop_of_drop_eq {text piece rest : Text} {start : Nat}
    (h : text.drop start = piece ++ rest) : text.drop (start + piece.length) = rest := by
  rw [← List.drop_drop, h, List.drop_left]

/-- Joined parts begin what is joined of more parts. -/
theorem joined_prefix (separator : Text) (parts : List Text) (last : Text) :
    joined separator parts <+: joined separator (parts ++ [last]) := by
  induction parts with
  | nil => exact List.nil_prefix
  | cons part rest ih =>
      cases rest with
      | nil => exact ⟨separator ++ last, by simp [joined]⟩
      | cons second rest =>
          exact (List.prefix_append_right_inj (part ++ separator)).mpr ih

end FormFill.Text

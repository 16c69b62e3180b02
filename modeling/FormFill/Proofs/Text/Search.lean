import FormFill.Text.Search
import Mathlib.Data.List.Infix

/-!
# Laws of searching text

A search for a mark goes on past a part of a text in which the mark does not begin. If every character
may be passed, it succeeds exactly on the texts that hold the mark.
-/

namespace FormFill.Text

variable {mark : Text} {passable : Char → Bool}

theorem after?_append (beginning rest : Text) : after? beginning (beginning ++ rest) = some rest :=
  after?_eq_some_iff.mpr rfl

theorem after?_eq_none_iff {beginning text : Text} :
    after? beginning text = none ↔ ¬beginning <+: text := by
  rw [Option.eq_none_iff_forall_ne_some]
  constructor
  · rintro h ⟨rest, rfl⟩
    exact h rest (after?_append beginning rest)
  · intro h rest hafter
    exact h ⟨rest, (after?_eq_some_iff.mp hafter).symm⟩

/-- A beginning with another first character does not match. -/
theorem after?_cons_of_ne {c d : Char} (hne : c ≠ d) (beginning text : Text) :
    after? (c :: beginning) (d :: text) = none := if_neg hne

/-- A mark does not reach up to a character that it does not hold. -/
theorem prefix_append_cons_iff {c : Char} (hmark : c ∉ mark) {first second : Text} :
    mark <+: first ++ c :: second ↔ mark <+: first := by
  constructor
  · intro h
    rcases List.prefix_or_prefix_of_prefix h (List.prefix_append first _) with hshort | ⟨more, hmore⟩
    · exact hshort
    · cases more with
      | nil => rw [← hmore, List.append_nil]
      | cons d more =>
          rw [← hmore, List.prefix_append_right_inj, List.cons_prefix_cons] at h
          obtain ⟨rfl, -⟩ := h
          refine absurd ?_ hmark
          rw [← hmore]
          exact List.mem_append_right first List.mem_cons_self
  · intro h
    exact h.trans (List.prefix_append _ _)

/-- What a search finds, seen from a text with something in front of it. -/
def prepend (front : Text) (found : Text × Text) : Text × Text := (front ++ found.1, found.2)

theorem splitAfter?_eq_map (passed text : Text) :
    splitAfter? mark passable passed text =
      (splitAt? mark passable text).map (prepend passed.reverse) := by
  unfold splitAt?
  induction text generalizing passed with
  | nil => simp [splitAfter?, prepend, Function.comp_def]
  | cons c rest ih =>
      rw [splitAfter?, splitAfter?]
      split
      · simp [prepend]
      · split
        · rw [ih, ih [c], Option.map_map]
          congr 1
          funext found
          simp [prepend]
        · rfl

theorem splitAt?_of_after? {text rest : Text} (h : after? mark text = some rest) :
    splitAt? mark passable text = some ([], rest) := by
  cases text with
  | nil => simp [splitAt?, splitAfter?, h]
  | cons c text => simp [splitAt?, splitAfter?, h]

theorem splitAt?_cons {c : Char} {rest : Text} (hmiss : after? mark (c :: rest) = none)
    (hpass : passable c = true) :
    splitAt? mark passable (c :: rest) = (splitAt? mark passable rest).map (prepend [c]) := by
  rw [splitAt?, splitAfter?, hmiss]
  exact (if_pos hpass).trans (splitAfter?_eq_map [c] rest)

/-- Up to the first place where the mark stands the search takes everything. -/
theorem splitAt?_append {text rest : Text}
    (hmiss : ∀ left, left ≠ [] → left <:+ text → after? mark (left ++ rest) = none)
    (hpass : ∀ c ∈ text, passable c = true) :
    splitAt? mark passable (text ++ rest) = (splitAt? mark passable rest).map (prepend text) := by
  induction text with
  | nil =>
      rw [List.nil_append]
      cases splitAt? mark passable rest <;> rfl
  | cons c text ih =>
      obtain ⟨hhere, hlater⟩ := List.forall_mem_cons.mp hpass
      have htail := ih (fun left hne hsuffix => hmiss left hne (hsuffix.trans (List.suffix_cons c text)))
        hlater
      have hnone : after? mark (c :: (text ++ rest)) = none :=
        hmiss (c :: text) (List.cons_ne_nil _ _) List.suffix_rfl
      rw [List.cons_append, splitAt?_cons hnone hhere, htail, Option.map_map]
      rfl

/-- The text before the first place where the mark stands is found. -/
theorem splitAt?_append_mark {text : Text} (rest : Text)
    (hmiss : ∀ left, left ≠ [] → left <:+ text → after? mark (left ++ (mark ++ rest)) = none)
    (hpass : ∀ c ∈ text, passable c = true) :
    splitAt? mark passable (text ++ (mark ++ rest)) = some (text, rest) := by
  rw [splitAt?_append hmiss hpass, splitAt?_of_after? (after?_append mark rest)]
  simp [prepend]

/-- A search finds the first place where the mark stands, and it passes every character before it. -/
theorem splitAt?_eq_some_iff {text before rest : Text} :
    splitAt? mark passable text = some (before, rest) ↔ text = before ++ (mark ++ rest) ∧
      (∀ c ∈ before, passable c = true) ∧
      ∀ left, left ≠ [] → left <:+ before → after? mark (left ++ (mark ++ rest)) = none := by
  constructor
  · intro h
    -- Where the mark begins at once, nothing is passed.
    have hhere : ∀ {text : Text}, after? mark text = some rest →
        text = [] ++ (mark ++ rest) ∧ (∀ c ∈ ([] : Text), passable c = true) ∧
          ∀ left : Text, left ≠ [] → left <:+ [] → after? mark (left ++ (mark ++ rest)) = none :=
      fun hafter => ⟨(after?_eq_some_iff.mp hafter).trans (List.nil_append _).symm, nofun,
        fun left hne hleft => absurd (List.suffix_nil.mp hleft) hne⟩
    induction text generalizing before with
    | nil =>
        rw [splitAt?, splitAfter?, Option.map_eq_some_iff] at h
        obtain ⟨after, hafter, heq⟩ := h
        cases heq
        exact hhere hafter
    | cons c text ih =>
        cases hafter : after? mark (c :: text) with
        | some after =>
            rw [splitAt?_of_after? hafter] at h
            cases h
            exact hhere hafter
        | none =>
            cases hpass : passable c with
            | false =>
                rw [splitAt?, splitAfter?, hafter] at h
                simp [hpass] at h
            | true =>
                rw [splitAt?_cons hafter hpass, Option.map_eq_some_iff] at h
                obtain ⟨⟨later, after⟩, hlater, heq⟩ := h
                cases heq
                obtain ⟨rfl, hpassed, hmiss⟩ := ih hlater
                refine ⟨rfl, List.forall_mem_cons.mpr ⟨hpass, hpassed⟩, fun left hne hleft => ?_⟩
                rcases List.suffix_cons_iff.mp hleft with rfl | hleft
                · exact hafter
                · exact hmiss left hne hleft
  · rintro ⟨rfl, hpass, hmiss⟩
    exact splitAt?_append_mark rest hmiss hpass

/-- If the last character of the mark stands nowhere else in it, no two places of the mark overlap. -/
theorem splitAt?_concat_eq_some_iff {c : Char} (hmark : c ∉ mark) {text before rest : Text} :
    splitAt? (mark ++ [c]) passable text = some (before, rest) ↔
      text = before ++ (mark ++ [c] ++ rest) ∧ (∀ d ∈ before, passable d = true) ∧
        ¬mark ++ [c] <:+: before := by
  rw [splitAt?_eq_some_iff]
  refine and_congr_right fun _ => and_congr_right fun _ => ⟨fun hmiss => ?_, fun hfree => ?_⟩
  · rintro ⟨front, back, rfl⟩
    have hnone := hmiss (mark ++ [c] ++ back) (by simp) ⟨front, by simp⟩
    rw [List.append_assoc, after?_append] at hnone
    cases hnone
  · intro left hne hleft
    rw [after?_eq_none_iff]
    intro hprefix
    rcases List.prefix_or_prefix_of_prefix hprefix (List.prefix_append left _) with hwithin | hshort
    · exact hfree (hwithin.isInfix.trans hleft.isInfix)
    · -- The mark would begin again before it has ended, with its last character inside.
      obtain ⟨more, hmore⟩ := hshort
      rcases List.eq_nil_or_concat more with rfl | ⟨more, d, rfl⟩
      · rw [← hmore, List.append_nil] at hfree
        exact hfree hleft.isInfix
      · rw [List.concat_eq_append, ← List.append_assoc] at hmore
        obtain ⟨rfl, hlast⟩ := List.append_inj' hmore rfl
        obtain rfl := List.singleton_inj.mp hlast
        have hagain : more ++ [d] <+: left ++ more ++ ([d] ++ rest) := by
          simpa [List.prefix_append_right_inj] using hprefix
        have hlength : (more ++ [d]).length ≤ (left ++ more).length := by
          have hpos := List.length_pos_of_ne_nil hne
          simp only [List.length_append, List.length_singleton]
          omega
        have hinside := List.prefix_of_prefix_length_le hagain (List.prefix_append _ _) hlength
        exact hmark (hinside.subset (by simp))

/-- A mark does not begin in a text without its first character. -/
theorem after?_append_of_not_mem {c : Char} {text left : Text} (hplain : c ∉ text)
    (hne : left ≠ []) (hleft : left <:+ text) (mark rest : Text) :
    after? (c :: mark) (left ++ rest) = none := by
  obtain ⟨d, left, rfl⟩ := List.exists_cons_of_ne_nil hne
  refine after?_cons_of_ne ?_ _ _
  rintro rfl
  exact hplain (hleft.subset List.mem_cons_self)

section Marks

/-- A text that the search for a mark passes, whatever comes after it. -/
def Passes (mark text : Text) : Prop :=
  ∀ rest, splitAt? mark (fun _ => true) (text ++ rest) =
    (splitAt? mark (fun _ => true) rest).map (prepend text)

theorem Passes.of_not_mem {c : Char} {text : Text} (hplain : c ∉ text) (mark : Text) :
    Passes (c :: mark) text := fun _ =>
  splitAt?_append (fun _ hne hleft => after?_append_of_not_mem hplain hne hleft _ _) (fun _ _ => rfl)

theorem Passes.append {first second : Text} (hfirst : Passes mark first)
    (hsecond : Passes mark second) : Passes mark (first ++ second) := by
  intro rest
  rw [List.append_assoc, hfirst, hsecond, Option.map_map]
  congr 1
  funext found
  simp [prepend]

/-- A character that the mark does not hold lets no place of the mark reach over it. -/
theorem Passes.concat {c : Char} {text : Text} (hmark : c ∉ mark) (h : ¬mark <:+: text) :
    Passes mark (text ++ [c]) := by
  refine fun rest => splitAt?_append (fun left hne hleft => ?_) fun _ _ => rfl
  rw [after?_eq_none_iff]
  intro hprefix
  obtain rfl | ⟨left, rfl, hsuffix⟩ := List.suffix_concat_iff.mp hleft
  · exact hne rfl
  · rw [List.append_assoc] at hprefix
    have hwithin := (prefix_append_cons_iff hmark).mp hprefix
    exact h (hwithin.isInfix.trans hsuffix.isInfix)

/-- After a text that the search passes the mark is found. -/
theorem Passes.splitAt?_mark {text : Text} (h : Passes mark text) (rest : Text) :
    splitAt? mark (fun _ => true) (text ++ (mark ++ rest)) = some (text, rest) := by
  rw [h, splitAt?_of_after? (after?_append mark rest)]
  simp [prepend]

/-- A search that may pass every character fails only on a text without the mark. -/
theorem splitAt?_eq_none_iff {text : Text} :
    splitAt? mark (fun _ => true) text = none ↔ ¬mark <:+: text := by
  induction text with
  | nil =>
      rw [splitAt?, splitAfter?, Option.map_eq_none_iff, after?_eq_none_iff, List.prefix_nil,
        List.infix_nil]
  | cons c text ih =>
      rw [List.infix_cons_iff, not_or, ← after?_eq_none_iff, ← ih]
      cases hafter : after? mark (c :: text) with
      | some rest => simp [splitAt?_of_after? hafter]
      | none => simp [splitAt?_cons hafter]

/-- A mark without a character stands before this character or after it. -/
theorem infix_append_cons_iff {c : Char} (hmark : c ∉ mark) {first second : Text} :
    mark <:+: first ++ c :: second ↔ mark <:+: first ∨ mark <:+: second := by
  have hprefix : ∀ first : Text, mark <+: first ++ c :: second ↔ mark <+: first :=
    fun first => prefix_append_cons_iff hmark
  induction first with
  | nil =>
      rw [List.infix_nil, ← List.prefix_nil, ← hprefix, List.nil_append, List.infix_cons_iff]
  | cons d first ih =>
      rw [List.infix_cons_iff, ← hprefix (d :: first), List.cons_append, List.infix_cons_iff, or_assoc]
      exact or_congr_right ih

/-- A mark is not found in a text without its first character. -/
theorem cons_infix_append_iff {c : Char} {first second : Text} (hplain : c ∉ first) :
    c :: mark <:+: first ++ second ↔ c :: mark <:+: second := by
  induction first with
  | nil => rfl
  | cons d first ih =>
      rw [List.mem_cons, not_or] at hplain
      rw [List.cons_append, List.infix_cons_iff, ih hplain.2, or_iff_right]
      intro h
      exact hplain.1 (List.cons_prefix_cons.mp h).1

end Marks

end FormFill.Text

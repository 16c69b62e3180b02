import FormFill.Markup.Marker
import Mathlib.Data.List.Infix

/-!
# The grammar of markers

A marker is read from a text exactly if the text begins with it and its key is admissible: free of line
feeds, of the opening `{?` and of the closing `)?}`. A marker holds no second opening, so two markers
of a text never overlap.
-/

namespace FormFill.Marker

/-- The two characters with which every marker begins. -/
def mark : Text := ['\x7b', '?']

/-- What may stand between the opening and the closing of a marker. -/
structure IsKey (key : Text) : Prop where
  oneLine : '\n' ∉ key
  noMark : ¬ mark <:+: key
  noClosing : ¬ closing <:+: key

theorem IsKey.nil : IsKey [] := by
  refine ⟨List.not_mem_nil, ?_, ?_⟩ <;> simp [mark, closing]

theorem IsKey.of_suffix {key left : Text} (h : IsKey key) (hleft : left <:+ key) : IsKey left :=
  ⟨fun hmem => h.oneLine (hleft.subset hmem),
    fun hwithin => h.noMark (hwithin.trans hleft.isInfix),
    fun hwithin => h.noClosing (hwithin.trans hleft.isInfix)⟩

theorem IsKey.tail {c : Char} {key : Text} (h : IsKey (c :: key)) : IsKey key :=
  h.of_suffix (List.suffix_cons c key)

/-- A key that is read is admissible. -/
theorem isKey_of_keyAndRest? {text key rest : Text} (h : keyAndRest? text = some (key, rest)) :
    IsKey key := by
  fun_induction keyAndRest? text generalizing key rest with
  | case1 => simp at h
  | case2 => simp at h
  | case3 => simp at h
  | case4 after =>
      simp only [Option.some.injEq, Prod.mk.injEq] at h
      obtain ⟨rfl, rfl⟩ := h
      exact IsKey.nil
  | case5 c text hline hmark hclosing key' after hread ih =>
      simp only [Option.some.injEq, Prod.mk.injEq] at h
      obtain ⟨rfl, rfl⟩ := h
      have hkey := ih hread
      have htext := keyAndRest?_eq hread
      refine ⟨?_, ?_, ?_⟩
      · simp only [List.mem_cons, not_or]
        exact ⟨fun heq => hline heq.symm, hkey.oneLine⟩
      · intro hwithin
        rcases List.infix_cons_iff.mp hwithin with hprefix | htail
        · obtain ⟨more, hmore⟩ := hprefix
          obtain ⟨rfl, rfl⟩ := List.cons.inj hmore
          exact hmark _ rfl htext
        · exact hkey.noMark htail
      · intro hwithin
        rcases List.infix_cons_iff.mp hwithin with hprefix | htail
        · obtain ⟨more, hmore⟩ := hprefix
          obtain ⟨rfl, rfl⟩ := List.cons.inj hmore
          exact hclosing _ rfl htext
        · exact hkey.noClosing htail
  | case6 => simp at h

/-- An admissible key is read up to its closing. -/
theorem keyAndRest?_append {key : Text} (h : IsKey key) (rest : Text) :
    keyAndRest? (key ++ closing ++ rest) = some (key, rest) := by
  induction key with
  | nil => rfl
  | cons c key ih =>
      have hread := ih h.tail
      rw [List.cons_append, List.cons_append, keyAndRest?, hread]
      · rintro rfl
        exact h.oneLine List.mem_cons_self
      · intro after hc htext
        subst hc
        cases key with
        | nil => simp [closing] at htext
        | cons d key =>
            obtain ⟨rfl, -⟩ := List.cons.inj htext
            exact h.noMark (List.prefix_append mark key).isInfix
      · intro after hc htext
        subst hc
        rcases key with _ | ⟨d, _ | ⟨e, key⟩⟩
        · simp [closing] at htext
        · simp [closing] at htext
        · simp only [List.cons_append, List.cons.injEq] at htext
          obtain ⟨rfl, rfl, -⟩ := htext
          exact h.noClosing (List.prefix_append closing key).isInfix

theorem afterOpening?_append (operation : Operation) (rest : Text) :
    afterOpening? (opening operation ++ rest) = some (operation, rest) := by
  cases operation <;> rfl

/-- A marker is read exactly where its text stands, provided that its key is admissible. -/
theorem read?_eq_some_iff {text rest : Text} {marker : Marker} :
    read? text = some (marker, rest) ↔ IsKey marker.key ∧ text = marker.text ++ rest := by
  constructor
  · intro h
    refine ⟨?_, eq_of_read? h⟩
    unfold read? at h
    split at h
    · simp at h
    next operation opened _ =>
      split at h
      · simp at h
      next key after hkey =>
        simp only [Option.some.injEq, Prod.mk.injEq] at h
        obtain ⟨rfl, rfl⟩ := h
        exact isKey_of_keyAndRest? hkey
  · rintro ⟨hkey, rfl⟩
    unfold read? Marker.text
    rw [List.append_assoc, List.append_assoc, afterOpening?_append]
    dsimp only
    rw [← List.append_assoc, keyAndRest?_append hkey]

/-- A text from which a marker is read begins with the mark. -/
theorem mark_prefix_of_read? {text rest : Text} {marker : Marker}
    (h : read? text = some (marker, rest)) : mark <+: text := by
  rw [eq_of_read? h]
  exact ⟨_, rfl⟩

theorem mark_prefix_cons {c : Char} {text : Text} :
    mark <+: c :: text ↔ c = '\x7b' ∧ ['?'] <+: text := by
  rw [mark, List.cons_prefix_cons, eq_comm]

/-- A mark does not begin in a text without braces. -/
theorem mark_infix_of_append {first second : Text} (hfirst : '\x7b' ∉ first)
    (h : mark <:+: first ++ second) : mark <:+: second := by
  induction first with
  | nil => exact h
  | cons c first ih =>
      rw [List.mem_cons, not_or] at hfirst
      rcases List.infix_cons_iff.mp h with hprefix | htail
      · exact absurd (mark_prefix_cons.mp hprefix).1.symm hfirst.1
      · exact ih hfirst.2 htail

/-- The mark does not stand inside an admissible key, nor where the key meets its closing. -/
theorem not_mark_infix_key_closing {key : Text} (h : IsKey key) : ¬ mark <:+: key ++ closing := by
  induction key with
  | nil => decide
  | cons c key ih =>
      intro hwithin
      rcases List.infix_cons_iff.mp hwithin with hprefix | htail
      · obtain ⟨rfl, hnext⟩ := mark_prefix_cons.mp hprefix
        cases key with
        | nil => simp [closing] at hnext
        | cons d key =>
            have hd : d = '?' := by simpa [eq_comm] using hnext
            subst hd
            exact h.noMark (List.prefix_append mark key).isInfix
      · exact ih h.tail htail

/-- The text of a marker after its first character holds no mark. -/
theorem not_mark_infix_tail {marker : Marker} (h : IsKey marker.key) :
    ¬ mark <:+: marker.text.tail := by
  have htail : marker.text.tail =
      ('?' :: (marker.operation.name ++ ['('])) ++ (marker.key ++ closing) := by
    simp [Marker.text, opening]
  have hname : '\x7b' ∉ '?' :: (marker.operation.name ++ ['(']) := by
    cases marker.operation <;> decide
  rw [htail]
  exact fun hwithin => not_mark_infix_key_closing h (mark_infix_of_append hname hwithin)

/-- No marker begins inside another one. -/
theorem read?_eq_none_inside {marker : Marker} (h : IsKey marker.key) {before after : Text}
    (htext : marker.text = before ++ after) (hbefore : before ≠ []) (hafter : after ≠ [])
    (rest : Text) : read? (after ++ rest) = none := by
  rw [Option.eq_none_iff_forall_ne_some]
  rintro ⟨found, rest'⟩ hread
  obtain ⟨c, before, rfl⟩ := List.exists_cons_of_ne_nil hbefore
  have htail : marker.text.tail = before ++ after := by rw [htext]; rfl
  have hmark := not_mark_infix_tail h
  rw [htail] at hmark
  have hlast : after.getLast hafter = '\x7d' := by
    have : marker.text.getLast? = some '\x7d' := by simp [Marker.text, closing]
    rw [htext, List.getLast?_append, List.getLast?_eq_some_getLast hafter] at this
    simpa using this
  have hprefix := mark_prefix_of_read? hread
  rcases after with _ | ⟨d, _ | ⟨e, after⟩⟩
  · exact hafter rfl
  · rw [List.getLast_singleton, (mark_prefix_cons.mp hprefix).1] at hlast
    simp at hlast
  · obtain ⟨rfl, hnext⟩ := mark_prefix_cons.mp hprefix
    have he : e = '?' := by simpa [eq_comm] using hnext
    subst he
    exact hmark ⟨before, after, by simp [mark]⟩

/-- Two markers of a text are the same, or the second begins where the first has ended. -/
theorem eq_or_after_of_append_eq {first second : Marker} (hfirst : IsKey first.key)
    (hsecond : IsKey second.key) {before after rest : Text}
    (h : first.text ++ rest = before ++ second.text ++ after) :
    (before = [] ∧ first = second ∧ rest = after) ∨
      ∃ gap, before = first.text ++ gap ∧ rest = gap ++ second.text ++ after := by
  rw [List.append_assoc] at h
  rcases List.append_eq_append_iff.mp h with ⟨gap, hbefore, hrest⟩ | ⟨inside, hinside, hafter⟩
  · exact Or.inr ⟨gap, hbefore, by rw [hrest, List.append_assoc]⟩
  · have hread : read? (inside ++ rest) = some (second, after) :=
      read?_eq_some_iff.mpr ⟨hsecond, hafter.symm⟩
    by_cases hempty : inside = []
    · subst hempty
      exact Or.inr ⟨[], by simpa using hinside.symm, by simpa using hafter.symm⟩
    · by_cases hbefore : before = []
      · subst hbefore
        rw [List.nil_append] at hinside
        have hself : read? (first.text ++ rest) = some (first, rest) :=
          read?_eq_some_iff.mpr ⟨hfirst, rfl⟩
        rw [hinside, hread] at hself
        cases hself
        exact Or.inl ⟨rfl, rfl, rfl⟩
      · rw [read?_eq_none_inside hfirst hinside hbefore hempty] at hread
        cases hread

end FormFill.Marker

import FormFill.Proofs.Marker.Grammar
import FormFill.Text.Search
import Mathlib.Data.List.Basic

/-!
# Splitting a text at its markers

Equations for the pieces of a text, and an induction that follows them: a text is empty, begins with a
marker, or begins with a character at which no marker stands. A span of a text is a place where a
marker stands; the search finds all of them because no two overlap.
-/

namespace FormFill.Marker

theorem splitAfter_of_read? {text rest : Text} {marker : Marker} (done : List Piece)
    (hread : read? text = some (marker, rest)) :
    splitAfter done text = splitAfter (.marker marker :: done) rest := by
  rw [splitAfter]
  split
  next found rest' hread' =>
    rw [hread] at hread'
    cases hread'
    rfl
  next hnone =>
    rw [hread] at hnone
    cases hnone

theorem splitAfter_nil (done : List Piece) : splitAfter done [] = done.reverse := by
  rw [splitAfter]
  rfl

theorem splitAfter_of_read?_eq_none {c : Char} {text : Text} (done : List Piece)
    (hnone : read? (c :: text) = none) :
    splitAfter done (c :: text) = splitAfter (.plain c :: done) text := by
  rw [splitAfter]
  split
  next found rest hread =>
    rw [hread] at hnone
    cases hnone
  next => rfl

/-- Pieces found earlier stay in front of those of the rest. -/
theorem splitAfter_eq (done : List Piece) (text : Text) :
    splitAfter done text = done.reverse ++ split text := by
  induction hlength : text.length using Nat.strongRecOn generalizing done text with
  | ind length ih =>
      subst hlength
      unfold split
      cases hread : read? text with
      | some found =>
          obtain ⟨marker, rest⟩ := found
          have hrest := length_lt_of_read? hread
          rw [splitAfter_of_read? done hread, splitAfter_of_read? [] hread,
            ih _ hrest _ _ rfl, ih _ hrest [.marker marker] _ rfl]
          simp
      | none =>
          cases text with
          | nil => simp [splitAfter_nil]
          | cons c text =>
              have hrest : text.length < (c :: text).length := by simp
              rw [splitAfter_of_read?_eq_none done hread, splitAfter_of_read?_eq_none [] hread,
                ih _ hrest _ _ rfl, ih _ hrest [.plain c] _ rfl]
              simp

@[simp]
theorem split_nil : split [] = [] := splitAfter_nil []

/-- A marker at the beginning is the first piece. -/
theorem split_marker {marker : Marker} (hkey : IsKey marker.key) (rest : Text) :
    split (marker.text ++ rest) = .marker marker :: split rest := by
  rw [split, splitAfter_of_read? [] (read?_eq_some_iff.mpr ⟨hkey, rfl⟩), splitAfter_eq]
  rfl

/-- A character at which no marker stands is a piece of its own. -/
theorem split_plain {c : Char} {rest : Text} (hnone : read? (c :: rest) = none) :
    split (c :: rest) = .plain c :: split rest := by
  rw [split, splitAfter_of_read?_eq_none [] hnone, splitAfter_eq]
  rfl

/-- Induction along the pieces of a text. -/
theorem pieceInduction {motive : Text → Prop} (nil : motive [])
    (marker : ∀ found : Marker, ∀ rest, IsKey found.key → motive rest →
      motive (found.text ++ rest))
    (plain : ∀ c rest, read? (c :: rest) = none → motive rest → motive (c :: rest))
    (text : Text) : motive text := by
  induction hlength : text.length using Nat.strongRecOn generalizing text with
  | ind length ih =>
      subst hlength
      cases hread : read? text with
      | some found =>
          obtain ⟨found, rest⟩ := found
          obtain ⟨hkey, htext⟩ := read?_eq_some_iff.mp hread
          rw [htext]
          exact marker found rest hkey (ih _ (length_lt_of_read? hread) rest rfl)
      | none =>
          cases text with
          | nil => exact nil
          | cons c rest => exact plain c rest hread (ih _ (by simp) rest rfl)

/-- The pieces put together give the text back. -/
theorem flatMap_text_split (text : Text) : (split text).flatMap Piece.text = text := by
  induction text using pieceInduction with
  | nil => rw [split_nil, List.flatMap_nil]
  | marker found rest hkey ih => rw [split_marker hkey, List.flatMap_cons, ih, Piece.text]
  | plain c rest hnone ih => rw [split_plain hnone, List.flatMap_cons, ih]; rfl

/-- A marker splits the text that it stands in: what comes before it and what comes after it have the
pieces that they have alone. -/
theorem split_append_marker {marker : Marker} (hkey : IsKey marker.key) (before after : Text) :
    split (before ++ marker.text ++ after) = split before ++ .marker marker :: split after := by
  generalize htext : before ++ marker.text ++ after = text
  induction text using pieceInduction generalizing before with
  | nil =>
      have hnil := congrArg List.length htext
      simp [Marker.text, opening] at hnil
  | marker found rest hfound ih =>
      rcases eq_or_after_of_append_eq hfound hkey htext.symm with
        ⟨rfl, rfl, rfl⟩ | ⟨gap, rfl, hrest⟩
      · rw [split_marker hfound, split_nil, List.nil_append]
      · rw [split_marker hfound, split_marker hfound, ih gap hrest.symm, List.cons_append]
  | plain c rest hnone ih =>
      cases before with
      | nil =>
          rw [read?_eq_some_iff.mpr ⟨hkey, htext.symm⟩] at hnone
          cases hnone
      | cons d before =>
          obtain ⟨rfl, hrest⟩ := List.cons.inj htext
          -- No marker begins here in the whole text, so none does in the part before the marker.
          have hbefore : read? (d :: before) = none := by
            rw [Option.eq_none_iff_forall_ne_some]
            rintro ⟨found, more⟩ hread
            obtain ⟨hfound, hmore⟩ := read?_eq_some_iff.mp hread
            have hwhole : d :: rest = found.text ++ (more ++ marker.text ++ after) := by
              rw [← htext, hmore]
              simp
            rw [read?_eq_some_iff.mpr ⟨hfound, hwhole⟩] at hnone
            cases hnone
          rw [split_plain hnone, split_plain hbefore, ih before hrest, List.cons_append]

@[simp]
theorem all_nil : all [] = [] := by
  rw [all, split_nil]
  rfl

theorem all_marker {marker : Marker} (hkey : IsKey marker.key) (rest : Text) :
    all (marker.text ++ rest) = marker :: all rest := by
  rw [all, split_marker hkey]
  rfl

theorem all_plain {c : Char} {rest : Text} (hnone : read? (c :: rest) = none) :
    all (c :: rest) = all rest := by
  rw [all, split_plain hnone]
  rfl

theorem all_append_marker {marker : Marker} (hkey : IsKey marker.key) (before after : Text) :
    all (before ++ marker.text ++ after) = all before ++ marker :: all after := by
  rw [all, split_append_marker hkey, List.filterMap_append]
  rfl

/-- The markers of a text are those that stand anywhere in it. -/
theorem mem_all_iff {text : Text} {marker : Marker} :
    marker ∈ all text ↔ IsKey marker.key ∧ marker.text <:+: text := by
  induction text using pieceInduction with
  | nil => simp [all, List.infix_nil, Marker.text, opening]
  | marker found rest hkey ih =>
      rw [all_marker hkey, List.mem_cons, ih]
      constructor
      · rintro (rfl | ⟨hmarker, hwithin⟩)
        · exact ⟨hkey, (List.prefix_append marker.text rest).isInfix⟩
        · exact ⟨hmarker, hwithin.trans (List.suffix_append found.text rest).isInfix⟩
      · -- Markers do not overlap, so this one is the first or stands after it.
        rintro ⟨hmarker, before, after, htext⟩
        rcases eq_or_after_of_append_eq hkey hmarker htext.symm with
          ⟨-, hfound, -⟩ | ⟨gap, -, hrest⟩
        · exact Or.inl hfound.symm
        · exact Or.inr ⟨hmarker, gap, after, hrest.symm⟩
  | plain c rest hnone ih =>
      rw [all_plain hnone, ih]
      refine and_congr_right fun hmarker => ⟨fun hwithin => ?_, fun hwithin => ?_⟩
      · exact hwithin.trans (List.suffix_cons c rest).isInfix
      · rcases List.infix_cons_iff.mp hwithin with ⟨after, hafter⟩ | hrest
        · rw [read?_eq_some_iff.mpr ⟨hmarker, hafter.symm⟩] at hnone
          cases hnone
        · exact hrest

/-- The keys of a part of a text are keys of the text. -/
theorem keys_subset_of_within {part text : Text} (h : part <:+: text) : keys part ⊆ keys text := by
  intro key hmem
  obtain ⟨marker, hmarker, rfl⟩ := List.mem_map.mp hmem
  obtain ⟨hkey, hwithin⟩ := mem_all_iff.mp hmarker
  exact List.mem_map_of_mem (mem_all_iff.mpr ⟨hkey, hwithin.trans h⟩)

theorem isSome_afterOpening?_iff {text : Text} :
    (afterOpening? text).isSome = true ↔ ∃ operation, opening operation <+: text := by
  constructor
  · intro h
    obtain ⟨⟨operation, rest⟩, hopening⟩ := Option.isSome_iff_exists.mp h
    exact ⟨operation, rest, (afterOpening?_eq hopening).symm⟩
  · rintro ⟨operation, rest, rfl⟩
    rw [afterOpening?_append]
    rfl

/-- A text holds the opening of a marker if it stands anywhere in it. -/
theorem occursIn_iff {text : Text} :
    occursIn text = true ↔ ∃ operation, opening operation <:+: text := by
  induction text with
  | nil => simp [occursIn, List.infix_nil, opening]
  | cons c text ih =>
      rw [occursIn, Bool.or_eq_true, isSome_afterOpening?_iff, ih]
      simp only [List.infix_cons_iff, exists_or]

/-- A text in which a marker stands holds the opening of a marker. -/
theorem occursIn_of_within {text : Text} {marker : Marker} (h : marker.text <:+: text) :
    occursIn text = true := by
  rw [occursIn_iff]
  refine ⟨marker.operation, List.IsInfix.trans ?_ h⟩
  rw [Marker.text, List.append_assoc]
  exact (List.prefix_append _ _).isInfix

theorem occursIn_of_firstKey? {text key : Text} (h : firstKey? text = some key) :
    occursIn text = true := by
  unfold firstKey? at h
  split at h
  · cases h
  next first rest hall =>
    have hmem : first ∈ all text := by rw [hall]; exact List.mem_cons_self
    exact occursIn_of_within (mem_all_iff.mp hmem).2

/-- A text has a first key if it has a marker and the key of the first one is not empty. -/
theorem isSome_firstKey?_iff {text : Text} : (firstKey? text).isSome = true ↔
    ∃ marker rest, all text = marker :: rest ∧ marker.key ≠ [] := by
  rw [firstKey?]
  cases all text with
  | nil => simp
  | cons first rest => simp

theorem mem_keys_of_firstKey? {text key : Text} (h : firstKey? text = some key) :
    key ∈ keys text := by
  unfold firstKey? at h
  split at h
  · cases h
  next first rest hall =>
    simp only [Option.ite_none_left_eq_some, Option.some.injEq] at h
    rw [keys, hall, List.map_cons, h.2]
    exact List.mem_cons_self

/-- The first marker of a text stands after text that holds none. -/
theorem exists_of_all_cons {text : Text} {marker : Marker} {rest : List Marker}
    (h : all text = marker :: rest) : IsKey marker.key ∧
      ∃ before after, text = before ++ marker.text ++ after ∧ all before = [] := by
  induction text using pieceInduction with
  | nil =>
      rw [all_nil] at h
      cases h
  | marker found text hfound _ =>
      rw [all_marker hfound, List.cons.injEq] at h
      obtain ⟨rfl, -⟩ := h
      exact ⟨hfound, [], text, rfl, all_nil⟩
  | plain c text hnone ih =>
      rw [all_plain hnone] at h
      obtain ⟨hkey, before, after, rfl, hbefore⟩ := ih h
      refine ⟨hkey, c :: before, after, rfl, ?_⟩
      -- The character adds no marker to the whole text, so it adds none to what is before the marker.
      have hwhole := all_append_marker hkey (c :: before) after
      rw [List.cons_append, List.cons_append, all_plain hnone, all_append_marker hkey,
        hbefore] at hwhole
      exact List.append_left_eq_self.mp hwhole.symm

/-- The characters from `start` up to, not including, `stop` are those of a marker. -/
structure IsSpan (text : Text) (start stop : Nat) (marker : Marker) : Prop where
  key : IsKey marker.key
  stop_le : stop ≤ text.length
  slice_eq : Text.slice start stop text = marker.text

theorem text_ne_nil (marker : Marker) : marker.text ≠ [] := by
  simp [Marker.text, opening]

/-- A span cuts the text into what comes before the marker, the marker and what comes after. -/
theorem isSpan_iff {text : Text} {start stop : Nat} {marker : Marker} :
    IsSpan text start stop marker ↔ ∃ before after, text = before ++ marker.text ++ after ∧
      IsKey marker.key ∧ start = before.length ∧ stop = start + marker.text.length := by
  constructor
  · rintro ⟨hkey, hstop, hslice⟩
    have hlength := congrArg List.length hslice
    have hpos := List.length_pos_of_ne_nil marker.text_ne_nil
    simp only [Text.slice, List.length_take, List.length_drop] at hlength
    refine ⟨text.take start, text.drop stop, ?_, hkey, ?_, ?_⟩
    · rw [← hslice, Text.slice, List.append_assoc]
      have hdrop : text.drop stop = (text.drop start).drop (stop - start) := by
        rw [List.drop_drop]
        congr 1
        omega
      rw [hdrop, List.take_append_drop, List.take_append_drop]
    · rw [List.length_take]
      omega
    · omega
  · rintro ⟨before, after, rfl, hkey, rfl, rfl⟩
    refine ⟨hkey, ?_, ?_⟩
    · simp only [List.length_append]
      omega
    · simp [Text.slice, List.append_assoc]

end FormFill.Marker

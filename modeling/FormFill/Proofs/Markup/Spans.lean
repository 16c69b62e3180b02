import FormFill.Proofs.Markup.Outermost
import Mathlib.Algebra.Group.Nat.Even
import Mathlib.Data.List.TakeWhile

/-!
# The spans of elements

For any requested names, also for names that begin one another, for the empty name and for no names at
all, the elements of a text are spans of it, one after the other, and each of them is written in the text
as its parts say: its opening tag, which ends at the first `>` outside quotes, and for an element that
does not close itself the body and a closing tag of the same name.
-/

namespace FormFill

namespace Tag

variable {names : List Text}

/-- A text in which every quote is closed and every `>` stands inside quotes. -/
structure IsEnclosed (text : Text) : Prop where
  closed : Even (text.count '"')
  quoted : ∀ before after, text = before ++ '>' :: after → ¬Even (before.count '"')

theorem forall_split_cons {c mark : Char} {text : Text} {p : Text → Prop} :
    (∀ before after, c :: text = before ++ mark :: after → p before) ↔
      (c = mark → p []) ∧ ∀ before after, text = before ++ mark :: after → p (c :: before) := by
  constructor
  · intro h
    refine ⟨?_, fun before after htext => h (c :: before) after (by rw [htext, List.cons_append])⟩
    rintro rfl
    exact h [] text rfl
  · rintro ⟨hhere, hlater⟩ before after htext
    cases before with
    | nil => exact hhere (List.cons.inj htext).1
    | cons d before =>
        obtain ⟨rfl, hrest⟩ := List.cons.inj htext
        exact hlater before after hrest

/-- Inside a tag the number of quotes so far says whether a character is inside quotes. -/
theorem isInside_iff {quoted : Bool} {text : Text} :
    isInside quoted text = true ↔ (Even (text.count '"') ↔ quoted = false) ∧
      ∀ before after, text = before ++ '>' :: after → (Even (before.count '"') ↔ quoted = true) := by
  induction text generalizing quoted with
  | nil => cases quoted <;> simp [isInside]
  | cons c text ih =>
      rw [isInside, forall_split_cons]
      by_cases hquote : c = '"'
      · subst hquote
        cases quoted <;> simp [ih, Nat.even_add_one]
      · have hcount : ∀ before : Text, (c :: before).count '"' = before.count '"' := fun before =>
          List.count_cons_of_ne hquote
        rw [if_neg hquote]
        simp only [hcount]
        by_cases hend : c = '>'
        · cases quoted <;> simp [hend, ih]
        · cases quoted <;> simp [hend, ih]

theorem isInside_iff_isEnclosed {text : Text} : isInside false text = true ↔ IsEnclosed text := by
  rw [isInside_iff]
  constructor
  · rintro ⟨hclosed, hquoted⟩
    refine ⟨hclosed.mpr rfl, fun before after htext heven => ?_⟩
    cases (hquoted before after htext).mp heven
  · rintro ⟨hclosed, hquoted⟩
    refine ⟨iff_of_true hclosed rfl, fun before after htext => ?_⟩
    exact iff_of_false (hquoted before after htext) Bool.false_ne_true

/-- A tag that closes itself ends with a slash, up to blanks. -/
theorem eq_of_ownClosing? {tag : Tag} {attributes : Text} (h : tag.ownClosing? = some attributes) :
    ∃ blanks, (∀ c ∈ blanks, Text.isBlank c = true) ∧
      tag.attributes = attributes ++ '/' :: blanks := by
  unfold ownClosing? at h
  split at h
  next hlast =>
    cases h
    refine ⟨(tag.attributes.reverse.takeWhile Text.isBlank).reverse, fun c hc => ?_, ?_⟩
    · exact List.mem_takeWhile_imp (List.mem_reverse.mp hc)
    · have htrimmed : (Text.trimRight tag.attributes).dropLast ++ ['/'] =
          Text.trimRight tag.attributes := List.dropLast_append_getLast? '/' hlast
      rw [← List.singleton_append, ← List.append_assoc, htrimmed, Text.trimRight,
        ← List.reverse_append, List.takeWhile_append_dropWhile, List.reverse_reverse]
  next => cases h

/-- How a tag with one of some names is read from a text: it stands there and ends at the first `>`
outside quotes. -/
structure IsReadFrom (names : List Text) (text : Text) (tag : Tag) (rest : Text) : Prop where
  read : read? names text = some (tag, rest)
  text_eq : text = tag.text ++ rest
  enclosed : IsEnclosed tag.attributes
  first : ∀ before after, tag.attributes ++ '>' :: rest = before ++ '>' :: after →
    IsEnclosed before → before = tag.attributes ∧ after = rest

theorem isReadFrom_of_read? {text rest : Text} {tag : Tag}
    (h : read? names text = some (tag, rest)) : IsReadFrom names text tag rest := by
  have hinside := (isWhole_of_read? h).2.inside
  refine ⟨h, eq_of_read? h, isInside_iff_isEnclosed.mp hinside, fun before after hsame hbefore => ?_⟩
  exact attributes_eq_of_append_eq (isInside_iff_isEnclosed.mpr hbefore) hinside hsame.symm

end Tag

namespace Element

open Tag

variable {names : List Text}

/-- The closing tag that is found is read where it stands. -/
theorem read?_of_closing? {name text rest : Text} {depth passed length : Nat} {close : Tag}
    (h : closing? name depth passed text = some (length, close, rest)) :
    read? [name] (close.text ++ rest) = some (close, rest) := by
  fun_induction closing? name depth passed text with
  | case1 => cases h
  | case2 depth passed text gap tag' rest' hfind here hclosing hdepth =>
      simp only [Option.some.injEq, Prod.mk.injEq] at h
      obtain ⟨-, rfl, rfl⟩ := h
      exact read?_of_find? hfind
  | case3 depth passed text gap tag' rest' hfind here hclosing hdepth ih => exact ih h
  | case4 depth passed text gap tag' rest' hfind here hclosing hown ih => exact ih h
  | case5 depth passed text gap tag' rest' hfind here hclosing hown ih => exact ih h

/-- The names that are looked for when these are requested: without any, the empty name. -/
def requested (names : List Text) : List Text := if names.isEmpty then [[]] else names

/-- How an element is written in a text that is searched for some names. -/
structure IsSpelled (names : List Text) (text : Text) (element : Element) : Prop where
  tag_mem : element.tag ∈ names
  start_lt_stop : element.start < element.stop
  stop_le : element.stop ≤ text.length
  /-- An element with a body is its opening tag, the body and a closing tag of the same name. -/
  pair : element.selfClosing = false → ∃ close : Tag, close.closing = true ∧
    close.name = element.tag ∧
    IsReadFrom names (text.drop element.start) (openingTag element.tag element.attributes)
      (element.body ++ close.text ++ text.drop element.stop) ∧
    IsReadFrom [element.tag] (close.text ++ text.drop element.stop) close
      (text.drop element.stop) ∧
    Text.slice element.start element.stop text =
      '<' :: (element.tag ++ element.attributes ++ '>' :: (element.body ++ close.text))
  /-- An element that closes itself is one tag, with a slash at its end up to blanks. -/
  own : element.selfClosing = true → element.body = [] ∧
    ∃ blanks, (∀ c ∈ blanks, Text.isBlank c = true) ∧
      IsReadFrom names (text.drop element.start)
        (openingTag element.tag (element.attributes ++ '/' :: blanks)) (text.drop element.stop) ∧
      Text.slice element.start element.stop text =
        '<' :: (element.tag ++ element.attributes ++ '/' :: (blanks ++ ['>']))

/-- A part of a text that is not empty ends inside the text. -/
theorem add_length_le_of_drop_eq {text piece rest : Text} {start : Nat} (hpiece : 0 < piece.length)
    (h : text.drop start = piece ++ rest) : start + piece.length ≤ text.length := by
  have hlength := congrArg List.length h
  rw [List.length_drop, List.length_append] at hlength
  omega

/-- At a tag that is found the text goes on with the tag and the rest. -/
theorem drop_start_of_find? {whole text gap rest : Text} {offset : Nat} {tag : Tag}
    (hwhole : whole.drop offset = text) (hfind : find? names text = some (gap, tag, rest)) :
    whole.drop (offset + gap.length) = tag.text ++ rest := by
  rw [eq_of_find? hfind, List.append_assoc] at hwhole
  exact Text.drop_of_drop_eq hwhole

theorem openingTag_eq {tag : Tag} (hkind : tag.closing = false) :
    openingTag tag.name tag.attributes = tag := by
  rw [openingTag, ← hkind]

theorem isSpelled_own {whole text gap rest attributes : Text} {offset : Nat} {tag : Tag}
    (hwhole : whole.drop offset = text) (hfind : find? names text = some (gap, tag, rest))
    (hkind : tag.closing = false) (hown : tag.ownClosing? = some attributes) :
    IsSpelled names whole ⟨tag.name, attributes, [], true, offset + gap.length,
      offset + gap.length + tag.text.length⟩ := by
  have hread := read?_of_find? hfind
  have hdrop := drop_start_of_find? hwhole hfind
  obtain ⟨blanks, hblanks, hattributes⟩ := eq_of_ownClosing? hown
  exact {
    tag_mem := (isWhole_of_read? hread).1
    start_lt_stop := Nat.lt_add_of_pos_right tag.length_pos
    stop_le := add_length_le_of_drop_eq tag.length_pos hdrop
    pair := nofun
    own := fun _ => by
      refine ⟨rfl, blanks, hblanks, ?_, ?_⟩
      · rw [← hattributes, openingTag_eq hkind, Text.drop_of_drop_eq hdrop, hdrop]
        exact isReadFrom_of_read? hread
      · rw [Text.slice_of_drop_eq hdrop, Tag.text, hkind, hattributes]
        simp }

theorem isSpelled_pair {whole text gap rest inside after : Text} {offset : Nat} {tag close : Tag}
    (hwhole : whole.drop offset = text) (hfind : find? names text = some (gap, tag, rest))
    (hkind : tag.closing = false)
    (hclose : closing? tag.name 1 0 rest = some (inside.length, close, after))
    (hrest : rest = inside ++ close.text ++ after) :
    IsSpelled names whole ⟨tag.name, tag.attributes, inside, false, offset + gap.length,
      offset + gap.length + tag.text.length + inside.length + close.text.length⟩ := by
  have hread := read?_of_find? hfind
  have hlast := read?_of_closing? hclose
  have hdrop := drop_start_of_find? hwhole hfind
  have hpiece : whole.drop (offset + gap.length) = (tag.text ++ inside ++ close.text) ++ after := by
    rw [hdrop, hrest]
    simp
  have hstop : offset + gap.length + tag.text.length + inside.length + close.text.length =
      offset + gap.length + (tag.text ++ inside ++ close.text).length := by
    simp only [List.length_append, Nat.add_assoc]
  have hpos : 0 < (tag.text ++ inside ++ close.text).length := by
    have := tag.length_pos
    simp only [List.length_append]
    omega
  rw [hstop]
  exact {
    tag_mem := (isWhole_of_read? hread).1
    start_lt_stop := Nat.lt_add_of_pos_right hpos
    stop_le := add_length_le_of_drop_eq hpos hpiece
    pair := fun _ => by
      refine ⟨close, (eq_of_closing? hclose).1, ?_, ?_, ?_, ?_⟩
      · exact (read?_singleton_eq_some_iff.mp hlast).1.1
      · rw [Text.drop_of_drop_eq hpiece, openingTag_eq hkind, hdrop, ← hrest]
        exact isReadFrom_of_read? hread
      · rw [Text.drop_of_drop_eq hpiece]
        exact isReadFrom_of_read? hlast
      · rw [Text.slice_of_drop_eq hpiece, Tag.text, hkind]
        simp
    own := nofun }

theorem isSpelled_of_mem_allFrom (whole : Text) (offset : Nat) (text : Text)
    (hwhole : whole.drop offset = text) :
    ∀ element ∈ allFrom names offset text, IsSpelled names whole element := by
  fun_induction allFrom names offset text with
  | case1 => simp
  | case2 offset text gap tag rest hfind start inside hclosing ih =>
      exact ih (drop_of_find? hwhole hfind)
  | case3 offset text gap tag rest hfind start inside hclosing attributes hown ih =>
      refine List.forall_mem_cons.mpr ⟨?_, ih (drop_of_find? hwhole hfind)⟩
      exact isSpelled_own hwhole hfind (Bool.eq_false_iff.mpr hclosing) hown
  | case4 offset text gap tag rest hfind start inside hclosing hown hclose ih =>
      exact ih (drop_of_find? hwhole hfind)
  | case5 offset text gap tag rest hfind start begins hclosing hown length close after hclose stop
      ih =>
      obtain ⟨-, inside, hrest, hlength⟩ := eq_of_closing? hclose
      rw [Nat.zero_add] at hlength
      subst hlength
      have hbody : rest.take inside.length = inside := by
        rw [hrest, List.append_assoc, List.take_left]
      have hdrop : whole.drop begins = inside ++ (close.text ++ after) := by
        rw [drop_of_find? hwhole hfind, hrest, List.append_assoc]
      rw [hbody]
      refine List.forall_mem_cons.mpr
        ⟨?_, ih (Text.drop_of_drop_eq (Text.drop_of_drop_eq hdrop))⟩
      exact isSpelled_pair hwhole hfind (Bool.eq_false_iff.mpr hclosing) hclose hrest

/-- What the search for elements with any requested names comes to in a text. -/
structure IsSegmented (names : List Text) (text : Text) : Prop where
  /-- The elements come one after the other. -/
  ordered : (all names text).Pairwise fun first second => first.stop ≤ second.start
  /-- Each of them is a span of the text that is written as its parts say. -/
  spelled : ∀ element ∈ all names text, IsSpelled (requested names) text element
  /-- Every tag, wherever it is read, ends at the first `>` outside quotes. -/
  ends : ∀ offset tag rest, read? (requested names) (text.drop offset) = some (tag, rest) →
    IsReadFrom (requested names) (text.drop offset) tag rest

/-- The elements of a text are disjoint spans of it that spell them out. -/
theorem all_isSegmented (names : List Text) (text : Text) : IsSegmented names text where
  ordered := (pairwise_allFrom (requested names) 0 text).1
  spelled := isSpelled_of_mem_allFrom text 0 text rfl
  ends := fun _ _ _ => isReadFrom_of_read?

end Element

end FormFill

import FormFill.Markup.Attribute
import FormFill.Proofs.Text
import FormFill.Proofs.Text.Search

/-!
# Searching for attributes

The searches for an attribute differ in what they read behind its quote and in how far they go, and pass
over a text in one way. They do not know which of the quotes begin a value, so they go by the parts between
the quotes: an attribute is read behind the first part that ends with its name and an equals sign.
-/

namespace FormFill.Attribute

variable {name : Text} {passable : Char → Bool} {value? : Text → Option Text}

/-- The search for an attribute up to the first character that may not be passed. What comes after the
quote of the attribute is read by `value?`; where this fails the search goes on. -/
def search (name : Text) (passable : Char → Bool) (value? : Text → Option Text)
    (before : Option Char) : Text → Option Text
  | [] => none
  | c :: rest =>
    (if mayBegin before then (Text.after? (opening name) (c :: rest)).bind value? else none).or
      (if passable c then search name passable value? (some c) rest else none)

/-- What stands before the next quote. -/
def quoted? (text : Text) : Option Text :=
  (Text.splitAt? ['"'] (fun _ => true) text).map (·.1)

/-- The key of the marker with which a value begins and ends. -/
def filling? (text : Text) : Option Text :=
  (Marker.afterOpening? text).bind fun opened =>
    (Text.splitAt? (Marker.closing ++ ['"']) (· != '\n') opened.2).map (·.1)

theorem valueHere?_eq (name text : Text) :
    valueHere? name text = (Text.after? (opening name) text).bind quoted? := by
  rw [valueHere?]
  cases Text.after? (opening name) text with
  | none => rfl
  | some value =>
      change (Text.splitAt? ['"'] _ value).bind _ = quoted? value
      rw [quoted?]
      cases Text.splitAt? ['"'] (fun _ => true) value <;> rfl

theorem markerHere?_eq (name text : Text) :
    markerHere? name text = (Text.after? (opening name) text).bind filling? := by
  rw [markerHere?]
  cases Text.after? (opening name) text with
  | none => rfl
  | some value =>
      change (Marker.afterOpening? value).bind _ = filling? value
      rw [filling?]
      cases Marker.afterOpening? value with
      | none => rfl
      | some opened =>
          change (Text.splitAt? (Marker.closing ++ ['"']) _ opened.2).bind _ = _
          rw [Option.bind_some]
          cases Text.splitAt? (Marker.closing ++ ['"']) (· != '\n') opened.2 <;> rfl

theorem find?_eq_search (before : Option Char) (text : Text) :
    find? name before text = search name (fun _ => true) quoted? before text := by
  induction text generalizing before with
  | nil => rfl
  | cons c rest ih =>
      rw [find?, search, valueHere?_eq, ih, if_pos rfl]
      split
      next value hvalue => rw [hvalue, Option.some_or]
      next hnone => rw [hnone, Option.none_or]

theorem findMarker?_eq_search (before : Option Char) (text : Text) :
    findMarker? name before text = search name (fun _ => true) filling? before text := by
  induction text generalizing before with
  | nil => rfl
  | cons c rest ih =>
      rw [findMarker?, search, markerHere?_eq, ih, if_pos rfl]
      split
      next key hkey => rw [hkey, Option.some_or]
      next hnone => rw [hnone, Option.none_or]

theorem findMarkerInTag?_eq_search (before : Option Char) (text : Text) :
    findMarkerInTag? name before text = search name (· != '>') filling? before text := by
  induction text generalizing before with
  | nil => rfl
  | cons c rest ih =>
      rw [findMarkerInTag?, search, markerHere?_eq, ih]
      split
      next key hkey => rw [hkey, Option.some_or]
      next hnone =>
        rw [hnone, Option.none_or]
        by_cases hend : c = '>'
        · rw [if_pos hend, if_neg (by simp [hend])]
        · rw [if_neg hend, if_pos (by simpa using hend)]

/-- Whether a part of a text that follows the character `before` ends with a name and an equals sign, and
the name is not continued to the left. -/
def endsIn (name : Text) (before : Option Char) : Text → Bool
  | [] => false
  | c :: rest => (mayBegin before && decide (c :: rest = name ++ ['='])) || endsIn name (some c) rest

theorem endsIn_iff {before : Option Char} {part : Text} :
    endsIn name before part = true ↔ ∃ front, part = front ++ (name ++ ['=']) ∧
      mayBegin (front.getLast?.or before) = true := by
  induction part generalizing before with
  | nil => simp [endsIn]
  | cons c part ih =>
      rw [endsIn, Bool.or_eq_true, Bool.and_eq_true, decide_eq_true_eq, ih]
      constructor
      · rintro (⟨hbegin, hpart⟩ | ⟨front, rfl, hbegin⟩)
        · exact ⟨[], hpart, hbegin⟩
        · refine ⟨c :: front, rfl, ?_⟩
          cases hlast : front.getLast? <;> simpa [List.getLast?_cons, hlast] using hbegin
      · rintro ⟨front, hpart, hbegin⟩
        cases front with
        | nil => exact Or.inl ⟨hbegin, hpart⟩
        | cons d front =>
            obtain ⟨rfl, rfl⟩ := List.cons.inj hpart
            refine Or.inr ⟨front, rfl, ?_⟩
            cases hlast : front.getLast? <;> simpa [List.getLast?_cons, hlast] using hbegin

theorem endsIn_of_not_mem {part : Text} (hpart : '=' ∉ part) (before : Option Char) :
    endsIn name before part = false := by
  rw [Bool.eq_false_iff, Ne, endsIn_iff]
  rintro ⟨front, rfl, -⟩
  simp at hpart

/-- In front of a quote the opening of an attribute is the whole part before the quote. -/
theorem after?_opening_append_quote (hname : '"' ∉ name) {part : Text} (hpart : '"' ∉ part)
    (rest : Text) : Text.after? (opening name) (part ++ '"' :: rest) =
      if part = name ++ ['='] then some rest else none := by
  have hopening : ∀ after, opening name ++ after = (name ++ ['=']) ++ '"' :: after := by
    simp [opening]
  split
  next heq => rw [heq, ← hopening, Text.after?_append]
  next hne =>
    rw [Option.eq_none_iff_forall_ne_some]
    intro after hafter
    have htext := Text.after?_eq_some_iff.mp hafter
    rw [hopening] at htext
    exact hne (Text.eq_of_append_cons_eq hpart (by simp [hname]) htext).1

/-- A search reaches the quote at the end of a part if it may pass the whole part. It reads what is behind
the quote if the part ends with the name and an equals sign, and else it goes on there. -/
theorem search_append_quote (hname : '"' ∉ name) (hpass : ∀ c, c ≠ '>' → passable c = true)
    (hwhole : '>' ∉ name) {part : Text} (hpart : '"' ∉ part) (before : Option Char) (rest : Text) :
    search name passable value? before (part ++ '"' :: rest) =
      if part.all passable then
        (if endsIn name before part then value? rest else none).or
          (search name passable value? (some '"') rest)
      else none := by
  -- The name and the equals sign may be passed, so they do not stand around the end of a search.
  have hopening : ∀ part, part = name ++ ['='] → part.all passable = true := by
    rintro part rfl
    rw [List.all_eq_true]
    refine fun c hc => hpass c ?_
    rintro rfl
    simp [hwhole] at hc
  induction part generalizing before with
  | nil =>
      have hnone := after?_opening_append_quote hname List.not_mem_nil rest
      rw [if_neg (by simp), List.nil_append] at hnone
      rw [List.nil_append, search, hnone, if_pos (hpass _ (by decide)), Option.bind_none, ite_self]
      rfl
  | cons c part ih =>
      rw [List.cons_append, search, ← List.cons_append, after?_opening_append_quote hname hpart,
        ih (fun hmem => hpart (List.mem_cons_of_mem c hmem)), endsIn, List.all_cons]
      by_cases hhere : c :: part = name ++ ['=']
      · obtain ⟨hc, hrest⟩ : passable c = true ∧ part.all passable = true := by
          simpa using hopening _ hhere
        rw [if_pos hhere, Option.bind_some, if_pos hc, if_pos hrest, hc, hrest, Bool.and_self,
          if_pos rfl, decide_eq_true hhere, Bool.and_true]
        cases mayBegin before <;> cases endsIn name (some c) part <;> cases value? rest <;> simp
      · rw [if_neg hhere, Option.bind_none, ite_self, Option.none_or, decide_eq_false hhere,
          Bool.and_false, Bool.false_or]
        cases passable c <;> simp

/-- What a search finds is read behind an opening of the attribute. -/
theorem exists_of_search {before : Option Char} {text found : Text}
    (h : search name passable value? before text = some found) :
    ∃ rest, opening name ++ rest <:+: text ∧ value? rest = some found := by
  induction text generalizing before with
  | nil => cases h
  | cons c text ih =>
      rw [search, Option.or_eq_some_iff] at h
      rcases h with hhere | ⟨-, hlater⟩
      · rw [Option.ite_none_right_eq_some, Option.bind_eq_some_iff] at hhere
        obtain ⟨-, rest, hafter, hvalue⟩ := hhere
        rw [Text.after?_eq_some_iff.mp hafter]
        exact ⟨rest, List.infix_rfl, hvalue⟩
      · rw [Option.ite_none_right_eq_some] at hlater
        obtain ⟨rest, hwithin, hvalue⟩ := ih hlater.2
        exact ⟨rest, hwithin.trans (List.suffix_cons c text).isInfix, hvalue⟩

end FormFill.Attribute

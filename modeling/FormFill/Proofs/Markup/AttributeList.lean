import FormFill.Proofs.Markup.Attribute

/-!
# Attributes with any values

Attributes are written one after the other, and their values hold anything but quotes. Reading a name gives
the value of the first attribute with exactly this name, with one exception: if the value of an attribute
before it ends with the name and an equals sign, then the quote that ends this value counts as one that
begins a value, and what stands before the next quote is read.

The search for a marker in a tag takes the first `>` for the end of the tag, also inside quotes. So it does
not come to an attribute behind a value that holds this character.
-/

namespace FormFill.Attribute

/-- An attribute that can be written. -/
structure Pair where
  name : Text
  value : Text
  isName : IsName name
  noQuote : '"' ∉ value

/-- Attributes written one after the other. -/
def textOf (pairs : List Pair) : Text := pairs.flatMap fun pair => written pair.name pair.value

/-- The value of the first attribute with a name, unless it is empty. -/
def firstValue? (name : Text) (pairs : List Pair) : Option Text :=
  ((pairs.find? (·.name = name)).map (·.value)).filter (!·.isEmpty)

/-- A value that ends with a name, not continued to the left, and an equals sign. -/
def EndsIn (name value : Text) : Prop :=
  ∃ front, value = front ++ (name ++ ['=']) ∧ mayBegin front.getLast? = true

theorem endsIn_quote_iff {name value : Text} :
    endsIn name (some '"') value = true ↔ EndsIn name value := by
  have hquote : mayBegin (some '"') = true := by decide
  rw [endsIn_iff, EndsIn]
  apply exists_congr
  intro front
  apply and_congr_right
  intro _
  cases front.getLast? with
  | none => exact iff_of_true hquote rfl
  | some c => rfl

instance (name value : Text) : Decidable (EndsIn name value) :=
  decidable_of_iff _ endsIn_quote_iff

/-- The attribute after the first one whose value ends with a name and an equals sign, if no attribute up
to there has the name. -/
def astray? (name : Text) : List Pair → Option Pair
  | [] => none
  | [_] => none
  | pair :: next :: rest =>
    if pair.name = name then none
    else if EndsIn name pair.value then some next
    else astray? name (next :: rest)

/-- In front of the first value stands the name of the first attribute. -/
theorem quoted?_textOf (pair : Pair) (rest : List Pair) :
    quoted? (textOf (pair :: rest)) = some (' ' :: (pair.name ++ ['='])) := by
  have htext : textOf (pair :: rest) =
      (' ' :: (pair.name ++ ['='])) ++ '"' :: (pair.value ++ '"' :: textOf rest) := by
    simp [textOf, written, opening]
  rw [htext]
  apply quoted?_append
  simp [pair.isName.not_mem (by decide : Text.isNameChar '"' = false)]

theorem find?_textOf {name : Text} (hname : IsName name) (pairs : List Pair) (before : Option Char) :
    find? name before (textOf pairs) =
      match astray? name pairs with
      | some next => some (' ' :: (next.name ++ ['=']))
      | none => (pairs.find? (·.name = name)).map (·.value) := by
  induction pairs generalizing before with
  | nil => rfl
  | cons pair rest ih =>
      have hcons : find? name before (textOf (pair :: rest)) =
          if pair.name = name then some pair.value
          else (if EndsIn name pair.value then quoted? (textOf rest) else none).or
            (find? name (some '"') (textOf rest)) := by
        rw [textOf, List.flatMap_cons, ← textOf, find?_written hname pair.isName pair.noQuote]
        simp only [endsIn_quote_iff]
      rw [hcons]
      cases rest with
      | nil =>
          -- Behind the last value no quote follows, so nothing can be read there.
          have hempty : quoted? (textOf []) = none := rfl
          rw [hempty, ite_self, Option.none_or, ih, astray?]
          by_cases hhere : pair.name = name
          · simp [hhere, astray?]
          · simp [hhere, astray?]
      | cons next rest =>
          rw [quoted?_textOf, ih, astray?]
          by_cases hhere : pair.name = name
          · simp [hhere]
          · have hskip : (pair :: next :: rest).find? (·.name = name) =
                (next :: rest).find? (·.name = name) :=
              List.find?_cons_of_neg (by simpa using hhere)
            rw [hskip, if_neg hhere, if_neg hhere]
            by_cases hends : EndsIn name pair.value
            · rw [if_pos hends, if_pos hends, Option.some_or]
            · rw [if_neg hends, if_neg hends, Option.none_or]

/-- Reading a name gives the value of the first attribute with exactly this name, if there is one and its
value is not empty, unless the reading has been led astray before. -/
theorem read?_textOf {name : Text} (hname : IsName name) (pairs : List Pair) :
    read? name (textOf pairs) =
      match astray? name pairs with
      | some next => some (' ' :: (next.name ++ ['=']))
      | none => firstValue? name pairs := by
  rw [read?, find?_textOf hname]
  cases astray? name pairs with
  | none => rfl
  | some next => rfl

/-- A pattern that ends with `Code=` hides the code that is written behind it. -/
def astrayPairs : List Pair :=
  [⟨"RegEx", "x Code=", by decide, by decide⟩, ⟨"Name", "N", isName_name, by decide⟩,
    ⟨"Code", "A", isName_code, by decide⟩]

theorem read?_textOf_astrayPairs :
    IsName "Code" ∧ read? "Code" (textOf astrayPairs) = some " Name=".toList ∧
      read? "Name" (textOf astrayPairs) = some "N".toList := by
  refine ⟨isName_code, ?_, ?_⟩
  · rw [read?_textOf isName_code astrayPairs]
    decide
  · rw [read?_textOf isName_name astrayPairs]
    decide

/-- The value of an attribute can be read as that of another one. -/
theorem not_forall_read?_textOf : ¬ ∀ (name : Text) (pairs : List Pair), IsName name →
    read? name (textOf pairs) = firstValue? name pairs := by
  intro h
  have hread := h "Code" astrayPairs isName_code
  have hvalue : firstValue? "Code" astrayPairs = some "A".toList := by decide
  have hfound : read? "Code" (textOf astrayPairs) ≠ some "A".toList := by decide +kernel
  exact hfound (hread.trans hvalue)

section Tags

theorem textOf_eq_writtenAll (pairs : List Pair) :
    textOf pairs = writtenAll (pairs.map fun pair => (pair.name, some pair.value)) := by
  simp [textOf, writtenAll, List.flatMap_map]

theorem isInside_textOf (pairs : List Pair) (rest : Text) :
    Tag.isInside false (textOf pairs ++ rest) = Tag.isInside false rest := by
  rw [textOf_eq_writtenAll]
  apply isInside_writtenAll
  simp only [List.forall_mem_map]
  intro pair _
  refine ⟨pair.isName, ?_⟩
  intro value hvalue
  cases hvalue
  exact pair.noQuote

theorem head_textOf (pairs : List Pair) : ∀ c ∈ (textOf pairs).head?, Text.isWord c = false := by
  rw [textOf_eq_writtenAll]
  exact head_writtenAll _

theorem ownClosing?_textOf (name : Text) (pairs : List Pair) :
    (Element.openingTag name (textOf pairs)).ownClosing? = none := by
  rw [textOf_eq_writtenAll]
  exact ownClosing?_writtenAll name _

theorem isClean_textOf {name : Text} (hname : IsWordName name) (pairs : List Pair) :
    (Element.openingTag name (textOf pairs)).IsClean := by
  refine ⟨hname, head_textOf pairs, ?_⟩
  have hinside := isInside_textOf pairs []
  rwa [List.append_nil] at hinside

theorem not_mem_textOf {c : Char} (hname : Text.isNameChar c = false) (hc : c ∉ [' ', '=', '"'])
    {pairs : List Pair} (hvalues : ∀ pair ∈ pairs, c ∉ pair.value) : c ∉ textOf pairs := by
  intro hmem
  obtain ⟨pair, hpair, hwritten⟩ := List.mem_flatMap.mp hmem
  have hfree := pair.isName.not_mem hname
  have hvalue := hvalues pair hpair
  simp only [List.mem_cons, List.not_mem_nil, or_false, not_or] at hc
  simp [written, opening, hfree, hvalue, hc] at hwritten

/-- The attributes from the first one with a name on, if none before it has a `>` in its value. -/
def reached (name : Text) : List Pair → List Pair
  | [] => []
  | pair :: rest =>
    if pair.name = name then pair :: rest
    else if '>' ∈ pair.value then [] else reached name rest

theorem mem_of_reached {name : Text} {pairs later : List Pair} {pair : Pair}
    (h : reached name pairs = pair :: later) : pair ∈ pairs ∧ pair.name = name := by
  induction pairs with
  | nil => cases h
  | cons first rest ih =>
      rw [reached] at h
      split at h
      next hfirst =>
        cases h
        exact ⟨List.mem_cons_self, hfirst⟩
      next =>
        split at h
        · cases h
        · exact ⟨List.mem_cons_of_mem _ (ih h).1, (ih h).2⟩

theorem reached_eq_nil_iff {name : Text} {pairs : List Pair}
    (hname : ∃ pair ∈ pairs, pair.name = name) :
    reached name pairs = [] ↔ ∃ pair ∈ pairs.takeWhile (·.name ≠ name), '>' ∈ pair.value := by
  induction pairs with
  | nil => simp at hname
  | cons first rest ih =>
      rw [reached, List.takeWhile_cons]
      by_cases hfirst : first.name = name
      · simp [hfirst]
      · have hrest : ∃ pair ∈ rest, pair.name = name := by simpa [hfirst] using hname
        by_cases hend : '>' ∈ first.value
        · simp [hfirst, hend]
        · simp [hfirst, hend, ih hrest]

variable {name rest : Text}

/-- The search in a tag reads an attribute with the name, and goes on behind an attribute without `>`. -/
theorem findMarkerInTag?_cons (hname : IsName name) {pair : Pair} (hvalue : '=' ∉ pair.value)
    (pairs : List Pair) (before : Option Char) :
    findMarkerInTag? name before (textOf (pair :: pairs) ++ rest) =
      (if pair.name = name then filling? (pair.value ++ '"' :: (textOf pairs ++ rest)) else none).or
        (if '>' ∈ pair.value then none
          else findMarkerInTag? name (some '"') (textOf pairs ++ rest)) := by
  have hpass : ∀ c, c ≠ '>' → (c != '>') = true := fun c hc => by simpa using hc
  rw [textOf, List.flatMap_cons, ← textOf, List.append_assoc, findMarkerInTag?_eq_search,
    search_written hname hpass pair.isName, search_value hname hpass pair.noQuote hvalue,
    findMarkerInTag?_eq_search]
  congr 1
  by_cases hend : '>' ∈ pair.value
  · have hstop : ¬(pair.value.all (· != '>')) = true := by
      rw [List.all_eq_true]
      intro hall
      simpa using hall '>' hend
    rw [if_pos hend, if_neg hstop]
  · have hgo : (pair.value.all (· != '>')) = true := by
      rw [List.all_eq_true]
      rintro c hc
      rw [bne_iff_ne]
      rintro rfl
      exact hend hc
    rw [if_neg hend, if_pos hgo]

/-- Behind the attributes nothing is read up to the end of the tag. -/
theorem findMarkerInTag?_end (hname : IsName name) {front : Text}
    (hfront : ∀ c ∈ front, Text.isNameChar c = false) (before : Option Char) :
    findMarkerInTag? name before (front ++ '>' :: rest) = none := by
  have hmiss : ∀ c text, Text.isNameChar c = false → markerHere? name (c :: text) = none := by
    intro c text hc
    obtain ⟨d, name, rfl⟩ := List.exists_cons_of_ne_nil hname.ne_nil
    have hne : d ≠ c := by
      rintro rfl
      rw [hname.isNameChar d List.mem_cons_self] at hc
      cases hc
    rw [markerHere?_eq, opening, List.cons_append, Text.after?_cons_of_ne hne, Option.bind_none]
  induction front generalizing before with
  | nil => rw [List.nil_append, findMarkerInTag?, hmiss '>' rest (by decide), ite_self, if_pos rfl]
  | cons c front ih =>
      obtain ⟨hc, hfront⟩ := List.forall_mem_cons.mp hfront
      rw [List.cons_append, findMarkerInTag?, hmiss c _ hc, ite_self]
      dsimp only
      rw [ih hfront, ite_self]

theorem findMarkerInTag?_of_not_mem (hname : IsName name) {pairs : List Pair}
    (hother : ∀ pair ∈ pairs, pair.name ≠ name ∧ '=' ∉ pair.value)
    (hrest : ∀ before, findMarkerInTag? name before rest = none) (before : Option Char) :
    findMarkerInTag? name before (textOf pairs ++ rest) = none := by
  induction pairs generalizing before with
  | nil => exact hrest before
  | cons pair pairs ih =>
      obtain ⟨⟨hne, hvalue⟩, hother⟩ := List.forall_mem_cons.mp hother
      rw [findMarkerInTag?_cons hname hvalue, if_neg hne, ih hother, ite_self, Option.or_none]

/-- If the names are distinct, the search in a tag reads the attribute that it comes to under the name. -/
theorem findMarkerInTag?_textOf (hname : IsName name) {pairs : List Pair}
    (hnodup : (pairs.map (·.name)).Nodup) (hvalues : ∀ pair ∈ pairs, '=' ∉ pair.value)
    (hrest : ∀ before, findMarkerInTag? name before rest = none) (before : Option Char) :
    findMarkerInTag? name before (textOf pairs ++ rest) =
      match reached name pairs with
      | [] => none
      | pair :: later => filling? (pair.value ++ '"' :: (textOf later ++ rest)) := by
  induction pairs generalizing before with
  | nil => exact hrest before
  | cons pair pairs ih =>
      rw [List.map_cons, List.nodup_cons] at hnodup
      obtain ⟨hvalue, hvalues⟩ := List.forall_mem_cons.mp hvalues
      rw [findMarkerInTag?_cons hname hvalue, reached]
      by_cases hhere : pair.name = name
      · have hother : ∀ other ∈ pairs, other.name ≠ name ∧ '=' ∉ other.value := by
          intro other hmem
          refine ⟨?_, hvalues other hmem⟩
          rintro rfl
          exact hnodup.1 (hhere ▸ List.mem_map_of_mem hmem)
        rw [findMarkerInTag?_of_not_mem hname hother hrest, ite_self, Option.or_none, if_pos hhere,
          if_pos hhere]
      · rw [if_neg hhere, Option.none_or, if_neg hhere]
        by_cases hend : '>' ∈ pair.value
        · rw [if_pos hend, if_pos hend]
        · rw [if_neg hend, if_neg hend, ih hnodup.2 hvalues]

end Tags

end FormFill.Attribute

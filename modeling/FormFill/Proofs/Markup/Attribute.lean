import FormFill.Proofs.Marker.Grammar
import FormFill.Proofs.Markup.AttributeSearch
import FormFill.Proofs.Markup.Elements

/-!
# Reading attributes back

Attributes are written one after the other, each after a blank and with its value in quotes. If no value
holds a quote or an equals sign, reading a name gives the value of the first attribute with exactly that
name, and what is written can stand in an opening tag.
-/

namespace FormFill.Attribute

/-- A name that consists of name characters. -/
structure IsName (name : Text) : Prop where
  ne_nil : name ≠ []
  isNameChar : ∀ c ∈ name, Text.isNameChar c = true

instance : DecidablePred IsName := fun name =>
  decidable_of_iff (name ≠ [] ∧ name.all Text.isNameChar = true)
    ⟨fun h => ⟨h.1, List.all_eq_true.mp h.2⟩,
      fun h => ⟨h.ne_nil, List.all_eq_true.mpr h.isNameChar⟩⟩

theorem isName_code : IsName "Code" := by decide

theorem isName_name : IsName "Name" := by decide

theorem IsName.not_mem {name : Text} (h : IsName name) {c : Char}
    (hc : Text.isNameChar c = false) : c ∉ name := by
  intro hmem
  rw [h.isNameChar c hmem] at hc
  cases hc

/-- A value that is present and can be written in quotes without being taken for an attribute. -/
structure IsValue (value : Text) : Prop where
  ne_nil : value ≠ []
  noQuote : '"' ∉ value
  noEquals : '=' ∉ value

/-- An attribute as it is written. -/
def written (name value : Text) : Text := ' ' :: (opening name ++ value ++ ['"'])

/-- Attributes as they are written one after the other, without the absent ones. -/
def writtenAll (attributes : List (Text × Option Text)) : Text :=
  attributes.flatMap fun entry => (entry.2.map (written entry.1)).getD []

section Reading

variable {name : Text}

/-- What stands before an opening quote ends with a name exactly if it is this name. -/
theorem endsIn_name (hname : IsName name) {other : Text} (hother : IsName other)
    (before : Option Char) : endsIn name before (' ' :: (other ++ ['='])) = decide (other = name) := by
  rw [Bool.eq_iff_iff, endsIn_iff, decide_eq_true_eq]
  constructor
  · rintro ⟨front, hpart, hbegin⟩
    rw [← List.append_assoc, ← List.cons_append] at hpart
    have hnames := List.append_cancel_right hpart
    cases front with
    | nil =>
        have hblank : ' ' ∈ name := by rw [← List.nil_append name, ← hnames]; exact List.mem_cons_self
        exact absurd hblank (hname.not_mem (by decide))
    | cons c front =>
        obtain ⟨rfl, rfl⟩ := List.cons.inj hnames
        -- A character of the other name in front of the name would continue it to the left.
        rcases List.eq_nil_or_concat front with rfl | ⟨front, d, rfl⟩
        · rfl
        · have hd : Text.isNameChar d = true := hother.isNameChar d (by simp)
          rw [List.concat_eq_append, ← List.cons_append, List.getLast?_append] at hbegin
          simp [mayBegin, hd] at hbegin
  · rintro rfl
    exact ⟨[' '], rfl, rfl⟩

section Passing

variable {passable : Char → Bool} {value? : Text → Option Text}

/-- A search that comes to an attribute reads its value if it has the name, and then goes on in the
value. -/
theorem search_written (hname : IsName name) (hpass : ∀ c, c ≠ '>' → passable c = true)
    {other : Text} (hother : IsName other) (value : Text) (before : Option Char) (rest : Text) :
    search name passable value? before (written other value ++ rest) =
      (if other = name then value? (value ++ '"' :: rest) else none).or
        (search name passable value? (some '"') (value ++ '"' :: rest)) := by
  have htext : written other value ++ rest =
      (' ' :: (other ++ ['='])) ++ '"' :: (value ++ '"' :: rest) := by
    simp [written, opening]
  have hfront : ∀ c ∈ ' ' :: (other ++ ['=']), c ≠ '"' ∧ c ≠ '>' := by
    simp only [List.forall_mem_cons, List.forall_mem_append]
    refine ⟨by decide, fun c hc => ⟨?_, ?_⟩, by decide, List.forall_mem_nil _⟩
    · rintro rfl
      exact hother.not_mem (by decide) hc
    · rintro rfl
      exact hother.not_mem (by decide) hc
  have hpassed : (' ' :: (other ++ ['='])).all passable = true :=
    List.all_eq_true.mpr fun c hc => hpass c (hfront c hc).2
  rw [htext, search_append_quote (hname.not_mem (by decide)) hpass (hname.not_mem (by decide))
      (fun hmem => (hfront _ hmem).1 rfl), if_pos hpassed, endsIn_name hname hother]
  simp only [decide_eq_true_eq]

/-- A value without an equals sign is passed as a whole or not at all. -/
theorem search_value (hname : IsName name) (hpass : ∀ c, c ≠ '>' → passable c = true) {value : Text}
    (hquote : '"' ∉ value) (hequals : '=' ∉ value) (before : Option Char) (rest : Text) :
    search name passable value? before (value ++ '"' :: rest) =
      if value.all passable then search name passable value? (some '"') rest else none := by
  rw [search_append_quote (hname.not_mem (by decide)) hpass (hname.not_mem (by decide)) hquote,
    endsIn_of_not_mem hequals, if_neg Bool.false_ne_true, Option.none_or]

end Passing

/-- The search for a quote stops at the first one. -/
theorem quoted?_append {value : Text} (hvalue : '"' ∉ value) (rest : Text) :
    quoted? (value ++ '"' :: rest) = some value := by
  have hsplit : Text.splitAt? ['"'] (fun _ => true) (value ++ '"' :: rest) = some (value, rest) :=
    (Text.Passes.of_not_mem hvalue []).splitAt?_mark rest
  rw [quoted?, hsplit, Option.map_some]

/-- An attribute is read if it has the name. Otherwise the search goes on behind it, unless its value ends
with the name and an equals sign: then what stands before the next quote is taken for a value. -/
theorem find?_written (hname : IsName name) {other value : Text} (hother : IsName other)
    (hvalue : '"' ∉ value) (before : Option Char) (rest : Text) :
    find? name before (written other value ++ rest) =
      if other = name then some value
      else (if endsIn name (some '"') value then quoted? rest else none).or
        (find? name (some '"') rest) := by
  have hall : value.all (fun _ => true) = true := List.all_eq_true.mpr fun _ _ => rfl
  rw [find?_eq_search, search_written hname (fun _ _ => rfl) hother, quoted?_append hvalue,
    search_append_quote (hname.not_mem (by decide)) (fun _ _ => rfl) (hname.not_mem (by decide)) hvalue,
    if_pos hall, find?_eq_search]
  split
  · rw [Option.some_or]
  · rw [Option.none_or]

/-- Reading a name gives the value of the first attribute with this name. -/
theorem find?_writtenAll (hname : IsName name) {attributes : List (Text × Option Text)}
    (hattributes : ∀ entry ∈ attributes, IsName entry.1 ∧ ∀ value ∈ entry.2, IsValue value)
    (before : Option Char) :
    find? name before (writtenAll attributes) =
      attributes.findSome? fun entry => if entry.1 = name then entry.2 else none := by
  induction attributes generalizing before with
  | nil => rfl
  | cons entry rest ih =>
      obtain ⟨other, value?⟩ := entry
      obtain ⟨⟨hother, hvalue⟩, hrest⟩ := List.forall_mem_cons.mp hattributes
      rw [writtenAll, List.flatMap_cons, ← writtenAll, List.findSome?_cons]
      cases value? with
      | none =>
          rw [ite_self]
          exact ih hrest before
      | some value =>
          have hfree := hvalue value rfl
          rw [Option.map_some, Option.getD_some, find?_written hname hother hfree.noQuote,
            endsIn_of_not_mem hfree.noEquals, if_neg Bool.false_ne_true, Option.none_or,
            ih hrest (some '"')]
          by_cases heq : other = name
          · rw [if_pos heq, if_pos heq]
          · rw [if_neg heq, if_neg heq]

theorem read?_writtenAll (hname : IsName name) {attributes : List (Text × Option Text)}
    (hattributes : ∀ entry ∈ attributes, IsName entry.1 ∧ ∀ value ∈ entry.2, IsValue value) :
    read? name (writtenAll attributes) =
      attributes.findSome? fun entry => if entry.1 = name then entry.2 else none := by
  rw [read?, find?_writtenAll hname hattributes]
  cases hfound : attributes.findSome? fun entry => if entry.1 = name then entry.2 else none with
  | none => rfl
  | some value =>
      obtain ⟨entry, hmem, hentry⟩ := List.exists_of_findSome?_eq_some hfound
      split at hentry
      · have hvalue := ((hattributes entry hmem).2 value hentry).ne_nil
        rw [Option.filter_some, if_pos (by simpa using hvalue)]
      · cases hentry

/-- If the names are distinct, every attribute is read back under its name. -/
theorem read?_writtenAll_of_mem {value? : Option Text} {attributes : List (Text × Option Text)}
    (hattributes : ∀ entry ∈ attributes, IsName entry.1 ∧ ∀ value ∈ entry.2, IsValue value)
    (hnodup : (attributes.map (·.1)).Nodup) (hmem : (name, value?) ∈ attributes) :
    read? name (writtenAll attributes) = value? := by
  rw [read?_writtenAll (hattributes _ hmem).1 hattributes]
  clear hattributes
  induction attributes with
  | nil => cases hmem
  | cons entry rest ih =>
      rw [List.map_cons, List.nodup_cons] at hnodup
      rw [List.findSome?_cons]
      rcases List.mem_cons.mp hmem with rfl | hrest
      · rw [if_pos rfl]
        cases value? with
        | some value => rfl
        | none =>
            rw [List.findSome?_eq_none_iff]
            intro later hlater
            refine if_neg fun heq : later.1 = name => hnodup.1 ?_
            exact List.mem_map.mpr ⟨later, hlater, heq⟩
      · have hne : entry.1 ≠ name := by
          intro heq
          exact hnodup.1 (List.mem_map.mpr ⟨_, hrest, heq.symm⟩)
        rw [if_neg hne]
        exact ih hnodup.2 hrest

end Reading

section Writing

theorem isInside_append {front : Text} {quoted : Bool} (hquote : '"' ∉ front)
    (hclose : quoted = true ∨ '>' ∉ front) (rest : Text) :
    Tag.isInside quoted (front ++ rest) = Tag.isInside quoted rest := by
  induction front with
  | nil => rfl
  | cons c front ih =>
      rw [List.mem_cons, not_or] at hquote
      have hnot : ¬(c = '>' && !quoted) = true := by
        rcases hclose with rfl | hclose
        · simp
        · rw [List.mem_cons, not_or] at hclose
          simp [Ne.symm hclose.1]
      rw [List.cons_append, Tag.isInside, if_neg (Ne.symm hquote.1), if_neg hnot]
      refine ih hquote.2 (hclose.imp_right fun hclose hmem => hclose ?_)
      exact List.mem_cons_of_mem c hmem

/-- A written attribute closes its quotes. -/
theorem isInside_written {name value : Text} (hname : IsName name) (hvalue : '"' ∉ value)
    (rest : Text) : Tag.isInside false (written name value ++ rest) = Tag.isInside false rest := by
  have htext : written name value ++ rest =
      (' ' :: (name ++ ['='])) ++ '"' :: (value ++ '"' :: rest) := by
    simp [written, opening]
  have hquote : '"' ∉ ' ' :: (name ++ ['=']) := by
    simp [hname.not_mem (by decide : Text.isNameChar '"' = false)]
  have hclose : '>' ∉ ' ' :: (name ++ ['=']) := by
    simp [hname.not_mem (by decide : Text.isNameChar '>' = false)]
  rw [htext, isInside_append hquote (Or.inr hclose), Tag.isInside, if_pos rfl, Bool.not_false,
    isInside_append hvalue (Or.inl rfl), Tag.isInside, if_pos rfl, Bool.not_true]

theorem isInside_writtenAll {attributes : List (Text × Option Text)}
    (hattributes : ∀ entry ∈ attributes, IsName entry.1 ∧ ∀ value ∈ entry.2, '"' ∉ value)
    (rest : Text) :
    Tag.isInside false (writtenAll attributes ++ rest) = Tag.isInside false rest := by
  induction attributes with
  | nil => rfl
  | cons entry attributes ih =>
      obtain ⟨name, value?⟩ := entry
      obtain ⟨⟨hname, hvalue⟩, hrest⟩ := List.forall_mem_cons.mp hattributes
      rw [writtenAll, List.flatMap_cons, ← writtenAll, List.append_assoc]
      cases value? with
      | none => exact ih hrest
      | some value =>
          have hwritten := isInside_written hname (hvalue value rfl) (writtenAll attributes ++ rest)
          exact hwritten.trans (ih hrest)

/-- Written attributes are empty or end with a quote. -/
theorem writtenAll_eq_nil_or (attributes : List (Text × Option Text)) :
    writtenAll attributes = [] ∨ ∃ front, writtenAll attributes = front ++ ['"'] := by
  induction attributes with
  | nil => exact Or.inl rfl
  | cons entry rest ih =>
      rw [writtenAll, List.flatMap_cons, ← writtenAll]
      rcases ih with hrest | ⟨front, hrest⟩
      · rw [hrest, List.append_nil]
        cases entry.2 with
        | none => exact Or.inl rfl
        | some value => exact Or.inr ⟨' ' :: (opening entry.1 ++ value), rfl⟩
      · rw [hrest]
        exact Or.inr ⟨_, (List.append_assoc _ _ _).symm⟩

theorem head_writtenAll (attributes : List (Text × Option Text)) :
    ∀ c ∈ (writtenAll attributes).head?, Text.isWord c = false := by
  induction attributes with
  | nil => simp [writtenAll]
  | cons entry rest ih =>
      rw [writtenAll, List.flatMap_cons, ← writtenAll]
      cases entry.2 with
      | none => exact ih
      | some value =>
          intro c hc
          obtain rfl : ' ' = c := by simpa [written] using hc
          decide

/-- Written attributes do not end with a slash. -/
theorem ownClosing?_writtenAll (name : Text) (attributes : List (Text × Option Text)) :
    (Element.openingTag name (writtenAll attributes)).ownClosing? = none := by
  rcases writtenAll_eq_nil_or attributes with hempty | ⟨front, hquote⟩
  · rw [hempty]
    rfl
  · have htrim : Text.trimRight (front ++ ['"']) = front ++ ['"'] := by
      simp [Text.trimRight, show Text.isBlank '"' = false by decide]
    rw [hquote, Tag.ownClosing?, Element.openingTag, htrim]
    simp

/-- Written attributes can stand in an opening tag. -/
theorem isAttributes_writtenAll {attributes : List (Text × Option Text)}
    (hattributes : ∀ entry ∈ attributes, IsName entry.1 ∧ ∀ value ∈ entry.2, IsValue value)
    (hplain : ∀ entry ∈ attributes, ∀ value ∈ entry.2, '<' ∉ value) :
    Element.IsAttributes (writtenAll attributes) := by
  refine ⟨head_writtenAll attributes, ?_, ?_, ownClosing?_writtenAll [] attributes⟩
  · have hinside := isInside_writtenAll (fun entry hentry =>
      ⟨(hattributes entry hentry).1, fun value hvalue =>
        ((hattributes entry hentry).2 value hvalue).noQuote⟩) []
    rwa [List.append_nil] at hinside
  · intro hmem
    obtain ⟨entry, hentry, hwritten⟩ := List.mem_flatMap.mp hmem
    cases hvalue : entry.2 with
    | none =>
        rw [hvalue] at hwritten
        cases hwritten
    | some value =>
        have hname := (hattributes entry hentry).1.not_mem
          (by decide : Text.isNameChar '<' = false)
        have hfree := hplain entry hentry value hvalue
        rw [hvalue] at hwritten
        simp [written, opening, hname, hfree] at hwritten

end Writing

section Markers

/-- What fills a value reaches from the opening of a marker to the first end of a marker in front of a
quote, within one line. -/
theorem filling?_eq_some_iff {text key : Text} : filling? text = some key ↔
    ∃ operation rest, text = Marker.opening operation ++ (key ++ (Marker.closing ++ ['"'] ++ rest)) ∧
      '\n' ∉ key ∧ ¬Marker.closing ++ ['"'] <:+: key := by
  have hquote : '"' ∉ Marker.closing := by decide
  rw [filling?]
  constructor
  · intro h
    obtain ⟨⟨operation, value⟩, hopening, hfound⟩ := Option.bind_eq_some_iff.mp h
    obtain ⟨⟨found, rest⟩, hsplit, rfl⟩ := Option.map_eq_some_iff.mp hfound
    obtain ⟨hvalue, hpass, hfree⟩ := (Text.splitAt?_concat_eq_some_iff hquote).mp hsplit
    refine ⟨operation, rest, ?_, fun hmem => ?_, hfree⟩
    · rw [Marker.afterOpening?_eq hopening, ← hvalue]
    · simpa using hpass '\n' hmem
  · rintro ⟨operation, rest, rfl, hline, hfree⟩
    have hsplit : Text.splitAt? (Marker.closing ++ ['"']) (· != '\n')
        (key ++ (Marker.closing ++ ['"'] ++ rest)) = some (key, rest) := by
      refine (Text.splitAt?_concat_eq_some_iff hquote).mpr ⟨rfl, fun c hc => ?_, hfree⟩
      rw [bne_iff_ne]
      rintro rfl
      exact hline hc
    rw [Marker.afterOpening?_append, Option.bind_some, hsplit, Option.map_some]

/-- The key of a marker that fills a value is read. -/
theorem filling?_marker {marker : Marker} (hkey : Marker.IsKey marker.key) (rest : Text) :
    filling? (marker.text ++ '"' :: rest) = some marker.key := by
  rw [filling?_eq_some_iff]
  refine ⟨marker.operation, rest, by simp [Marker.text], hkey.oneLine, fun hwithin => ?_⟩
  exact hkey.noClosing ((List.prefix_append Marker.closing ['"']).isInfix.trans hwithin)

/-- The marker of an attribute in a tag is found right after the name of the tag. -/
theorem findMarkerInTag?_written {name : Text} (hname : IsName name) {marker : Marker}
    (hkey : Marker.IsKey marker.key) (before : Option Char) (rest : Text) :
    findMarkerInTag? name before (written name marker.text ++ rest) = some marker.key := by
  rw [findMarkerInTag?_eq_search, search_written hname (fun c hc => by simpa using hc) hname,
    if_pos rfl, filling?_marker hkey, Option.some_or]

end Markers

end FormFill.Attribute

import FormFill.Proofs.Markup.Record

/-!
# The names of tags

A requested name counts where it is the whole word behind `<` or `</`: no letter, digit or underscore
goes on with it. Names may also hold `:`, `.` and `-`, as the names of attributes do, and the search for
elements does not know of them. So a tag with a longer name is used for a tag with a requested name if
the longer name goes on with one of these three, and in no other case. Where no such tag is used, the
search is the one that takes longer names for other names.
-/

namespace FormFill

namespace Text

/-- The characters that may stand in a name and in no word. -/
def nameMarks : Text := [':', '.', '-']

theorem isNameChar_iff {c : Char} : isNameChar c = true ↔ isWord c = true ∨ c ∈ nameMarks := by
  simp [isNameChar, nameMarks, or_assoc]

theorem isWord_of_mem_nameMarks {c : Char} (h : c ∈ nameMarks) : isWord c = false := by
  have hall : (nameMarks.all fun mark => !isWord mark) = true := by decide
  simpa using List.all_eq_true.mp hall c h

end Text

namespace Tag

/-- The name of a tag with all characters behind it that may stand in a name. -/
def fullName (tag : Tag) : Text := tag.name ++ tag.attributes.takeWhile Text.isNameChar

theorem fullName_eq_iff {tag : Tag} :
    tag.fullName = tag.name ↔ ∀ c ∈ tag.attributes.head?, Text.isNameChar c = false := by
  rw [fullName, List.append_right_eq_self]
  cases tag.attributes with
  | nil => simp
  | cons c attributes => simp [List.takeWhile_cons]

theorem exists_fullName_eq_iff {tag : Tag} {c : Char} (hc : Text.isNameChar c = true) :
    (∃ more, tag.fullName = tag.name ++ c :: more) ↔ tag.attributes.head? = some c := by
  simp only [fullName, List.append_cancel_left_eq]
  cases tag.attributes with
  | nil => simp
  | cons d attributes =>
      rw [List.head?_cons, Option.some.injEq]
      constructor
      · rintro ⟨more, hmore⟩
        rw [List.takeWhile_cons] at hmore
        split at hmore
        · exact (List.cons.inj hmore).1
        · cases hmore
      · rintro rfl
        exact ⟨_, List.takeWhile_cons_of_pos hc⟩

/-- Whether nothing goes on with the name of a tag. -/
def isFull (tag : Tag) : Bool := tag.fullName == tag.name

theorem isFull_iff {tag : Tag} : tag.isFull = true ↔ tag.fullName = tag.name := beq_iff_eq

/-- A name with which no word goes on is the full name, or the full name goes on with a mark. -/
theorem complete_iff_fullName {tag : Tag} :
    (∀ c ∈ tag.attributes.head?, Text.isWord c = false) ↔
      tag.fullName = tag.name ∨
        ∃ c ∈ Text.nameMarks, ∃ more, tag.fullName = tag.name ++ c :: more := by
  constructor
  · intro hword
    by_cases hfull : tag.fullName = tag.name
    · exact Or.inl hfull
    · rw [fullName_eq_iff] at hfull
      push Not at hfull
      obtain ⟨c, hhead, hname⟩ := hfull
      rw [Bool.ne_false_iff] at hname
      have hmark : c ∈ Text.nameMarks := by
        simpa [hword c hhead] using Text.isNameChar_iff.mp hname
      exact Or.inr ⟨c, hmark, (exists_fullName_eq_iff hname).mpr hhead⟩
  · rintro (hfull | ⟨c, hmark, hmore⟩) d hhead
    · have hneither := mt Text.isNameChar_iff.mpr
        (Bool.eq_false_iff.mp (fullName_eq_iff.mp hfull d hhead))
      rw [not_or, Bool.not_eq_true] at hneither
      exact hneither.1
    · rw [(exists_fullName_eq_iff (Text.isNameChar_iff.mpr (Or.inr hmark))).mp hmore] at hhead
      obtain rfl := Option.some.inj hhead
      exact Text.isWord_of_mem_nameMarks hmark

end Tag

/-- The offset at which the name of a tag ends. -/
def PlacedTag.nameStop (placed : PlacedTag) : Nat :=
  placed.start + (if placed.tag.closing then 2 else 1) + placed.tag.name.length

/-- The character behind the name of a tag in a text. -/
def PlacedTag.next? (text : Text) (placed : PlacedTag) : Option Char := text[placed.nameStop]?

/-- A tag whose name is followed in a text by no character of a name. -/
def PlacedTag.StandsFull (text : Text) (placed : PlacedTag) : Prop :=
  ∀ c ∈ placed.next? text, Text.isNameChar c = false

instance (text : Text) (placed : PlacedTag) : Decidable (placed.StandsFull text) :=
  decidable_of_iff ((placed.next? text).all (!Text.isNameChar ·) = true)
    (by simp [PlacedTag.StandsFull, Option.all_eq_true])

namespace Element

open Tag

variable {names : List Text} {text : Text} {taken : Tag → Bool} {placed : PlacedTag}

theorem IsUsed.next?_eq (h : IsUsed taken names text placed) :
    placed.next? text = (placed.tag.attributes ++ ['>']).head? := by
  have hstands := h.stands
  have hdrop : text.drop placed.nameStop = placed.tag.attributes ++ '>' :: text.drop placed.stop := by
    let front : Text := '<' :: ((if placed.tag.closing then ['/'] else []) ++ placed.tag.name)
    have hfront : placed.nameStop = placed.start + front.length := by
      simp only [PlacedTag.nameStop, front, List.length_cons, List.length_append]
      split <;> simp only [List.length_cons, List.length_nil] <;> omega
    rw [hfront]
    apply Text.drop_of_drop_eq
    rw [hstands, text_append]
    simp only [front, List.cons_append, List.append_assoc]
  rw [PlacedTag.next?, ← List.head?_drop, hdrop]
  cases placed.tag.attributes <;> rfl

/-- The name of a tag is the whole of a word in the text, unless it is empty. -/
theorem IsUsed.isWord_next_iff (h : IsUsed taken names text placed)
    (hword : ∀ c ∈ placed.tag.name, Text.isWord c = true) :
    ∃ c, placed.next? text = some c ∧ (Text.isWord c = true ↔ placed.tag.name = []) := by
  have hcomplete := h.isWhole.complete
  rw [h.next?_eq]
  cases hnext : (placed.tag.attributes ++ ['>']).head? with
  | none => simp at hnext
  | some c =>
      refine ⟨c, rfl, ?_⟩
      rw [hnext, borders, bne_iff_ne, Option.any_some] at hcomplete
      cases hname : placed.tag.name with
      | nil =>
          have hfront : Text.isWord placed.tag.front = false := by
            rw [front]
            split <;> decide
          simpa [hname, hfront] using hcomplete
      | cons d name =>
          have hlast := hword _ (List.getLast_mem (hname ▸ List.cons_ne_nil d name))
          simp only [hname] at hlast
          simpa [hname, hlast] using hcomplete

theorem IsUsed.standsFull_iff_isFull (h : IsUsed taken names text placed) :
    placed.StandsFull text ↔ placed.tag.isFull = true := by
  have hend : Text.isNameChar '>' = false := by decide
  rw [PlacedTag.StandsFull, h.next?_eq, isFull_iff, fullName_eq_iff]
  cases placed.tag.attributes with
  | nil => simp [hend]
  | cons c attributes => simp

/-- Only a character that stands in no word can go on with the name of a tag. -/
theorem IsUsed.standsFull_iff (h : IsUsed taken names text placed)
    (hword : ∀ c ∈ placed.tag.name, Text.isWord c = true) :
    placed.StandsFull text ↔
      placed.tag.name ≠ [] ∧ ∀ c ∈ placed.next? text, c ∉ Text.nameMarks := by
  obtain ⟨c, hnext, hempty⟩ := h.isWord_next_iff hword
  simp only [PlacedTag.StandsFull, hnext, Option.mem_some_iff, forall_eq', ← Bool.not_eq_true,
    Text.isNameChar_iff, hempty, not_or, ne_eq]

theorem isWord_of_all (h : (names.all fun name => name.all Text.isWord) = true) :
    ∀ name ∈ names, ∀ c ∈ name, Text.isWord c = true :=
  fun name hmem => List.all_eq_true.mp (List.all_eq_true.mp h name hmem)

theorem isWord_of_mem_requested (hwords : ∀ name ∈ names, ∀ c ∈ name, Text.isWord c = true) :
    ∀ name ∈ requested names, ∀ c ∈ name, Text.isWord c = true := by
  rw [requested]
  split
  · simp
  · exact hwords

/-- The name of a tag that is used and the character behind it stand in the text behind `<` or `</`. -/
theorem IsUsed.infix (h : IsUsed taken names text placed) {c : Char}
    (hnext : placed.next? text = some c) :
    '<' :: ((if placed.tag.closing then ['/'] else []) ++ (placed.tag.name ++ [c])) <:+: text := by
  rw [h.next?_eq] at hnext
  obtain ⟨more, hmore⟩ := List.head?_eq_some_iff.mp hnext
  have hbehind : placed.tag.attributes ++ '>' :: text.drop placed.stop =
      c :: (more ++ text.drop placed.stop) := by
    rw [← List.cons_append, ← hmore, List.append_assoc, List.singleton_append]
  have hstands := h.stands
  rw [text_append, hbehind] at hstands
  refine List.IsInfix.trans ?_ (List.drop_suffix placed.start text).isInfix
  refine List.IsPrefix.isInfix ⟨more ++ text.drop placed.stop, ?_⟩
  rw [hstands]
  simp only [List.cons_append, List.append_assoc, List.nil_append]

theorem requested_eq (h : [] ∉ requested names) : requested names = names := by
  unfold requested at h ⊢
  split at h
  · exact absurd (List.mem_singleton_self _) h
  next hempty => exact if_neg hempty

/-- A tag is read exactly if its full name is one of some words, or such a word goes on with a mark. -/
theorem read?_iff_fullName (hwords : ∀ name ∈ names, ∀ c ∈ name, Text.isWord c = true)
    (hne : [] ∉ names) {rest : Text} {tag : Tag} :
    read? names text = some (tag, rest) ↔
      tag.name ∈ names ∧ IsEnclosed tag.attributes ∧ text = tag.text ++ rest ∧
        (tag.fullName = tag.name ∨
          ∃ c ∈ Text.nameMarks, ∃ more, tag.fullName = tag.name ++ c :: more) := by
  have hnames : ∀ name ∈ names, IsWordName name := fun name hmem =>
    ⟨fun hnil => hne (hnil ▸ hmem), hwords name hmem⟩
  rw [read?_eq_some_iff hnames, ← complete_iff_fullName, ← isInside_iff_isEnclosed]
  constructor
  · rintro ⟨hmem, hclean, htext⟩
    exact ⟨hmem, hclean.inside, htext, hclean.complete⟩
  · rintro ⟨hmem, hinside, htext, hcomplete⟩
    exact ⟨hmem, ⟨hnames _ hmem, hcomplete, hinside⟩, htext⟩

/-- Where no requested name stands in front of a mark, no longer name is used. -/
theorem standsFull_of_text (hwords : ∀ name ∈ names, ∀ c ∈ name, Text.isWord c = true)
    (hne : [] ∉ requested names)
    (htext : ∀ name ∈ names, ∀ c ∈ Text.nameMarks,
      ¬ '<' :: (name ++ [c]) <:+: text ∧ ¬ '<' :: '/' :: (name ++ [c]) <:+: text) :
    ∀ placed ∈ used names text, placed.StandsFull text := by
  intro placed hmem
  have hused := isUsed_record placed hmem
  have hname := hused.name_mem
  rw [requested_eq hne] at hname
  rw [hused.standsFull_iff (hwords _ hname)]
  refine ⟨fun hnil => hne (hnil ▸ hused.name_mem), fun c hnext hmark => ?_⟩
  have hinfix := hused.infix hnext
  obtain ⟨hopening, hclosing⟩ := htext _ hname c hmark
  split at hinfix
  · exact hclosing hinfix
  · exact hopening hinfix

/-- How the search for elements matches the requested names in a text. -/
structure MatchesNames (names : List Text) (text : Text) : Prop where
  /-- The search that keeps a record finds the elements of the text, -/
  result : (record every names text).result = all names text
  /-- and it uses the tags of every element. -/
  madeOf : ∀ element ∈ all names text, IsMadeOf (used names text) element
  /-- A tag that is used stands in the text and has a requested name. No letter, digit or underscore
  goes on with the name, unless the name is empty. -/
  word : ∀ placed ∈ used names text, placed.tag.name ∈ requested names ∧
    text.drop placed.start = placed.tag.text ++ text.drop placed.stop ∧
    ∃ c, placed.next? text = some c ∧ (Text.isWord c = true ↔ placed.tag.name = [])
  /-- The name is full unless it is empty or a mark follows it. -/
  full_iff : ∀ placed ∈ used names text, placed.StandsFull text ↔
    placed.tag.name ≠ [] ∧ ∀ c ∈ placed.next? text, c ∉ Text.nameMarks
  /-- The search that takes longer names for other names has the same elements and the same record
  exactly if no tag that is used has a longer name. -/
  agrees_iff : record isFull names text = record every names text ↔
    ∀ placed ∈ used names text, placed.StandsFull text
  /-- No tag that is used has a longer name if no requested name stands in front of a mark. -/
  of_text : [] ∉ requested names → (∀ name ∈ names, ∀ c ∈ Text.nameMarks,
      ¬ '<' :: (name ++ [c]) <:+: text ∧ ¬ '<' :: '/' :: (name ++ [c]) <:+: text) →
    ∀ placed ∈ used names text, placed.StandsFull text
  /-- Wherever a tag stands, it is read exactly if its full name is a requested one, or a requested one
  that goes on with a mark. -/
  read_iff : [] ∉ names → ∀ offset tag rest, read? names (text.drop offset) = some (tag, rest) ↔
    tag.name ∈ names ∧ IsEnclosed tag.attributes ∧ text.drop offset = tag.text ++ rest ∧
      (tag.fullName = tag.name ∨ ∃ c ∈ Text.nameMarks, ∃ more, tag.fullName = tag.name ++ c :: more)

/-- The requested names are matched as whole words. A longer name is taken for a requested one exactly if
it goes on with a mark. -/
theorem all_matchesNames (hwords : ∀ name ∈ names, ∀ c ∈ name, Text.isWord c = true)
    (text : Text) : MatchesNames names text := by
  have hword : ∀ placed ∈ used names text, ∀ c ∈ placed.tag.name, Text.isWord c = true :=
    fun placed hmem => isWord_of_mem_requested hwords _ (isUsed_record placed hmem).name_mem
  exact {
    result := result_record_every names text
    madeOf := isMadeOf_all names text
    word := fun placed hmem => by
      have hused := isUsed_record placed hmem
      exact ⟨hused.name_mem, hused.stands, hused.isWord_next_iff (hword placed hmem)⟩
    full_iff := fun placed hmem => (isUsed_record placed hmem).standsFull_iff (hword placed hmem)
    agrees_iff := by
      rw [record_eq_every_iff]
      apply forall₂_congr
      intro placed hmem
      exact (isUsed_record placed hmem).standsFull_iff_isFull.symm
    of_text := standsFull_of_text hwords
    read_iff := fun hne _ _ _ => read?_iff_fullName hwords hne }

/-- One of the requested names begins the other, and both tags of the last element have longer names. -/
theorem all_matchesNames_prefixed :
    (∀ name ∈ [("Param" : Text), "ParamText"], ∀ c ∈ name, Text.isWord c = true) ∧
      MatchesNames ["Param", "ParamText"] "<ParamText>x</ParamText><Param-Ext>y</Param.Ext>" :=
  ⟨isWord_of_all (by decide), all_matchesNames (isWord_of_all (by decide)) _⟩

/-- A tag with a longer name that opens a level moves the end of an element. -/
example : (all ["Param"] "<Param>x<Param-Ext>y</Param>z</Param-Ext>").map (·.stop) = [41] ∧
    (record isFull ["Param"] "<Param>x<Param-Ext>y</Param>z</Param-Ext>").result.map (·.stop) =
      [28] := by
  decide +kernel

/-- An element is found whose full name is longer than the requested one. -/
theorem not_forall_standsFull : ¬ ∀ (names : List Text) (text : Text),
    (∀ name ∈ names, IsWordName name) → ∀ placed ∈ used names text, placed.StandsFull text := by
  intro h
  let text : Text := "<Param-Ext>x</Param-Ext>"
  have hname : ∀ name ∈ [("Param" : Text)], IsWordName name := by
    intro name hmem
    rw [List.mem_singleton.mp hmem]
    exact ⟨by decide, List.all_eq_true.mp (by decide)⟩
  have hlonger : ∃ placed ∈ used ["Param"] text, ¬placed.StandsFull text := by
    decide +kernel
  obtain ⟨placed, hmem, hnot⟩ := hlonger
  exact hnot (h ["Param"] text hname placed hmem)

end Element

end FormFill

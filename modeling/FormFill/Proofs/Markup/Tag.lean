import FormFill.Markup.Element
import FormFill.Proofs.Text

/-!
# The grammar of tags

For requested names that are words, a tag is read from a text exactly if the text begins with a clean
tag of one of these names: a word, not continued by what follows, and attributes whose quotes are closed
and that hold no `>` outside quotes. A text begins with at most one clean tag, so what is read does not
depend on what comes after the tag.
-/

namespace FormFill

/-- A name that consists of word characters. -/
structure IsWordName (name : Text) : Prop where
  ne_nil : name ≠ []
  isWord : ∀ c ∈ name, Text.isWord c = true

namespace IsWordName

theorem not_mem {name : Text} (h : IsWordName name) {c : Char} (hc : Text.isWord c = false) :
    c ∉ name := by
  intro hmem
  rw [h.isWord c hmem] at hc
  cases hc

theorem getLast_isWord {name : Text} (h : IsWordName name) (before : Char) :
    Text.isWord ((before :: name).getLast (List.cons_ne_nil _ _)) = true := by
  rw [List.getLast_cons h.ne_nil]
  exact h.isWord _ (List.getLast_mem h.ne_nil)

end IsWordName

namespace Tag

/-- Whether a text can stand inside a tag up to its end: no `>` is outside quotes, and every quote is
closed. `quoted` says whether the text starts inside quotes. -/
def isInside (quoted : Bool) : Text → Bool
  | [] => !quoted
  | c :: rest =>
    if c = '"' then isInside (!quoted) rest
    else if c = '>' && !quoted then false
    else isInside quoted rest

/-- Attributes are read up to the first `>` outside quotes. -/
theorem attributesAfter_eq_some_iff {quoted : Bool} {done text attributes rest : Text} :
    attributesAfter quoted done text = some (attributes, rest) ↔
      ∃ inside, attributes = done.reverse ++ inside ∧ isInside quoted inside = true ∧
        text = inside ++ '>' :: rest := by
  induction text generalizing quoted done with
  | nil => simp [attributesAfter]
  | cons c text ih =>
      rw [attributesAfter]
      by_cases hquote : c = '"'
      · rw [if_pos hquote, ih]
        constructor
        · rintro ⟨inside, rfl, hinside, rfl⟩
          exact ⟨c :: inside, by simp, by rw [isInside, if_pos hquote, hinside], rfl⟩
        · rintro ⟨inside, rfl, hinside, htext⟩
          cases inside with
          | nil =>
              obtain ⟨rfl, -⟩ := List.cons.inj htext
              exact absurd hquote (by decide)
          | cons d inside =>
              obtain ⟨rfl, rfl⟩ := List.cons.inj htext
              rw [isInside, if_pos hquote] at hinside
              exact ⟨inside, by simp, hinside, rfl⟩
      · rw [if_neg hquote]
        by_cases hclose : (c = '>' && !quoted) = true
        · rw [if_pos hclose]
          simp only [Bool.and_eq_true, decide_eq_true_eq, Bool.not_eq_true'] at hclose
          obtain ⟨rfl, rfl⟩ := hclose
          constructor
          · intro h
            cases h
            exact ⟨[], by simp, rfl, rfl⟩
          · rintro ⟨inside, rfl, hinside, htext⟩
            cases inside with
            | nil =>
                obtain ⟨-, rfl⟩ := List.cons.inj htext
                simp
            | cons d inside =>
                obtain ⟨rfl, -⟩ := List.cons.inj htext
                simp [isInside] at hinside
        · rw [if_neg hclose, ih]
          constructor
          · rintro ⟨inside, rfl, hinside, rfl⟩
            exact ⟨c :: inside, by simp, by rw [isInside, if_neg hquote, if_neg hclose, hinside], rfl⟩
          · rintro ⟨inside, rfl, hinside, htext⟩
            cases inside with
            | nil =>
                obtain ⟨rfl, rfl⟩ := List.cons.inj htext
                cases quoted <;> simp [isInside] at hinside hclose
            | cons d inside =>
                obtain ⟨rfl, rfl⟩ := List.cons.inj htext
                rw [isInside, if_neg hquote, if_neg hclose] at hinside
                exact ⟨inside, by simp, hinside, rfl⟩

/-- A tag whose name is a word, is not continued by its attributes, and whose attributes end where the
tag does. -/
structure IsClean (tag : Tag) : Prop where
  name : IsWordName tag.name
  complete : ∀ c ∈ tag.attributes.head?, Text.isWord c = false
  inside : isInside false tag.attributes = true

/-- Attributes end at one place only. -/
theorem attributes_eq_of_append_eq {first second firstRest secondRest : Text}
    (hfirst : isInside false first = true) (hsecond : isInside false second = true)
    (h : first ++ '>' :: firstRest = second ++ '>' :: secondRest) :
    first = second ∧ firstRest = secondRest := by
  have hread : attributesAfter false [] (first ++ '>' :: firstRest) = some (first, firstRest) :=
    attributesAfter_eq_some_iff.mpr ⟨first, rfl, hfirst, rfl⟩
  have hread' : attributesAfter false [] (first ++ '>' :: firstRest) =
      some (second, secondRest) :=
    attributesAfter_eq_some_iff.mpr ⟨second, rfl, hsecond, h⟩
  rw [hread] at hread'
  cases hread'
  exact ⟨rfl, rfl⟩

/-- What follows the name of a clean tag does not continue it. -/
theorem IsClean.head_attributes {tag : Tag} (h : tag.IsClean) (rest : Text) :
    ∀ c ∈ (tag.attributes ++ '>' :: rest).head?, Text.isWord c = false := by
  intro c hc
  cases hattributes : tag.attributes with
  | nil =>
      rw [hattributes] at hc
      obtain rfl : '>' = c := by simpa using hc
      decide
  | cons d more =>
      rw [hattributes] at hc
      exact h.complete c (by simpa [hattributes] using hc)

/-- A tag is read from its name on exactly if its name ends there as a word and its attributes reach up
to its end. -/
theorem readNamed?_eq_some_iff_borders {closing : Bool} {before : Char} {name text rest : Text}
    {tag : Tag} :
    readNamed? closing before name text = some (tag, rest) ↔
      (tag.closing = closing ∧ tag.name = name) ∧
        borders ((before :: name).getLast (List.cons_ne_nil _ _)) (tag.attributes ++ ['>']).head? =
            true ∧
          isInside false tag.attributes = true ∧ text = name ++ (tag.attributes ++ '>' :: rest) := by
  have hhead : ∀ attributes rest : Text,
      (attributes ++ '>' :: rest).head? = (attributes ++ ['>']).head? := by
    intro attributes rest
    cases attributes <;> rfl
  constructor
  · intro h
    obtain ⟨hclosing, htagname, -⟩ := readNamed?_eq h
    unfold readNamed? at h
    split at h
    · cases h
    next after hafter =>
      split at h
      next hborders =>
        split at h
        next attributes rest' hattributes =>
          cases h
          obtain ⟨inside, hinside, hclosed, rfl⟩ := attributesAfter_eq_some_iff.mp hattributes
          rw [List.reverse_nil, List.nil_append] at hinside
          subst hinside
          rw [hhead] at hborders
          exact ⟨⟨hclosing, htagname⟩, hborders, hclosed, Text.after?_eq_some_iff.mp hafter⟩
        · cases h
      · cases h
  · rintro ⟨⟨rfl, rfl⟩, hborders, hinside, rfl⟩
    have hafter : Text.after? tag.name (tag.name ++ (tag.attributes ++ '>' :: rest)) =
        some (tag.attributes ++ '>' :: rest) := Text.after?_eq_some_iff.mpr rfl
    have hattributes : attributesAfter false [] (tag.attributes ++ '>' :: rest) =
        some (tag.attributes, rest) :=
      attributesAfter_eq_some_iff.mpr ⟨_, rfl, hinside, rfl⟩
    rw [readNamed?, hafter]
    dsimp only
    rw [hhead, if_pos hborders, hattributes]

/-- After a word character a name is complete if what follows does not continue it. -/
theorem borders_iff_of_isWord {last : Char} (hlast : Text.isWord last = true) (attributes : Text) :
    borders last (attributes ++ ['>']).head? = true ↔
      ∀ c ∈ attributes.head?, Text.isWord c = false := by
  have hend : Text.isWord '>' = false := by decide
  cases attributes with
  | nil => simp [borders, hlast, hend]
  | cons c attributes => simp [borders, hlast]

theorem readNamed?_eq_some_iff {closing : Bool} {before : Char} {name text rest : Text} {tag : Tag}
    (hname : IsWordName name) :
    readNamed? closing before name text = some (tag, rest) ↔
      tag.closing = closing ∧ tag.name = name ∧ tag.IsClean ∧
        text = name ++ tag.attributes ++ '>' :: rest := by
  rw [readNamed?_eq_some_iff_borders, borders_iff_of_isWord (hname.getLast_isWord before),
    List.append_assoc]
  constructor
  · rintro ⟨⟨hclosing, htagname⟩, hcomplete, hinside, htext⟩
    exact ⟨hclosing, htagname, ⟨htagname ▸ hname, hcomplete, hinside⟩, htext⟩
  · rintro ⟨hclosing, htagname, hclean, htext⟩
    exact ⟨⟨hclosing, htagname⟩, hclean.complete, hclean.inside, htext⟩

theorem text_append (tag : Tag) (rest : Text) : tag.text ++ rest =
    '<' :: ((if tag.closing then ['/'] else []) ++
      (tag.name ++ (tag.attributes ++ '>' :: rest))) := by
  simp [Tag.text]

/-- A word does not begin with a slash. -/
theorem slash_ne_head {name more rest rest' : Text} (hname : IsWordName name) :
    '/' :: rest ≠ name ++ (more ++ rest') := by
  intro h
  obtain ⟨c, name', hcons⟩ := List.exists_cons_of_ne_nil hname.ne_nil
  have hword := hname.isWord c (by simp [hcons])
  rw [hcons] at h
  obtain ⟨rfl, -⟩ := List.cons.inj h
  exact absurd hword (by decide)

/-- A text begins with at most one clean tag. -/
theorem IsClean.eq_of_append_eq {first second : Tag} (hfirst : first.IsClean)
    (hsecond : second.IsClean) {firstRest secondRest : Text}
    (h : first.text ++ firstRest = second.text ++ secondRest) :
    first = second ∧ firstRest = secondRest := by
  rw [text_append, text_append] at h
  have hbody := (List.cons.inj h).2
  -- One of each kind would make a word begin with a slash.
  have hclosing : first.closing = second.closing := by
    cases hone : first.closing <;> cases htwo : second.closing
    · rfl
    · rw [hone, htwo, if_pos rfl, if_neg Bool.false_ne_true, List.nil_append] at hbody
      exact absurd hbody.symm (slash_ne_head hfirst.name)
    · rw [hone, htwo, if_pos rfl, if_neg Bool.false_ne_true, List.nil_append] at hbody
      exact absurd hbody (slash_ne_head hsecond.name)
    · rfl
  rw [hclosing] at hbody
  obtain ⟨hname, hrest⟩ := Text.eq_of_append_eq hfirst.name.isWord hsecond.name.isWord
    (hfirst.head_attributes firstRest) (hsecond.head_attributes secondRest)
    (List.append_cancel_left hbody)
  obtain ⟨hattributes, hafter⟩ :=
    attributes_eq_of_append_eq hfirst.inside hsecond.inside hrest
  obtain ⟨_, _, _⟩ := first
  obtain ⟨_, _, _⟩ := second
  dsimp only at hclosing hname hattributes
  subst hclosing hname hattributes
  exact ⟨rfl, hafter⟩

variable {names : List Text}

/-- A tag is read from one of the requested names on. -/
theorem exists_readNamed?_of_read? {text rest : Text} {tag : Tag}
    (h : read? names text = some (tag, rest)) : ∃ closing name text, name ∈ names ∧
      readNamed? closing (if closing then '/' else '<') name text = some (tag, rest) := by
  unfold read? at h
  split at h
  next body =>
    split at h
    next found hclosing =>
      rw [h] at hclosing
      unfold readClosing? at hclosing
      split at hclosing
      next body' =>
        obtain ⟨name, hname, hread⟩ := List.exists_of_findSome?_eq_some hclosing
        exact ⟨true, name, body', hname, hread⟩
      next => cases hclosing
    next =>
      obtain ⟨name, hname, hread⟩ := List.exists_of_findSome?_eq_some h
      exact ⟨false, name, body, hname, hread⟩
  next => cases h

theorem isClean_of_read? (hnames : ∀ name ∈ names, IsWordName name) {text rest : Text} {tag : Tag}
    (h : read? names text = some (tag, rest)) : tag.name ∈ names ∧ tag.IsClean := by
  obtain ⟨closing, name, text, hname, hread⟩ := exists_readNamed?_of_read? h
  obtain ⟨-, rfl, hclean, -⟩ := (readNamed?_eq_some_iff (hnames name hname)).mp hread
  exact ⟨hname, hclean⟩

theorem read?_isSome {tag : Tag} (hname : tag.name ∈ names) (hclean : tag.IsClean) (rest : Text) :
    (read? names (tag.text ++ rest)).isSome = true := by
  have hread : ∀ before, readNamed? tag.closing before tag.name
      (tag.name ++ (tag.attributes ++ '>' :: rest)) = some (tag, rest) := fun before =>
    (readNamed?_eq_some_iff hclean.name).mpr ⟨rfl, rfl, hclean, (List.append_assoc _ _ _).symm⟩
  rw [text_append, read?]
  cases hclosing : tag.closing with
  | true =>
      rw [hclosing] at hread
      have hsome : (readClosing? names ('/' :: (tag.name ++ (tag.attributes ++ '>' :: rest)))).isSome
          = true := by
        rw [readClosing?, List.isSome_findSome?, List.any_eq_true]
        exact ⟨tag.name, hname, by rw [hread]; rfl⟩
      simp only [if_true, List.cons_append, List.nil_append]
      split
      · rfl
      next hnone =>
        rw [hnone] at hsome
        cases hsome
  | false =>
      rw [hclosing] at hread
      simp only [Bool.false_eq_true, if_false, List.nil_append]
      split
      · rfl
      · rw [readOpening?, List.isSome_findSome?, List.any_eq_true]
        exact ⟨tag.name, hname, by rw [hread]; rfl⟩

/-- A tag is read exactly where it stands, if it is clean and has a requested name. -/
theorem read?_eq_some_iff (hnames : ∀ name ∈ names, IsWordName name) {text rest : Text}
    {tag : Tag} : read? names text = some (tag, rest) ↔
      tag.name ∈ names ∧ tag.IsClean ∧ text = tag.text ++ rest := by
  constructor
  · intro h
    obtain ⟨hname, hclean⟩ := isClean_of_read? hnames h
    exact ⟨hname, hclean, eq_of_read? h⟩
  · -- Some tag is read here, and no other clean tag can be at the beginning of the same text.
    rintro ⟨hname, hclean, rfl⟩
    obtain ⟨⟨found, rest'⟩, hfound⟩ := Option.isSome_iff_exists.mp (read?_isSome hname hclean rest)
    obtain ⟨-, hclean'⟩ := isClean_of_read? hnames hfound
    obtain ⟨rfl, rfl⟩ := hclean'.eq_of_append_eq hclean (eq_of_read? hfound).symm
    exact hfound

/-- Only at a `<` a tag is read. -/
theorem read?_cons_of_ne {c : Char} (hne : c ≠ '<') (rest : Text) :
    read? names (c :: rest) = none := by
  rw [read?]
  rintro rest' h
  exact hne (List.cons.inj h).1

/-- A clean tag with another name is not read. -/
theorem read?_eq_none_of_not_mem (hnames : ∀ name ∈ names, IsWordName name) {tag : Tag}
    (hclean : tag.IsClean) (hother : tag.name ∉ names) (rest : Text) :
    read? names (tag.text ++ rest) = none := by
  rw [Option.eq_none_iff_forall_ne_some]
  rintro ⟨found, rest'⟩ hread
  obtain ⟨hname, hfound, htext⟩ := (read?_eq_some_iff hnames).mp hread
  obtain ⟨rfl, -⟩ := hclean.eq_of_append_eq hfound htext
  exact hother hname

end Tag

end FormFill

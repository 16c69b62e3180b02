import FormFill.Proofs.Markup.Tag

/-!
# Where tags end

The tag that a text begins with does not depend on what comes after it. This holds of any one name: it may
hold blanks, quotes or slashes, and still no text begins with both an opening and a closing tag of this
name.
-/

namespace FormFill.Tag

variable {names : List Text}

/-- Tags are read from a part of a text as they are read from the text, as long as they end inside the
part. -/
def IsLocal (names : List Text) : Prop :=
  ∀ (text more rest : Text) (tag : Tag),
    read? names (text ++ more) = some (tag, rest ++ more) ↔ read? names text = some (tag, rest)

/-- Tags that are read exactly where they stand are read from a part of a text in the same way. -/
theorem IsLocal.of_iff {p : Tag → Prop}
    (h : ∀ text tag rest, read? names text = some (tag, rest) ↔ p tag ∧ text = tag.text ++ rest) :
    IsLocal names := by
  intro text more rest tag
  rw [h, h, ← List.append_assoc, List.append_left_inj]

/-- Where no tag is read from a text, none is read from a beginning of it. -/
theorem IsLocal.read?_eq_none (hlocal : IsLocal names) {text more : Text}
    (h : read? names (text ++ more) = none) : read? names text = none := by
  rw [Option.eq_none_iff_forall_ne_some]
  rintro ⟨tag, rest⟩ hread
  rw [(hlocal text more rest tag).mpr hread] at h
  cases h

/-- The character in front of the name of a tag. -/
def front (tag : Tag) : Char := if tag.closing then '/' else '<'

/-- A tag, of whatever name, whose name ends as a word and whose attributes reach up to its end. -/
structure IsWhole (tag : Tag) : Prop where
  complete : borders ((tag.front :: tag.name).getLast (List.cons_ne_nil _ _))
    (tag.attributes ++ ['>']).head? = true
  inside : isInside false tag.attributes = true

/-- If a text begins with a name both before and after one more character is taken off, this character
is repeated up to the end of the name. -/
theorem head?_of_cons_append_eq {c : Char} {name rest rest' : Text}
    (h : c :: (name ++ rest) = name ++ rest') :
    rest'.head? = some ((c :: name).getLast (List.cons_ne_nil _ _)) := by
  induction name generalizing c with
  | nil =>
      rw [List.nil_append, List.nil_append] at h
      rw [← h]
      rfl
  | cons d name ih =>
      obtain ⟨rfl, htail⟩ := List.cons.inj h
      rw [ih htail]
      rfl

/-- A text that begins with a closing tag of a name does not begin with an opening tag of it. -/
theorem IsWhole.not_slash {tag : Tag} (hwhole : tag.IsWhole) (hkind : tag.closing = false)
    {rest rest' : Text} : '/' :: (tag.name ++ rest) ≠ tag.name ++ (tag.attributes ++ '>' :: rest') := by
  intro h
  have hcomplete := hwhole.complete
  have hhead := head?_of_cons_append_eq h
  have hends : (tag.attributes ++ '>' :: rest').head? = (tag.attributes ++ ['>']).head? := by
    cases tag.attributes <;> rfl
  rw [← hends, hhead, front, hkind, if_neg Bool.false_ne_true] at hcomplete
  -- The name, or else the character before it, would be followed by a character of the same kind.
  cases hname : tag.name with
  | nil =>
      have hblank : borders '<' (some '/') = false := by decide
      simp only [hname, List.getLast_singleton, hblank, Bool.false_eq_true] at hcomplete
  | cons c name =>
      simp only [hname, List.getLast_cons_cons, borders, Option.any_some, bne_self_eq_false,
        Bool.false_eq_true] at hcomplete

/-- A tag that is read is whole and has a requested name. -/
theorem isWhole_of_read? {text rest : Text} {tag : Tag}
    (h : read? names text = some (tag, rest)) : tag.name ∈ names ∧ tag.IsWhole := by
  obtain ⟨closing, name, text, hname, hread⟩ := exists_readNamed?_of_read? h
  obtain ⟨⟨rfl, rfl⟩, hborders, hinside, -⟩ := readNamed?_eq_some_iff_borders.mp hread
  exact ⟨hname, hborders, hinside⟩

/-- A tag of one name is read exactly where it stands. -/
theorem read?_singleton_eq_some_iff {name text rest : Text} {tag : Tag} :
    read? [name] text = some (tag, rest) ↔
      (tag.name = name ∧ tag.IsWhole) ∧ text = tag.text ++ rest := by
  constructor
  · intro h
    obtain ⟨hname, hwhole⟩ := isWhole_of_read? h
    exact ⟨⟨List.mem_singleton.mp hname, hwhole⟩, eq_of_read? h⟩
  · rintro ⟨⟨rfl, hwhole⟩, rfl⟩
    have hread : readNamed? tag.closing tag.front tag.name
        (tag.name ++ (tag.attributes ++ '>' :: rest)) = some (tag, rest) :=
      readNamed?_eq_some_iff_borders.mpr ⟨⟨rfl, rfl⟩, hwhole.complete, hwhole.inside, rfl⟩
    rw [text_append, read?]
    cases hkind : tag.closing with
    | true =>
        rw [front, hkind, if_pos rfl] at hread
        simp only [if_true, List.cons_append, List.nil_append, readClosing?,
          List.findSome?_singleton, hread]
    | false =>
        rw [front, hkind, if_neg Bool.false_ne_true] at hread
        have hclosing : readClosing? [tag.name] (tag.name ++ (tag.attributes ++ '>' :: rest)) =
            none := by
          rw [Option.eq_none_iff_forall_ne_some]
          rintro ⟨found, rest'⟩ hfound
          unfold readClosing? at hfound
          split at hfound
          next body hbody =>
            rw [List.findSome?_singleton] at hfound
            obtain ⟨-, -, -, rfl⟩ := readNamed?_eq_some_iff_borders.mp hfound
            exact hwhole.not_slash hkind hbody.symm
          next => cases hfound
        simp only [Bool.false_eq_true, if_false, List.nil_append, hclosing, readOpening?,
          List.findSome?_singleton, hread]

/-- Tags of one name are read from a part of a text as they are read from the text. -/
theorem IsLocal.singleton (name : Text) : IsLocal [name] :=
  IsLocal.of_iff fun _ _ _ => read?_singleton_eq_some_iff

end FormFill.Tag

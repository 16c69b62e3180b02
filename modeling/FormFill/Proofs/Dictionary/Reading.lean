import FormFill.Dictionary
import FormFill.Proofs.Text.Search

/-!
# Reading dictionaries

Options and blocks are read from left to right, and text in which none begins is passed over. An option
is read back as it is written. A block reaches from its opening to the first end after it, so there is no
block in a text in which no end follows an opening.
-/

namespace FormFill

namespace Choice

theorem allAfter_eq (done : List Choice) (text : Text) :
    allAfter done text = done.reverse ++ all text := by
  induction hlength : text.length using Nat.strongRecOn generalizing text done with
  | ind bound ih =>
      subst hlength
      rw [all, allAfter, allAfter]
      split
      next choice rest hread =>
        have hshorter := length_lt_of_read? hread
        rw [ih _ hshorter (choice :: done) rest rfl, ih _ hshorter [choice] rest rfl,
          List.reverse_cons, List.append_assoc]
        rfl
      next =>
        split
        · simp
        next rest _ _ => exact ih _ (Nat.lt_succ_self rest.length) done rest rfl

@[simp]
theorem all_nil : all [] = [] := by
  rw [all, allAfter]
  rfl

theorem all_of_read? {text rest : Text} {choice : Choice} (h : read? text = some (choice, rest)) :
    all text = choice :: all rest := by
  rw [all, allAfter]
  split
  next hread =>
    rw [h] at hread
    cases hread
    exact allAfter_eq [choice] rest
  next hread =>
    rw [h] at hread
    cases hread

/-- Only at a bar an option is read. -/
theorem all_cons_of_ne {c : Char} (hne : c ≠ '|') (rest : Text) : all (c :: rest) = all rest := by
  have hnone : read? (c :: rest) = none := by
    unfold read?
    split
    next heq => exact absurd (List.cons.inj heq).1 hne
    next => rfl
  rw [all, allAfter]
  split
  next hread =>
    rw [hnone] at hread
    cases hread
  next => rfl

theorem all_append_of_not_mem {text : Text} (hplain : '|' ∉ text) (rest : Text) :
    all (text ++ rest) = all rest := by
  induction text with
  | nil => rfl
  | cons c text ih =>
      rw [List.mem_cons, not_or] at hplain
      rw [List.cons_append, all_cons_of_ne (Ne.symm hplain.1), ih hplain.2]

/-- An option as it is written. -/
def text (choice : Choice) : Text := '|' :: (choice.value ++ '|' :: (choice.label ++ ['|']))

/-- An option that can be written: its value is a number, and its label fits between two bars in one
line. -/
structure IsWritable (choice : Choice) : Prop where
  value_ne_nil : choice.value ≠ []
  isDigit_value : ∀ c ∈ choice.value, Text.isDigit c = true
  noBar_label : '|' ∉ choice.label
  oneLine_label : '\n' ∉ choice.label

/-- A written option is read back. -/
theorem read?_text {choice : Choice} (h : choice.IsWritable) (rest : Text) :
    read? (choice.text ++ rest) = some (choice, rest) := by
  obtain ⟨value, label⟩ := choice
  obtain ⟨hvalue, hdigits, hbar, hline⟩ := h
  have hlabel : Text.splitAt? ['|'] (· != '\n') (label ++ (['|'] ++ rest)) = some (label, rest) := by
    refine Text.splitAt?_append_mark rest (fun left hne hleft => ?_) fun c hc => ?_
    · exact Text.after?_append_of_not_mem hbar hne hleft [] _
    · rw [bne_iff_ne]
      rintro rfl
      exact hline hc
  have hend : Text.isDigit '|' = false := by decide
  have htake : (value ++ '|' :: (label ++ (['|'] ++ rest))).takeWhile Text.isDigit = value := by
    rw [List.takeWhile_append_of_pos hdigits, List.takeWhile_cons_of_neg (by simp [hend]),
      List.append_nil]
  have hdrop : (value ++ '|' :: (label ++ (['|'] ++ rest))).dropWhile Text.isDigit =
      '|' :: (label ++ (['|'] ++ rest)) := by
    rw [List.dropWhile_append_of_pos hdigits, List.dropWhile_cons_of_neg (by simp [hend])]
  have htext : text ⟨value, label⟩ ++ rest = '|' :: (value ++ '|' :: (label ++ (['|'] ++ rest))) := by
    simp [text]
  obtain ⟨digit, digits, rfl⟩ := List.exists_cons_of_ne_nil hvalue
  rw [htext, read?]
  simp only [htake, hdrop, hlabel, Option.map_some]

theorem IsWritable.noTag_text {choice : Choice} (h : choice.IsWritable) (hlabel : '<' ∉ choice.label) :
    '<' ∉ choice.text := by
  have hvalue : '<' ∉ choice.value := by
    intro hmem
    exact absurd (h.isDigit_value '<' hmem) (by decide)
  simp [text, hvalue, hlabel]

end Choice

namespace Dictionary

/-- The characters between the name of a block and its content. -/
def nameClosing : Text := ['"', '>']

theorem blocksAfter_eq (done : List (Text × Text)) (text : Text) :
    blocksAfter done text = done.reverse ++ blocks text := by
  induction hlength : text.length using Nat.strongRecOn generalizing text done with
  | ind bound ih =>
      subst hlength
      rw [blocks, blocksAfter, blocksAfter]
      split
      next block rest hread =>
        have hshorter := length_lt_of_readBlock? hread
        rw [ih _ hshorter (block :: done) rest rfl, ih _ hshorter [block] rest rfl,
          List.reverse_cons, List.append_assoc]
        rfl
      next =>
        split
        · simp
        next rest _ _ => exact ih _ (Nat.lt_succ_self rest.length) done rest rfl

@[simp]
theorem blocks_nil : blocks [] = [] := by
  rw [blocks, blocksAfter]
  rfl

theorem blocks_of_readBlock? {text rest : Text} {block : Text × Text}
    (h : readBlock? text = some (block, rest)) : blocks text = block :: blocks rest := by
  rw [blocks, blocksAfter]
  split
  next hread =>
    rw [h] at hread
    cases hread
    exact blocksAfter_eq [block] rest
  next hread =>
    rw [h] at hread
    cases hread

theorem blocks_cons {c : Char} {rest : Text} (h : readBlock? (c :: rest) = none) :
    blocks (c :: rest) = blocks rest := by
  rw [blocks, blocksAfter]
  split
  next hread =>
    rw [h] at hread
    cases hread
  next => rfl

theorem blockOpening_eq : blockOpening = '<' :: blockOpening.tail := rfl

theorem blockClosing_eq : blockClosing = '<' :: blockClosing.tail := rfl

/-- Only at a `<` a block is read. -/
theorem blocks_append_of_not_mem {text : Text} (hplain : '<' ∉ text) (rest : Text) :
    blocks (text ++ rest) = blocks rest := by
  induction text with
  | nil => rfl
  | cons c text ih =>
      rw [List.mem_cons, not_or] at hplain
      have hnone : readBlock? (c :: (text ++ rest)) = none := by
        rw [readBlock?, blockOpening_eq, Text.after?_cons_of_ne hplain.1]
      rw [List.cons_append, blocks_cons hnone, ih hplain.2]

/-- There is no block in a text if none begins anywhere in it. -/
theorem blocks_eq_nil {text : Text} (h : ∀ rest, rest <:+ text → readBlock? rest = none) :
    blocks text = [] := by
  induction text with
  | nil => exact blocks_nil
  | cons c text ih =>
      rw [blocks_cons (h _ List.suffix_rfl)]
      exact ih fun rest hrest => h rest (hrest.trans (List.suffix_cons c text))

/-- A block that is read has its end behind its opening. -/
theorem eq_of_readBlock? {text rest name content : Text}
    (h : readBlock? text = some ((name, content), rest)) :
    text = blockOpening ++ name ++ nameClosing ++ (content ++ blockClosing ++ rest) := by
  unfold readBlock? at h
  split at h
  · cases h
  next named hnamed =>
    split at h
    · cases h
    next found opened hopened =>
      obtain ⟨⟨inside, after⟩, hfound, heq⟩ := Option.map_eq_some_iff.mp h
      cases heq
      have hopening := Text.eq_of_splitAt? hopened
      rw [Text.after?_eq_some_iff.mp hnamed, hopening, Text.eq_of_splitAt? hfound, nameClosing]
      simp only [List.append_assoc]

/-- What may stand between the quotes of a name. -/
structure IsName (name : Text) : Prop where
  oneLine : '\n' ∉ name
  noClosing : ¬nameClosing <:+: name

/-- Where an opening is complete, everything up to the first end is the content. -/
theorem readBlock?_opening {name : Text} (hname : IsName name) (text : Text) :
    readBlock? (blockOpening ++ (name ++ (nameClosing ++ text))) =
      (Text.splitAt? blockClosing (fun _ => true) text).map fun found =>
        ((name, found.1), found.2) := by
  have hsplit : Text.splitAt? nameClosing (· != '\n') (name ++ (nameClosing ++ text)) =
      some (name, text) := by
    refine Text.splitAt?_append_mark text (fun left hne hleft => ?_) fun c hc => ?_
    · -- The last character of the name cannot be the quote in front of the `>`.
      rw [Text.after?_eq_none_iff]
      intro hprefix
      rcases left with _ | ⟨c, _ | ⟨d, left⟩⟩
      · exact hne rfl
      · have hend := (List.cons_prefix_cons.mp (List.cons_prefix_cons.mp hprefix).2).1
        exact absurd hend (by decide)
      · obtain ⟨rfl, hrest⟩ := List.cons_prefix_cons.mp hprefix
        obtain ⟨rfl, -⟩ := List.cons_prefix_cons.mp hrest
        exact hname.noClosing ((List.prefix_append nameClosing left).isInfix.trans hleft.isInfix)
    · rw [bne_iff_ne]
      rintro rfl
      exact hname.oneLine hc
  rw [readBlock?, Text.after?_append, ← nameClosing]
  dsimp only
  rw [hsplit]

/-- What comes behind the end of a name comes behind the first end of a name in the same text. -/
theorem suffix_of_nameClosing {first second firstRest secondRest : Text}
    (hfirst : ¬nameClosing <:+: first)
    (h : first ++ (nameClosing ++ firstRest) = second ++ (nameClosing ++ secondRest)) :
    secondRest <:+ firstRest := by
  rcases List.append_eq_append_iff.mp h with ⟨more, hmore, hrest⟩ | ⟨more, rfl, hrest⟩
  · rcases more with _ | ⟨c, _ | ⟨d, more⟩⟩
    · rw [List.nil_append] at hrest
      rw [List.append_cancel_left hrest]
    · have hend := (List.cons.inj (List.cons.inj hrest).2).1
      exact absurd hend (by decide)
    · have htail : firstRest = more ++ (nameClosing ++ secondRest) :=
        (List.cons.inj (List.cons.inj hrest).2).2
      rw [htail, ← List.append_assoc]
      exact List.suffix_append _ _
  · rcases more with _ | ⟨c, _ | ⟨d, more⟩⟩
    · rw [List.nil_append] at hrest
      rw [List.append_cancel_left hrest]
    · have hend := (List.cons.inj (List.cons.inj hrest).2).1
      exact absurd hend (by decide)
    · obtain ⟨rfl, htail⟩ := List.cons.inj hrest
      obtain ⟨rfl, -⟩ := List.cons.inj htail
      refine absurd ?_ hfirst
      exact (List.prefix_append nameClosing more).isInfix.trans (List.suffix_append _ _).isInfix

/-- No block begins at an opening or behind it if no end follows. -/
theorem blocks_opening_eq_nil {name text : Text} (hname : IsName name)
    (hopen : ¬blockClosing <:+: text) :
    blocks (blockOpening ++ (name ++ (nameClosing ++ text))) = [] := by
  have hplain : '<' ∉ blockOpening.tail := by decide
  have hhere : readBlock? ('<' :: (blockOpening.tail ++ (name ++ (nameClosing ++ text)))) = none := by
    have hread := readBlock?_opening hname text
    rwa [Text.splitAt?_eq_none_iff.mpr hopen] at hread
  rw [blockOpening_eq, List.cons_append, blocks_cons hhere, blocks_append_of_not_mem hplain]
  refine blocks_eq_nil fun rest hrest => ?_
  rw [Option.eq_none_iff_forall_ne_some]
  rintro ⟨⟨other, content⟩, after⟩ hread
  obtain ⟨front, hfront⟩ := hrest
  rw [eq_of_readBlock? hread, List.append_assoc, List.append_assoc] at hfront
  have hsame : name ++ (nameClosing ++ text) = (front ++ (blockOpening ++ other)) ++
      (nameClosing ++ (content ++ blockClosing ++ after)) := by
    rw [← hfront]
    simp
  have hbehind := suffix_of_nameClosing hname.noClosing hsame
  exact hopen ((List.infix_append content blockClosing after).trans hbehind.isInfix)

end Dictionary

end FormFill

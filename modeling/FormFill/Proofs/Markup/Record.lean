import FormFill.Proofs.Markup.Spans

/-!
# The tags that a search uses

The search for elements can be made to keep a record of the tags that it uses: the ones it comes to between
elements, and the ones by which it counts the depth inside an element. It can also be told to take some
tags for plain text. If it takes every tag, it finds the elements of the text. If it takes fewer tags, it
comes to the same result with the same record exactly if all tags of the record are taken.
-/

namespace FormFill

namespace Tag

variable {names : List Text} {taken : Tag → Bool}

/-- Finds the first tag in a text that is taken. Other tags are plain text. -/
def findTaken? (taken : Tag → Bool) (names : List Text) : Text → Option (Text × Tag × Text)
  | [] => none
  | c :: rest =>
    match (read? names (c :: rest)).filter fun found => taken found.1 with
    | some (tag, rest) => some ([], tag, rest)
    | none => (findTaken? taken names rest).map (prepend [c])

/-- The tag that is found is taken and read where it stands. -/
theorem spec_of_findTaken? {text gap rest : Text} {tag : Tag}
    (h : findTaken? taken names text = some (gap, tag, rest)) :
    text = gap ++ tag.text ++ rest ∧ taken tag = true ∧
      read? names (tag.text ++ rest) = some (tag, rest) := by
  induction text generalizing gap with
  | nil => cases h
  | cons c text ih =>
      rw [findTaken?] at h
      split at h
      next tag' rest' hread =>
        cases h
        obtain ⟨hread, htaken⟩ := Option.filter_eq_some_iff.mp hread
        have htext := eq_of_read? hread
        exact ⟨htext, htaken, htext ▸ hread⟩
      next =>
        obtain ⟨⟨gap', tag', rest'⟩, hfound, heq⟩ := Option.map_eq_some_iff.mp h
        cases heq
        obtain ⟨htext, htaken, hread⟩ := ih hfound
        exact ⟨congrArg (c :: ·) htext, htaken, hread⟩

theorem length_lt_of_findTaken? {text gap rest : Text} {tag : Tag}
    (h : findTaken? taken names text = some (gap, tag, rest)) : rest.length < text.length := by
  have hpos := tag.length_pos
  rw [(spec_of_findTaken? h).1, List.length_append, List.length_append]
  omega

/-- If the first tag is taken, it is found. -/
theorem findTaken?_of_find? {text gap rest : Text} {tag : Tag}
    (h : find? names text = some (gap, tag, rest)) (htaken : taken tag = true) :
    findTaken? taken names text = some (gap, tag, rest) := by
  induction text generalizing gap with
  | nil => cases h
  | cons c text ih =>
      rw [findTaken?]
      cases hread : read? names (c :: text) with
      | some found =>
          rw [find?_of_read? hread] at h
          cases h
          rw [Option.filter_some, if_pos htaken]
      | none =>
          rw [find?_cons hread] at h
          obtain ⟨⟨gap', tag', rest'⟩, hfound, heq⟩ := Option.map_eq_some_iff.mp h
          cases heq
          rw [Option.filter_none, ih hfound]
          rfl

theorem findTaken?_eq_none {text : Text} (h : find? names text = none) :
    findTaken? taken names text = none := by
  induction text with
  | nil => rfl
  | cons c text ih =>
      rw [findTaken?]
      cases hread : read? names (c :: text) with
      | some found =>
          rw [find?_of_read? hread] at h
          cases h
      | none =>
          rw [find?_cons hread, Option.map_eq_none_iff] at h
          rw [Option.filter_none, ih h]
          rfl

/-- Takes every tag. -/
def every (_ : Tag) : Bool := true

theorem findTaken?_every (names : List Text) (text : Text) :
    findTaken? every names text = find? names text := by
  cases hfind : find? names text with
  | none => exact findTaken?_eq_none hfind
  | some found => exact findTaken?_of_find? hfind rfl

end Tag

/-- What a search comes to: its result, and the tags that it used, in this order. -/
structure Record (α : Type) where
  result : α
  used : List PlacedTag

namespace Record

variable {α β : Type}

/-- A record with more tags in front. -/
def after (tags : List PlacedTag) (record : Record α) : Record α :=
  { record with used := tags ++ record.used }

/-- A record with another result. -/
def map (f : α → β) (record : Record α) : Record β := { record with result := f record.result }

@[simp]
theorem map_result (f : α → β) (record : Record α) : (record.map f).result = f record.result := rfl

end Record

namespace Element

open Tag

variable {names : List Text} {name : Text} {taken : Tag → Bool}

/-- Searches for the tag that closes an element in which `depth` others are open, in a text that starts
at an offset: the tag and the rest of the text. -/
def recordClosing (taken : Tag → Bool) (name : Text) (depth offset : Nat) (text : Text) :
    Record (Option (PlacedTag × Text)) :=
  match _hfind : findTaken? taken [name] text with
  | none => ⟨none, []⟩
  | some (gap, tag, rest) =>
    let here : PlacedTag := ⟨tag, offset + gap.length⟩
    match tag.depth? depth with
    | none => ⟨some (here, rest), [here]⟩
    | some next => (recordClosing taken name next here.stop rest).after [here]
termination_by text.length
decreasing_by exact length_lt_of_findTaken? _hfind

theorem length_lt_of_recordClosing {depth offset : Nat} {text rest : Text} {close : PlacedTag}
    (h : (recordClosing taken name depth offset text).result = some (close, rest)) :
    rest.length < text.length := by
  fun_induction recordClosing taken name depth offset text with
  | case1 => cases h
  | case2 depth offset text gap tag rest' hfind here hdepth =>
      simp only [Option.some.injEq, Prod.mk.injEq] at h
      obtain ⟨-, rfl⟩ := h
      exact length_lt_of_findTaken? hfind
  | case3 depth offset text gap tag rest' hfind here next hdepth ih =>
      exact Nat.lt_trans (ih h) (length_lt_of_findTaken? hfind)

/-- Searches for the outermost elements in a text that starts at an offset. -/
def recordFrom (taken : Tag → Bool) (names : List Text) (offset : Nat) (text : Text) :
    Record (List Element) :=
  match _hfind : findTaken? taken names text with
  | none => ⟨[], []⟩
  | some (gap, tag, rest) =>
    let here : PlacedTag := ⟨tag, offset + gap.length⟩
    if tag.closing then (recordFrom taken names here.stop rest).after [here]
    else match tag.ownClosing? with
      | some attributes =>
        ((recordFrom taken names here.stop rest).after [here]).map (ofOwn attributes here :: ·)
      | none =>
        let closing := recordClosing taken tag.name 0 here.stop rest
        match _hclose : closing.result with
        | none => (recordFrom taken names here.stop rest).after (here :: closing.used)
        | some (close, after) =>
          ((recordFrom taken names close.stop after).after (here :: closing.used)).map
            (⟨tag.name, tag.attributes, rest.take (close.start - here.stop), false, here.start,
              close.stop⟩ :: ·)
termination_by text.length
decreasing_by
  all_goals first
    | exact length_lt_of_findTaken? _hfind
    | exact Nat.lt_trans (length_lt_of_recordClosing _hclose) (length_lt_of_findTaken? _hfind)

section Steps

variable {depth offset : Nat} {text gap rest : Text} {tag : Tag}

theorem recordClosing_nothing (hfind : findTaken? taken [name] text = none) :
    recordClosing taken name depth offset text = ⟨none, []⟩ := by
  rw [recordClosing]
  split
  · rfl
  next hfound =>
    rw [hfind] at hfound
    cases hfound

/-- One step of the search for a closing tag. -/
theorem recordClosing_step (hfind : findTaken? taken [name] text = some (gap, tag, rest)) :
    recordClosing taken name depth offset text =
      match tag.depth? depth with
      | none => ⟨some (⟨tag, offset + gap.length⟩, rest), [⟨tag, offset + gap.length⟩]⟩
      | some next =>
        (recordClosing taken name next (offset + gap.length + tag.text.length) rest).after
          [⟨tag, offset + gap.length⟩] := by
  rw [recordClosing]
  split
  next hnone =>
    rw [hfind] at hnone
    cases hnone
  next hfound =>
    rw [hfind] at hfound
    cases hfound
    rfl

theorem recordFrom_nothing (hfind : findTaken? taken names text = none) :
    recordFrom taken names offset text = ⟨[], []⟩ := by
  rw [recordFrom]
  split
  · rfl
  next hfound =>
    rw [hfind] at hfound
    cases hfound

variable (hfind : findTaken? taken names text = some (gap, tag, rest))

include hfind

/-- One step of the search for elements. -/
theorem recordFrom_step :
    recordFrom taken names offset text =
      let here : PlacedTag := ⟨tag, offset + gap.length⟩
      if tag.closing then (recordFrom taken names here.stop rest).after [here]
      else match tag.ownClosing? with
        | some attributes =>
          ((recordFrom taken names here.stop rest).after [here]).map (ofOwn attributes here :: ·)
        | none =>
          let closing := recordClosing taken tag.name 0 here.stop rest
          match closing.result with
          | none => (recordFrom taken names here.stop rest).after (here :: closing.used)
          | some (close, after) =>
            ((recordFrom taken names close.stop after).after (here :: closing.used)).map
              (⟨tag.name, tag.attributes, rest.take (close.start - here.stop), false, here.start,
                close.stop⟩ :: ·) := by
  rw [recordFrom]
  split
  next hnone =>
    rw [hfind] at hnone
    cases hnone
  next hfound =>
    rw [hfind] at hfound
    cases hfound
    dsimp only
    split
    · rfl
    · cases hown : tag.ownClosing? with
      | some attributes => rfl
      | none =>
          dsimp only
          split
          next hnone => rw [hnone]
          next hclose => rw [hclose]

/-- A closing tag between elements is passed over. -/
theorem recordFrom_stray (hkind : tag.closing = true) :
    recordFrom taken names offset text =
      (recordFrom taken names (offset + gap.length + tag.text.length) rest).after
        [⟨tag, offset + gap.length⟩] := by
  rw [recordFrom_step hfind]
  exact if_pos hkind

variable (hkind : ¬tag.closing = true)

include hkind

/-- A tag that closes itself is an element. -/
theorem recordFrom_own {attributes : Text} (hown : tag.ownClosing? = some attributes) :
    recordFrom taken names offset text =
      ((recordFrom taken names (offset + gap.length + tag.text.length) rest).after
        [⟨tag, offset + gap.length⟩]).map (ofOwn attributes ⟨tag, offset + gap.length⟩ :: ·) := by
  rw [recordFrom_step hfind]
  dsimp only
  rw [if_neg hkind, hown]
  rfl

variable (hown : tag.ownClosing? = none) {closing : Record (Option (PlacedTag × Text))}
  (hclosing : recordClosing taken tag.name 0 (offset + gap.length + tag.text.length) rest = closing)

include hown hclosing

/-- An opening tag without a closing one is passed over, when the tags behind it have been used. -/
theorem recordFrom_unclosed (hclose : closing.result = none) :
    recordFrom taken names offset text =
      (recordFrom taken names (offset + gap.length + tag.text.length) rest).after
        (⟨tag, offset + gap.length⟩ :: closing.used) := by
  rw [recordFrom_step hfind]
  dsimp only [PlacedTag.stop]
  rw [if_neg hkind, hown, hclosing]
  dsimp only
  rw [hclose]

/-- An opening tag with a closing one is an element. -/
theorem recordFrom_pair {close : PlacedTag} {after : Text}
    (hclose : closing.result = some (close, after)) :
    recordFrom taken names offset text =
      ((recordFrom taken names close.stop after).after
        (⟨tag, offset + gap.length⟩ :: closing.used)).map
          (⟨tag.name, tag.attributes,
            rest.take (close.start - (offset + gap.length + tag.text.length)), false,
            offset + gap.length, close.stop⟩ :: ·) := by
  rw [recordFrom_step hfind]
  dsimp only [PlacedTag.stop]
  rw [if_neg hkind, hown, hclosing]
  dsimp only
  rw [hclose]

end Steps

/-- If every tag is taken, the closing tag is found that the search for it finds. -/
theorem recordClosing_every (name : Text) (depth base passed : Nat) (text : Text) :
    (recordClosing every name depth (base + passed) text).result =
      (closing? name (depth + 1) passed text).map fun found =>
        (⟨found.2.1, base + found.1⟩, found.2.2) := by
  induction hlength : text.length using Nat.strongRecOn generalizing text depth passed with
  | ind bound ih =>
      subst hlength
      have hevery := findTaken?_every [name] text
      cases hfind : find? [name] text with
      | none =>
          rw [closing?_of_find?_eq_none hfind, recordClosing_nothing (hevery.trans hfind)]
          rfl
      | some found =>
          obtain ⟨gap, tag, rest⟩ := found
          rw [closing?_of_depth? hfind, recordClosing_step (hevery.trans hfind)]
          cases tag.depth? depth with
          | none =>
              dsimp only
              rw [Option.map_some, Nat.add_assoc]
          | some next =>
              have hrest := ih _ (length_lt_of_find? hfind) next
                (passed + gap.length + tag.text.length) rest rfl
              rw [← Nat.add_assoc, ← Nat.add_assoc] at hrest
              exact hrest

/-- If every tag is taken, the elements of the text are found. -/
theorem recordFrom_every (names : List Text) (offset : Nat) (text : Text) :
    (recordFrom every names offset text).result = allFrom names offset text := by
  fun_induction allFrom names offset text with
  | case1 offset text hfind => rw [recordFrom_nothing ((findTaken?_every names text).trans hfind)]
  | case2 offset text gap tag rest hfind start inside hkind ih =>
      rw [recordFrom_stray ((findTaken?_every names text).trans hfind) hkind]
      exact ih
  | case3 offset text gap tag rest hfind start inside hkind attributes hown ih =>
      rw [recordFrom_own ((findTaken?_every names text).trans hfind) hkind hown]
      exact congrArg _ ih
  | case4 offset text gap tag rest hfind start inside hkind hown hclose ih =>
      have hresult := recordClosing_every tag.name 0 inside 0 rest
      rw [Nat.zero_add, hclose] at hresult
      rw [recordFrom_unclosed ((findTaken?_every names text).trans hfind) hkind hown rfl hresult]
      exact ih
  | case5 offset text gap tag rest hfind start inside hkind hown length close after hclose stop ih =>
      have hresult := recordClosing_every tag.name 0 inside 0 rest
      rw [Nat.zero_add, hclose] at hresult
      have hlength : inside + length - (offset + gap.length + tag.text.length) = length :=
        Nat.add_sub_cancel_left inside length
      rw [recordFrom_pair ((findTaken?_every names text).trans hfind) hkind hown rfl hresult]
      dsimp only [Record.map_result]
      rw [hlength]
      exact congrArg _ ih

/-- A search comes to the same if the tags that it would use are all taken. -/
theorem recordClosing_eq_every {depth offset : Nat} {text : Text}
    (h : ∀ placed ∈ (recordClosing every name depth offset text).used, taken placed.tag = true) :
    recordClosing taken name depth offset text = recordClosing every name depth offset text := by
  fun_induction recordClosing every name depth offset text with
  | case1 depth offset text hfind =>
      rw [findTaken?_every] at hfind
      exact recordClosing_nothing (findTaken?_eq_none hfind)
  | case2 depth offset text gap tag rest hfind here hdepth =>
      rw [findTaken?_every] at hfind
      have htaken : taken tag = true := h here (List.mem_singleton_self _)
      rw [recordClosing_step (findTaken?_of_find? hfind htaken), hdepth]
  | case3 depth offset text gap tag rest hfind here next hdepth ih =>
      rw [findTaken?_every] at hfind
      obtain ⟨htaken, hrest⟩ := List.forall_mem_cons.mp h
      rw [recordClosing_step (findTaken?_of_find? hfind htaken), hdepth]
      exact congrArg (Record.after [here]) (ih hrest)

theorem recordFrom_eq_every {offset : Nat} {text : Text}
    (h : ∀ placed ∈ (recordFrom every names offset text).used, taken placed.tag = true) :
    recordFrom taken names offset text = recordFrom every names offset text := by
  fun_induction recordFrom every names offset text with
  | case1 offset text hfind =>
      rw [findTaken?_every] at hfind
      exact recordFrom_nothing (findTaken?_eq_none hfind)
  | case2 offset text gap tag rest hfind here hkind ih =>
      rw [findTaken?_every] at hfind
      obtain ⟨htaken, hrest⟩ := List.forall_mem_cons.mp h
      rw [recordFrom_stray (findTaken?_of_find? hfind htaken) hkind]
      exact congrArg (Record.after [here]) (ih hrest)
  | case3 offset text gap tag rest hfind here hkind attributes hown ih =>
      rw [findTaken?_every] at hfind
      obtain ⟨htaken, hrest⟩ := List.forall_mem_cons.mp h
      rw [recordFrom_own (findTaken?_of_find? hfind htaken) hkind hown]
      exact congrArg (Record.map _ ∘ Record.after [here]) (ih hrest)
  | case4 offset text gap tag rest hfind here hkind hown closing hclose ih =>
      rw [findTaken?_every] at hfind
      obtain ⟨htaken, htags⟩ := List.forall_mem_cons.mp h
      obtain ⟨hinside, hrest⟩ := List.forall_mem_append.mp htags
      rw [recordFrom_unclosed (findTaken?_of_find? hfind htaken) hkind hown
        (recordClosing_eq_every hinside) hclose]
      exact congrArg (Record.after (here :: closing.used)) (ih hrest)
  | case5 offset text gap tag rest hfind here hkind hown closing close after hclose ih =>
      rw [findTaken?_every] at hfind
      obtain ⟨htaken, htags⟩ := List.forall_mem_cons.mp h
      obtain ⟨hinside, hrest⟩ := List.forall_mem_append.mp htags
      rw [recordFrom_pair (findTaken?_of_find? hfind htaken) hkind hown
        (recordClosing_eq_every hinside) hclose]
      exact congrArg (Record.map _ ∘ Record.after (here :: closing.used)) (ih hrest)

/-- A tag of a text that is taken, is whole and has a requested name. -/
structure IsUsed (taken : Tag → Bool) (names : List Text) (whole : Text) (placed : PlacedTag) :
    Prop where
  taken : taken placed.tag = true
  name_mem : placed.tag.name ∈ names
  isWhole : placed.tag.IsWhole
  stands : whole.drop placed.start = placed.tag.text ++ whole.drop placed.stop

theorem IsUsed.of_singleton {whole : Text} {placed : PlacedTag}
    (h : IsUsed taken [name] whole placed) (hname : name ∈ names) :
    IsUsed taken names whole placed :=
  { h with name_mem := by rwa [List.mem_singleton.mp h.name_mem] }

theorem isUsed_of_findTaken? {whole text gap rest : Text} {offset : Nat} {tag : Tag}
    (hwhole : whole.drop offset = text)
    (hfind : findTaken? taken names text = some (gap, tag, rest)) :
    IsUsed taken names whole ⟨tag, offset + gap.length⟩ ∧
      whole.drop (PlacedTag.stop ⟨tag, offset + gap.length⟩) = rest := by
  obtain ⟨htext, htaken, hread⟩ := spec_of_findTaken? hfind
  obtain ⟨hname, hcomplete⟩ := isWhole_of_read? hread
  rw [htext, List.append_assoc] at hwhole
  have hstart := Text.drop_of_drop_eq hwhole
  have hstop := Text.drop_of_drop_eq hstart
  exact ⟨⟨htaken, hname, hcomplete, hstart.trans (congrArg _ hstop.symm)⟩, hstop⟩

/-- What the search for a closing tag uses, and the tag that it finds. -/
theorem isUsed_recordClosing (taken : Tag → Bool) (name : Text) (depth : Nat) {whole text : Text}
    {offset : Nat} (hwhole : whole.drop offset = text) :
    (∀ placed ∈ (recordClosing taken name depth offset text).used,
        IsUsed taken [name] whole placed) ∧
      ∀ close rest, (recordClosing taken name depth offset text).result = some (close, rest) →
        close ∈ (recordClosing taken name depth offset text).used ∧ close.tag.closing = true ∧
          whole.drop close.stop = rest := by
  fun_induction recordClosing taken name depth offset text with
  | case1 => simp
  | case2 depth offset text gap tag rest hfind here hdepth =>
      obtain ⟨hused, hstop⟩ := isUsed_of_findTaken? hwhole hfind
      refine ⟨List.forall_mem_singleton.mpr hused, ?_⟩
      rintro close rest' hclose
      simp only [Option.some.injEq, Prod.mk.injEq] at hclose
      obtain ⟨rfl, rfl⟩ := hclose
      exact ⟨List.mem_singleton_self _, (depth?_eq_none_iff.mp hdepth).1, hstop⟩
  | case3 depth offset text gap tag rest hfind here next hdepth ih =>
      obtain ⟨hused, hstop⟩ := isUsed_of_findTaken? hwhole hfind
      obtain ⟨hmore, hresult⟩ := ih hstop
      refine ⟨List.forall_mem_cons.mpr ⟨hused, hmore⟩, fun close rest' hclose => ?_⟩
      obtain ⟨hmem, hclosing⟩ := hresult close rest' hclose
      exact ⟨List.mem_cons_of_mem _ hmem, hclosing⟩

theorem isUsed_recordFrom {whole text : Text} {offset : Nat} (hwhole : whole.drop offset = text) :
    ∀ placed ∈ (recordFrom taken names offset text).used, IsUsed taken names whole placed := by
  fun_induction recordFrom taken names offset text with
  | case1 => simp
  | case2 offset text gap tag rest hfind here hkind ih =>
      obtain ⟨hused, hstop⟩ := isUsed_of_findTaken? hwhole hfind
      exact List.forall_mem_cons.mpr ⟨hused, ih hstop⟩
  | case3 offset text gap tag rest hfind here hkind attributes hown ih =>
      obtain ⟨hused, hstop⟩ := isUsed_of_findTaken? hwhole hfind
      exact List.forall_mem_cons.mpr ⟨hused, ih hstop⟩
  | case4 offset text gap tag rest hfind here hkind hown closing hclose ih =>
      obtain ⟨hused, hstop⟩ := isUsed_of_findTaken? hwhole hfind
      have hinside := (isUsed_recordClosing taken tag.name 0 hstop).1
      refine List.forall_mem_cons.mpr ⟨hused, List.forall_mem_append.mpr ⟨?_, ih hstop⟩⟩
      exact fun placed hmem => (hinside placed hmem).of_singleton hused.name_mem
  | case5 offset text gap tag rest hfind here hkind hown closing close after hclose ih =>
      obtain ⟨hused, hstop⟩ := isUsed_of_findTaken? hwhole hfind
      obtain ⟨hinside, hresult⟩ := isUsed_recordClosing taken tag.name 0 hstop
      have hafter := (hresult close after hclose).2.2
      refine List.forall_mem_cons.mpr ⟨hused, List.forall_mem_append.mpr ⟨?_, ih hafter⟩⟩
      exact fun placed hmem => (hinside placed hmem).of_singleton hused.name_mem

/-- The search for the elements with one of the given names in a text. -/
def record (taken : Tag → Bool) (names : List Text) (text : Text) : Record (List Element) :=
  recordFrom taken (requested names) 0 text

/-- The tags that the search for elements uses, in the order in which it uses them. -/
def used (names : List Text) (text : Text) : List PlacedTag := (record every names text).used

theorem result_record_every (names : List Text) (text : Text) :
    (record every names text).result = all names text :=
  recordFrom_every (requested names) 0 text

theorem isUsed_record {text : Text} :
    ∀ placed ∈ (record taken names text).used, IsUsed taken (requested names) text placed :=
  isUsed_recordFrom List.drop_zero

/-- A search comes to the same exactly if the tags that the search for elements uses are all taken. -/
theorem record_eq_every_iff {text : Text} :
    record taken names text = record every names text ↔
      ∀ placed ∈ used names text, taken placed.tag = true := by
  constructor
  · intro hsame placed hmem
    rw [used, ← hsame] at hmem
    exact (isUsed_record placed hmem).taken
  · exact recordFrom_eq_every

/-- An element whose own tags are among some tags. -/
structure IsMadeOf (tags : List PlacedTag) (element : Element) : Prop where
  opening : ∃ placed ∈ tags, placed.tag.closing = false ∧ placed.tag.name = element.tag ∧
    placed.start = element.start
  close : element.selfClosing = false → ∃ placed ∈ tags, placed.tag.closing = true ∧
    placed.tag.name = element.tag ∧ placed.stop = element.stop

theorem IsMadeOf.of_subset {tags more : List PlacedTag} {element : Element}
    (h : IsMadeOf tags element) (hmore : tags ⊆ more) : IsMadeOf more element := by
  obtain ⟨opening, hopening, hopens⟩ := h.opening
  refine ⟨⟨opening, hmore hopening, hopens⟩, fun hpair => ?_⟩
  obtain ⟨close, hclose, hcloses⟩ := h.close hpair
  exact ⟨close, hmore hclose, hcloses⟩

/-- The tags of an element are in the record of the search that finds it. -/
theorem isMadeOf_recordFrom {whole text : Text} {offset : Nat} (hwhole : whole.drop offset = text) :
    ∀ element ∈ (recordFrom taken names offset text).result,
      IsMadeOf (recordFrom taken names offset text).used element := by
  fun_induction recordFrom taken names offset text with
  | case1 => simp
  | case2 offset text gap tag rest hfind here hkind ih =>
      have hstop := (isUsed_of_findTaken? hwhole hfind).2
      exact fun element hmem => (ih hstop element hmem).of_subset (List.subset_append_right _ _)
  | case3 offset text gap tag rest hfind here hkind attributes hown ih =>
      have hstop := (isUsed_of_findTaken? hwhole hfind).2
      refine List.forall_mem_cons.mpr ⟨⟨⟨here, List.mem_cons_self, ?_, rfl, rfl⟩, nofun⟩, ?_⟩
      · exact Bool.eq_false_iff.mpr hkind
      · exact fun element hmem => (ih hstop element hmem).of_subset (List.subset_append_right _ _)
  | case4 offset text gap tag rest hfind here hkind hown closing hclose ih =>
      have hstop := (isUsed_of_findTaken? hwhole hfind).2
      exact fun element hmem => (ih hstop element hmem).of_subset (List.subset_append_right _ _)
  | case5 offset text gap tag rest hfind here hkind hown closing close after hclose ih =>
      have hstop := (isUsed_of_findTaken? hwhole hfind).2
      obtain ⟨hinside, hresult⟩ := isUsed_recordClosing taken tag.name 0 hstop
      obtain ⟨hmem, hcloses, hafter⟩ := hresult close after hclose
      have hname := List.mem_singleton.mp (hinside close hmem).name_mem
      refine List.forall_mem_cons.mpr ⟨⟨⟨here, List.mem_cons_self, ?_, rfl, rfl⟩, fun _ => ?_⟩, ?_⟩
      · exact Bool.eq_false_iff.mpr hkind
      · exact ⟨close, List.mem_cons_of_mem _ (List.mem_append_left _ hmem), hcloses, hname, rfl⟩
      · exact fun element hmem =>
          (ih hafter element hmem).of_subset (List.subset_append_right _ _)

/-- The tags of every element of a text are used. -/
theorem isMadeOf_all (names : List Text) (text : Text) :
    ∀ element ∈ all names text, IsMadeOf (used names text) element := by
  rw [← result_record_every]
  exact isMadeOf_recordFrom List.drop_zero

end Element

end FormFill

import FormFill.Proofs.Markup.Locality

/-!
# Searching for tags

The search for a tag and the search for the closing tag that balances an element take a text from left
to right. What they find depends only on the text up to it: a search that ends inside a part of a text
ends in the same way when the rest is cut off. A text that holds no requested tag is skipped, and a text
in which every opening tag is closed is passed without a change of depth.
-/

namespace FormFill

namespace Tag

variable {names : List Text}

/-- What is found in a text, seen from a text with something in front of it. -/
def prepend (front : Text) (found : Text × Tag × Text) : Text × Tag × Text :=
  (front ++ found.1, found.2)

theorem findAfter?_eq_map (passed text : Text) :
    findAfter? names passed text = (find? names text).map (prepend passed.reverse) := by
  unfold find?
  induction text generalizing passed with
  | nil => rfl
  | cons c rest ih =>
      rw [findAfter?, findAfter?]
      split
      · simp [prepend]
      · rw [ih, ih [c], Option.map_map]
        congr 1
        funext found
        simp [prepend]

@[simp]
theorem find?_nil : find? names [] = none := rfl

theorem find?_of_read? {text rest : Text} {tag : Tag} (hread : read? names text = some (tag, rest)) :
    find? names text = some ([], tag, rest) := by
  cases text with
  | nil => cases hread
  | cons c text =>
      rw [find?, findAfter?, hread]
      rfl

theorem find?_cons {c : Char} {rest : Text} (hnone : read? names (c :: rest) = none) :
    find? names (c :: rest) = (find? names rest).map (prepend [c]) := by
  rw [find?, findAfter?, hnone]
  exact findAfter?_eq_map [c] rest

/-- A tag that is found is read where it stands. -/
theorem read?_of_find? {text gap rest : Text} {tag : Tag}
    (h : find? names text = some (gap, tag, rest)) :
    read? names (tag.text ++ rest) = some (tag, rest) := by
  induction text generalizing gap with
  | nil => cases h
  | cons c text ih =>
      cases hread : read? names (c :: text) with
      | some found =>
          rw [find?_of_read? hread] at h
          cases h
          rw [← eq_of_read? hread, hread]
      | none =>
          rw [find?_cons hread] at h
          obtain ⟨⟨gap', tag', rest'⟩, hfound, heq⟩ := Option.map_eq_some_iff.mp h
          cases heq
          exact ih hfound

/-- A tag that is found is clean and has a requested name. -/
theorem isClean_of_find? (hnames : ∀ name ∈ names, IsWordName name) {text gap rest : Text}
    {tag : Tag} (h : find? names text = some (gap, tag, rest)) : tag.name ∈ names ∧ tag.IsClean :=
  isClean_of_read? hnames (read?_of_find? h)

/-- A search that finds a tag inside a part of a text finds it in the part alone. -/
theorem find?_of_append (hlocal : IsLocal names) {text more gap rest : Text} {tag : Tag}
    (h : find? names (text ++ more) = some (gap, tag, rest ++ more)) :
    find? names text = some (gap, tag, rest) := by
  induction text generalizing gap with
  | nil =>
      have hlength := length_lt_of_find? h
      rw [List.nil_append, List.length_append] at hlength
      omega
  | cons c text ih =>
      rw [List.cons_append] at h
      cases hread : read? names (c :: (text ++ more)) with
      | some found =>
          -- The tag read here ends before the part that is cut off.
          obtain ⟨found, rest'⟩ := found
          rw [find?_of_read? hread] at h
          cases h
          exact find?_of_read? ((hlocal (c :: text) more rest tag).mp hread)
      | none =>
          rw [find?_cons hread] at h
          obtain ⟨⟨gap', tag', rest'⟩, hfound, heq⟩ := Option.map_eq_some_iff.mp h
          cases heq
          have hpart : read? names (c :: text) = none := hlocal.read?_eq_none hread
          rw [find?_cons hpart, ih hfound]
          rfl

/-- No tag stands before the first one. -/
theorem find?_gap (hlocal : IsLocal names) {text gap rest : Text} {tag : Tag}
    (h : find? names text = some (gap, tag, rest)) : find? names gap = none := by
  induction text generalizing gap with
  | nil => cases h
  | cons c text ih =>
      cases hread : read? names (c :: text) with
      | some found =>
          rw [find?_of_read? hread] at h
          cases h
          rfl
      | none =>
          rw [find?_cons hread] at h
          obtain ⟨⟨gap', tag', rest'⟩, hfound, heq⟩ := Option.map_eq_some_iff.mp h
          cases heq
          rw [eq_of_find? hfound, List.append_assoc, ← List.cons_append] at hread
          exact (find?_cons (hlocal.read?_eq_none hread)).trans (by rw [ih hfound]; rfl)

/-- A text in which no requested tag begins, whatever comes after it. -/
def Skips (names : List Text) (text : Text) : Prop :=
  ∀ rest, find? names (text ++ rest) = (find? names rest).map (prepend text)

theorem Skips.nil : Skips names [] := by
  intro rest
  rw [List.nil_append]
  cases find? names rest <;> rfl

theorem Skips.append {first second : Text} (hfirst : Skips names first)
    (hsecond : Skips names second) : Skips names (first ++ second) := by
  intro rest
  rw [List.append_assoc, hfirst, hsecond, Option.map_map]
  congr 1
  funext found
  simp [prepend]

theorem Skips.flatMap {α : Type} {items : List α} {text : α → Text}
    (h : ∀ item ∈ items, Skips names (text item)) : Skips names (items.flatMap text) := by
  induction items with
  | nil => exact Skips.nil
  | cons item rest ih =>
      obtain ⟨hitem, hrest⟩ := List.forall_mem_cons.mp h
      exact hitem.append (ih hrest)

/-- A text without `<` holds no tag. -/
theorem Skips.of_not_mem {text : Text} (hplain : '<' ∉ text) : Skips names text := by
  induction text with
  | nil => exact Skips.nil
  | cons c text ih =>
      rw [List.mem_cons, not_or] at hplain
      intro rest
      rw [List.cons_append, find?_cons (read?_cons_of_ne (Ne.symm hplain.1) _), ih hplain.2,
        Option.map_map]
      rfl

/-- A clean tag with another name is skipped if no second tag can begin inside it. -/
theorem IsClean.skips (hnames : ∀ name ∈ names, IsWordName name) {tag : Tag}
    (hclean : tag.IsClean) (hother : tag.name ∉ names) (hplain : '<' ∉ tag.text.tail) :
    Skips names tag.text := by
  have hcons : tag.text = '<' :: tag.text.tail := rfl
  intro rest
  have hnone := read?_eq_none_of_not_mem hnames hclean hother rest
  rw [hcons, List.cons_append] at hnone
  rw [hcons, List.cons_append, find?_cons hnone, Skips.of_not_mem hplain, Option.map_map]
  rfl

end Tag

namespace Element

open Tag

variable {name : Text}

theorem closing?_of_find?_eq_none {depth passed : Nat} {text : Text}
    (h : find? [name] text = none) : closing? name depth passed text = none := by
  rw [closing?]
  split
  · rfl
  next hfound =>
    rw [h] at hfound
    cases hfound

/-- One step of the search for a closing tag. -/
theorem closing?_of_find? {depth passed : Nat} {text gap rest : Text} {tag : Tag}
    (h : find? [name] text = some (gap, tag, rest)) :
    closing? name depth passed text =
      if tag.closing then
        if depth ≤ 1 then some (passed + gap.length, tag, rest)
        else closing? name (depth - 1) (passed + gap.length + tag.text.length) rest
      else if tag.ownClosing?.isSome then
        closing? name depth (passed + gap.length + tag.text.length) rest
      else closing? name (depth + 1) (passed + gap.length + tag.text.length) rest := by
  rw [closing?]
  split
  next hnone =>
    rw [h] at hnone
    cases hnone
  next gap' tag' rest' hfound =>
    rw [h] at hfound
    cases hfound
    rfl

/-- What is inside an element from a tag on is what is inside it from the rest on, with the tag and
what comes before it. -/
theorem inside_step {text gap rest after close : Text} {passed length : Nat} {tag : Tag}
    (htext : text = gap ++ tag.text ++ rest)
    (hrest : ∃ inside, rest = inside ++ close ++ after ∧
      length = passed + gap.length + tag.text.length + inside.length) :
    ∃ inside, text = inside ++ close ++ after ∧ length = passed + inside.length := by
  obtain ⟨inside, rfl, rfl⟩ := hrest
  refine ⟨gap ++ tag.text ++ inside, by simp [htext], ?_⟩
  simp only [List.length_append]
  omega

/-- The closing tag that is found stands in the text after what is inside the element. -/
theorem eq_of_closing? {depth passed length : Nat} {text rest : Text} {tag : Tag}
    (h : closing? name depth passed text = some (length, tag, rest)) :
    tag.closing = true ∧ ∃ inside, text = inside ++ tag.text ++ rest ∧
      length = passed + inside.length := by
  fun_induction closing? name depth passed text with
  | case1 => cases h
  | case2 depth passed text gap tag' rest' hfind here hclosing hdepth =>
      simp only [Option.some.injEq, Prod.mk.injEq] at h
      obtain ⟨rfl, rfl, rfl⟩ := h
      exact ⟨hclosing, gap, eq_of_find? hfind, rfl⟩
  | case3 depth passed text gap tag' rest' hfind here hclosing hdepth ih =>
      exact ⟨(ih h).1, inside_step (eq_of_find? hfind) (ih h).2⟩
  | case4 depth passed text gap tag' rest' hfind here hclosing hown ih =>
      exact ⟨(ih h).1, inside_step (eq_of_find? hfind) (ih h).2⟩
  | case5 depth passed text gap tag' rest' hfind here hclosing hown ih =>
      exact ⟨(ih h).1, inside_step (eq_of_find? hfind) (ih h).2⟩

/-- A search that finds a closing tag inside a part of a text finds it in the part alone. -/
theorem closing?_of_append {depth passed length : Nat} {text more rest : Text} {tag : Tag}
    (h : closing? name depth passed (text ++ more) = some (length, tag, rest ++ more)) :
    closing? name depth passed text = some (length, tag, rest) := by
  induction hlength : text.length using Nat.strongRecOn generalizing text depth passed with
  | ind bound ih =>
      subst hlength
      cases hfind : find? [name] (text ++ more) with
      | none =>
          rw [closing?_of_find?_eq_none hfind] at h
          cases h
      | some found =>
          obtain ⟨gap, tag', after⟩ := found
          rw [closing?_of_find? hfind] at h
          -- What is left after this tag still ends with the part that is cut off.
          have hcut : ∀ middle, after = middle ++ more →
              find? [name] text = some (gap, tag', middle) := by
            rintro middle rfl
            exact find?_of_append (IsLocal.singleton name) hfind
          have hnext : ∀ depth', closing? name depth'
                (passed + gap.length + tag'.text.length) after = some (length, tag, rest ++ more) →
              ∃ middle, find? [name] text = some (gap, tag', middle) ∧
                closing? name depth' (passed + gap.length + tag'.text.length) middle =
                  some (length, tag, rest) := by
            intro depth' hclose
            obtain ⟨-, inside, hafter, -⟩ := eq_of_closing? hclose
            have hmiddle : after = (inside ++ tag.text ++ rest) ++ more := by simp [hafter]
            have hfound := hcut _ hmiddle
            refine ⟨_, hfound, ih _ (length_lt_of_find? hfound) ?_ rfl⟩
            rwa [← hmiddle]
          split_ifs at h with hclosing hdepth hown
          · simp only [Option.some.injEq, Prod.mk.injEq] at h
            obtain ⟨rfl, rfl, rfl⟩ := h
            rw [closing?_of_find? (hcut rest rfl), if_pos hclosing, if_pos hdepth]
          · obtain ⟨middle, hfound, hclose⟩ := hnext _ h
            rw [closing?_of_find? hfound, if_pos hclosing, if_neg hdepth, hclose]
          · obtain ⟨middle, hfound, hclose⟩ := hnext _ h
            rw [closing?_of_find? hfound, if_neg hclosing, if_pos hown, hclose]
          · obtain ⟨middle, hfound, hclose⟩ := hnext _ h
            rw [closing?_of_find? hfound, if_neg hclosing, if_neg hown, hclose]

/-- A text that the search for a closing tag passes without a change of depth. -/
def Balanced (name text : Text) : Prop :=
  ∀ depth passed rest, 1 ≤ depth →
    closing? name depth passed (text ++ rest) = closing? name depth (passed + text.length) rest

theorem Balanced.of_skips {text : Text} (hskips : Skips [name] text) : Balanced name text := by
  intro depth passed rest _
  cases hfind : find? [name] rest with
  | none =>
      have hnone : find? [name] (text ++ rest) = none := by rw [hskips, hfind]; rfl
      rw [closing?_of_find?_eq_none hfind, closing?_of_find?_eq_none hnone]
  | some found =>
      obtain ⟨gap, tag, after⟩ := found
      have hsome : find? [name] (text ++ rest) = some (text ++ gap, tag, after) := by
        rw [hskips, hfind]
        rfl
      rw [closing?_of_find? hfind, closing?_of_find? hsome]
      simp only [List.length_append, Nat.add_assoc]

theorem Balanced.append {first second : Text} (hfirst : Balanced name first)
    (hsecond : Balanced name second) : Balanced name (first ++ second) := by
  intro depth passed rest hdepth
  rw [List.append_assoc, hfirst _ _ _ hdepth, hsecond _ _ _ hdepth, List.length_append,
    Nat.add_assoc]

/-- An opening tag, a balanced text and the closing tag are balanced. -/
theorem Balanced.nest {opening close : Tag} {inside : Text} (hopening : opening.IsClean)
    (hclose : close.IsClean) (hnames : opening.name = name ∧ close.name = name)
    (hkinds : opening.closing = false ∧ close.closing = true) (hown : opening.ownClosing? = none)
    (hinside : Balanced name inside) : Balanced name (opening.text ++ inside ++ close.text) := by
  obtain ⟨rfl, hname⟩ := hnames
  have hwords : ∀ other ∈ [opening.name], IsWordName other := by simpa using hopening.name
  intro depth passed rest hdepth
  have hfirst : find? [opening.name] (opening.text ++ (inside ++ (close.text ++ rest))) =
      some ([], opening, inside ++ (close.text ++ rest)) :=
    find?_of_read? ((read?_eq_some_iff hwords).mpr ⟨by simp, hopening, rfl⟩)
  have hlast : find? [opening.name] (close.text ++ rest) = some ([], close, rest) :=
    find?_of_read? ((read?_eq_some_iff hwords).mpr ⟨by simp [hname], hclose, rfl⟩)
  rw [List.append_assoc, List.append_assoc, closing?_of_find? hfirst, if_neg (by simp [hkinds.1]),
    if_neg (by simp [hown]), hinside _ _ _ (by omega), closing?_of_find? hlast,
    if_pos hkinds.2, if_neg (by omega)]
  simp only [List.length_nil, List.length_append, Nat.add_zero, Nat.add_sub_cancel]
  congr 1
  omega

/-- The closing tag of an element stands after what is inside, if that is balanced. -/
theorem closing?_of_balanced {close : Tag} {inside : Text} (hclose : close.IsClean)
    (hkind : close.closing = true) (hinside : Balanced close.name inside) (rest : Text) :
    closing? close.name 1 0 (inside ++ close.text ++ rest) =
      some (inside.length, close, rest) := by
  have hwords : ∀ other ∈ [close.name], IsWordName other := by simpa using hclose.name
  have hlast : find? [close.name] (close.text ++ rest) = some ([], close, rest) :=
    find?_of_read? ((read?_eq_some_iff hwords).mpr ⟨by simp, hclose, rfl⟩)
  rw [List.append_assoc, hinside _ _ _ (Nat.le_refl 1), closing?_of_find? hlast, if_pos hkind,
    if_pos (Nat.le_refl 1)]
  simp

end Element

end FormFill

import FormFill.Proofs.Markup.Elements
import FormFill.Proofs.Markup.Pairing
import FormFill.Proofs.Text

/-!
# Outermost elements

The search for elements of one name counts the depth anew from every opening tag. It finds what one pass
over the tags with a stack finds: the elements that no other one encloses, in the order of the text.
The body of an element is balanced by itself, since the tags in it are the same in the body as in the
whole text.
-/

namespace FormFill

namespace Element

open Tag PlacedTag Pairing

/-- Whether an element stands between the tags of another one. -/
def encloses (outer inner : Element) : Bool :=
  !outer.selfClosing && decide (outer.start < inner.start) && decide (inner.stop < outer.stop)

/-- The elements that no other one encloses. -/
def outermost (elements : List Element) : List Element :=
  elements.filter fun inner => !elements.any fun outer => outer.encloses inner

theorem encloses_of_range {outer inner : Element} (hpair : outer.selfClosing = false)
    (hstart : outer.start < inner.start) (hstop : inner.stop < outer.stop) :
    outer.encloses inner = true := by
  simp only [encloses, hpair, hstart, hstop, Bool.not_false, decide_true, Bool.and_true]

theorem range_of_encloses {outer inner : Element} (h : outer.encloses inner = true) :
    outer.start < inner.start ∧ inner.stop < outer.stop := by
  simp only [encloses, Bool.and_eq_true, decide_eq_true_eq] at h
  exact ⟨h.1.2, h.2⟩

theorem encloses_eq_false {outer inner : Element}
    (h : inner.start ≤ outer.start ∨ outer.stop ≤ inner.stop) : outer.encloses inner = false := by
  rw [← Bool.not_eq_true]
  intro hencloses
  have hrange := range_of_encloses hencloses
  omega

/-- Of elements that one encloses, this one, and later ones, the enclosed ones are dropped. -/
theorem outermost_append {inner later : List Element} {element : Element}
    (hinner : ∀ other ∈ inner, element.encloses other = true)
    (hlater : ∀ other ∈ later, element.start ≤ other.start ∧ element.stop ≤ other.stop) :
    outermost (inner ++ element :: later) = element :: outermost later := by
  unfold outermost
  rw [List.filter_append, List.filter_cons]
  have hdropped : inner.filter (fun other =>
      !(inner ++ element :: later).any fun outer => outer.encloses other) = [] := by
    rw [List.filter_eq_nil_iff]
    intro other hmem
    simp only [List.any_append, List.any_cons, hinner other hmem, Bool.true_or, Bool.or_true,
      Bool.not_true, Bool.false_eq_true, not_false_eq_true]
  have hkept : (inner ++ element :: later).any (fun outer => outer.encloses element) = false := by
    rw [List.any_eq_false]
    intro outer hmem
    rw [Bool.not_eq_true]
    refine encloses_eq_false (Or.inl ?_)
    rcases List.mem_append.mp hmem with hbefore | hafter
    · exact Nat.le_of_lt (range_of_encloses (hinner outer hbefore)).1
    · rcases List.mem_cons.mp hafter with rfl | hafter
      · exact Nat.le_refl _
      · exact (hlater outer hafter).1
  -- Elements that end before a later one do not enclose it.
  have hsame : ∀ other ∈ later,
      (inner ++ element :: later).any (fun outer => outer.encloses other) =
        later.any fun outer => outer.encloses other := by
    intro other hmem
    have hstop := (hlater other hmem).2
    have hbefore : inner.any (fun outer => outer.encloses other) = false := by
      rw [List.any_eq_false]
      intro outer houter
      have hrange := range_of_encloses (hinner outer houter)
      rw [Bool.not_eq_true, encloses_eq_false (Or.inr (by omega))]
    rw [List.any_append, hbefore, List.any_cons, encloses_eq_false (Or.inr hstop),
      Bool.false_or, Bool.false_or]
  rw [hdropped, hkept, Bool.not_false, if_pos rfl, List.nil_append,
    List.filter_congr fun other hmem => by rw [hsame other hmem]]

end Element

namespace Pairing

open PlacedTag

variable {whole : Text} {placed : PlacedTag} {tags : List PlacedTag}

/-- A closing tag without an opening one is passed over. -/
theorem elements_ofTags_stray (hkind : placed.tag.closing = true) :
    (ofTags whole (placed :: tags)).elements = (ofTags whole tags).elements := by
  have hvisit : visit whole {} placed = followedBy ⟨[], [], [placed]⟩ {} := by
    simp [visit, hkind, followedBy]
  rw [ofTags, pass_cons, hvisit, pass_followedBy_of_waiting rfl]
  rfl

theorem elements_ofTags_own {attributes : Text} (hkind : placed.tag.closing = false)
    (hown : placed.tag.ownClosing? = some attributes) :
    (ofTags whole (placed :: tags)).elements =
      Element.ofOwn attributes placed :: (ofTags whole tags).elements := by
  have hvisit : visit whole {} placed =
      followedBy ⟨[], [Element.ofOwn attributes placed], []⟩ {} := by
    simp [visit, hkind, hown, followedBy]
  rw [ofTags, pass_cons, hvisit, pass_followedBy_of_waiting rfl]
  rfl

theorem visit_opening (hkind : placed.tag.closing = false) (hown : placed.tag.ownClosing? = none) :
    visit whole {} placed = followedBy ⟨[placed], [], []⟩ {} := by
  simp [visit, hkind, hown, followedBy]

/-- An opening tag that stays on the stack is passed over. -/
theorem elements_ofTags_unclosed (hkind : placed.tag.closing = false)
    (hown : placed.tag.ownClosing? = none) (hdepth : (depthAfter? 0 tags).isSome = true) :
    (ofTags whole (placed :: tags)).elements = (ofTags whole tags).elements := by
  obtain ⟨after, hafter⟩ := Option.isSome_iff_exists.mp hdepth
  obtain ⟨-, -, hframe⟩ := pass_of_depthAfter? whole {} hafter
  rw [ofTags, pass_cons, visit_opening hkind hown, hframe]
  rfl

/-- Tags that leave nothing open come between the two tags of an element. -/
theorem elements_ofTags_pair {close : PlacedTag} {after : List PlacedTag}
    (hkind : placed.tag.closing = false) (hown : placed.tag.ownClosing? = none)
    (hdepth : depthAfter? 0 tags = some 0) (hclose : close.tag.closing = true) :
    (ofTags whole (placed :: (tags ++ close :: after))).elements =
      (ofTags whole tags).elements ++ Element.ofPair whole placed close ::
        (ofTags whole after).elements := by
  obtain ⟨hlength, hstrays, hframe⟩ := pass_of_depthAfter? whole {} hdepth
  have hwaiting : (ofTags whole tags).waiting = [] := List.length_eq_zero_iff.mp hlength
  have hstrays : (ofTags whole tags).strays = [] := hstrays
  have hvisit : visit whole (followedBy ⟨[placed], [], []⟩ (ofTags whole tags)) close =
      followedBy ⟨[], (ofTags whole tags).elements ++ [Element.ofPair whole placed close], []⟩
        {} := by
    simp [visit, hclose, followedBy, hwaiting, hstrays]
  rw [ofTags, pass_cons, visit_opening hkind hown, pass_append, hframe, pass_cons, ← ofTags, hvisit,
    pass_followedBy_of_waiting rfl]
  simp [followedBy, ofTags]

end Pairing

namespace Element

open Tag PlacedTag Pairing

variable {name : Text}

/-- A closing tag in a text that closes a tag from further out than all tags before it. These tags are
the same in the part before it alone. -/
structure ClosedBy (name : Text) (depth : Nat) (text inside : Text) (close : Tag) (after : Text) :
    Prop where
  closing : close.closing = true
  text_eq : text = inside ++ close.text ++ after
  placed : ∀ offset, placedFrom [name] offset text = placedFrom [name] offset inside ++
    ⟨close, offset + inside.length⟩ ::
      placedFrom [name] (offset + inside.length + close.text.length) after
  depth : ∀ offset, depthAfter? depth (placedFrom [name] offset inside) = some 0

theorem ClosedBy.of_find? {text gap after : Text} {close : Tag} (hclosing : close.closing = true)
    (hfind : find? [name] text = some (gap, close, after)) :
    ClosedBy name 0 text gap close after := by
  have hgap : ∀ offset, placedFrom [name] offset gap = [] := fun offset =>
    placedFrom_of_find?_eq_none (find?_gap (IsLocal.singleton name) hfind)
  refine ⟨hclosing, eq_of_find? hfind, fun offset => ?_, fun offset => ?_⟩
  · rw [hgap, placedFrom_of_find? hfind, List.nil_append]
  · rw [hgap, depthAfter?_nil]

/-- A tag in front that closes nothing from further out. -/
theorem ClosedBy.step {depth next : Nat} {text gap rest inside after : Text} {tag close : Tag}
    (hfind : find? [name] text = some (gap, tag, rest)) (hdepth : tag.depth? depth = some next)
    (h : ClosedBy name next rest inside close after) :
    ClosedBy name depth text (gap ++ tag.text ++ inside) close after := by
  have hrest : rest = inside ++ (close.text ++ after) := by
    rw [h.text_eq, List.append_assoc]
  have htext : text = gap ++ tag.text ++ inside ++ (close.text ++ after) := by
    rw [eq_of_find? hfind, hrest, ← List.append_assoc _ inside]
  have hinside : find? [name] (gap ++ tag.text ++ inside) = some (gap, tag, inside) := by
    rw [htext, hrest] at hfind
    exact find?_of_append (IsLocal.singleton name) hfind
  refine ⟨h.closing, ?_, fun offset => ?_, fun offset => ?_⟩
  · rw [htext, ← List.append_assoc _ close.text]
  · rw [placedFrom_of_find? hfind, placedFrom_of_find? hinside, h.placed]
    simp only [List.cons_append, List.length_append, Nat.add_assoc]
  · rw [placedFrom_of_find? hinside, depthAfter?_cons, hdepth, Option.bind_some, h.depth]

/-- One step of the search for a closing tag, by what the tag does to the depth. -/
theorem closing?_of_depth? {depth passed : Nat} {text gap rest : Text} {tag : Tag}
    (hfind : find? [name] text = some (gap, tag, rest)) :
    closing? name (depth + 1) passed text =
      match tag.depth? depth with
      | none => some (passed + gap.length, tag, rest)
      | some next => closing? name (next + 1) (passed + gap.length + tag.text.length) rest := by
  rw [closing?_of_find? hfind]
  unfold depth?
  split_ifs with hclosing hdepth hown
  · obtain rfl : depth = 0 := by omega
    rfl
  · cases depth with
    | zero => omega
    | succ depth => rfl
  · rfl
  · rfl

/-- The closing tag that the search finds closes a tag from further out. -/
theorem closedBy_of_closing? {depth passed length : Nat} {text after : Text} {close : Tag}
    (h : closing? name (depth + 1) passed text = some (length, close, after)) :
    ∃ inside, length = passed + inside.length ∧ ClosedBy name depth text inside close after := by
  induction hlength : text.length using Nat.strongRecOn generalizing text depth passed with
  | ind bound ih =>
      subst hlength
      cases hfind : find? [name] text with
      | none =>
          rw [closing?_of_find?_eq_none hfind] at h
          cases h
      | some found =>
          obtain ⟨gap, tag, rest⟩ := found
          rw [closing?_of_depth? hfind] at h
          cases hdepth : tag.depth? depth with
          | none =>
              rw [hdepth] at h
              cases h
              obtain ⟨hclosing, rfl⟩ := depth?_eq_none_iff.mp hdepth
              exact ⟨gap, rfl, ClosedBy.of_find? hclosing hfind⟩
          | some next =>
              rw [hdepth] at h
              obtain ⟨inside, hinside, hclosed⟩ := ih _ (length_lt_of_find? hfind) h rfl
              refine ⟨gap ++ tag.text ++ inside, ?_, hclosed.step hfind hdepth⟩
              simp only [List.length_append]
              omega

/-- A search without a closing tag passes tags none of which closes one from further out. -/
theorem depthAfter?_of_closing?_eq_none {depth passed : Nat} {text : Text}
    (h : closing? name (depth + 1) passed text = none) (offset : Nat) :
    (depthAfter? depth (placedFrom [name] offset text)).isSome = true := by
  induction hlength : text.length using Nat.strongRecOn generalizing text depth passed offset with
  | ind bound ih =>
      subst hlength
      cases hfind : find? [name] text with
      | none => rw [placedFrom_of_find?_eq_none hfind, depthAfter?_nil, Option.isSome_some]
      | some found =>
          obtain ⟨gap, tag, rest⟩ := found
          rw [closing?_of_depth? hfind] at h
          rw [placedFrom_of_find? hfind, depthAfter?_cons]
          cases hdepth : tag.depth? depth with
          | none =>
              rw [hdepth] at h
              cases h
          | some next =>
              rw [hdepth] at h
              exact ih _ (length_lt_of_find? hfind) h _ rfl

/-- The name of a tag that is found. -/
theorem name_of_find? {text gap rest : Text} {tag : Tag}
    (h : find? [name] text = some (gap, tag, rest)) : tag.name = name :=
  (read?_singleton_eq_some_iff.mp (read?_of_find? h)).1.1

/-- A tag that closes itself is an outermost element in front of the ones in the rest of the text. -/
theorem outermost_own (name whole : Text) (opening : PlacedTag) {attributes : Text}
    (hkind : opening.tag.closing = false) (hown : opening.tag.ownClosing? = some attributes)
    (rest : Text) :
    outermost (ofTags whole (opening :: placedFrom [name] opening.stop rest)).elements =
      ofOwn attributes opening ::
        outermost (ofTags whole (placedFrom [name] opening.stop rest)).elements := by
  have hlater : ∀ other ∈ (ofTags whole (placedFrom [name] opening.stop rest)).elements,
      opening.start ≤ other.start ∧ opening.stop ≤ other.stop := by
    intro other hmem
    have hwithin := (within_ofTags whole [name] opening.stop rest).elements other hmem
    have hstop := opening.start_lt_stop
    omega
  have hinner : ∀ other ∈ ([] : List Element),
      (ofOwn attributes opening).encloses other = true := List.forall_mem_nil _
  rw [elements_ofTags_own hkind hown]
  exact outermost_append hinner hlater

/-- An element is outermost and encloses the elements between its two tags. -/
theorem outermost_pair (whole : Text) (opening : PlacedTag) {rest inside after : Text} {close : Tag}
    (hkind : opening.tag.closing = false) (hown : opening.tag.ownClosing? = none)
    (hclosed : ClosedBy name 0 rest inside close after) :
    outermost (ofTags whole (opening :: placedFrom [name] opening.stop rest)).elements =
      ofPair whole opening ⟨close, opening.stop + inside.length⟩ ::
        outermost (ofTags whole (placedFrom [name]
          (opening.stop + inside.length + close.text.length) after)).elements := by
  have hstart := opening.start_lt_stop
  have hclose := close.length_pos
  have hinner : ∀ other ∈ (ofTags whole (placedFrom [name] opening.stop inside)).elements,
      (ofPair whole opening ⟨close, opening.stop + inside.length⟩).encloses other = true := by
    intro other hmem
    have hwithin := (within_ofTags whole [name] opening.stop inside).elements other hmem
    have hstop : other.stop < opening.stop + inside.length + close.text.length := by omega
    exact encloses_of_range rfl (Nat.lt_of_lt_of_le hstart hwithin.1) hstop
  have hlater : ∀ other ∈ (ofTags whole (placedFrom [name]
        (opening.stop + inside.length + close.text.length) after)).elements,
      opening.start ≤ other.start ∧
        opening.stop + inside.length + close.text.length ≤ other.stop := by
    intro other hmem
    have hwithin := (within_ofTags whole [name] _ after).elements other hmem
    omega
  rw [hclosed.placed, elements_ofTags_pair hkind hown (hclosed.depth _) hclosed.closing]
  exact outermost_append hinner hlater

/-- Where a tag ends the text goes on with the rest. -/
theorem drop_of_find? {names : List Text} {whole text gap rest : Text} {offset : Nat} {tag : Tag}
    (hwhole : whole.drop offset = text) (hfind : find? names text = some (gap, tag, rest)) :
    whole.drop (offset + gap.length + tag.text.length) = rest := by
  rw [eq_of_find? hfind, List.append_assoc] at hwhole
  exact Text.drop_of_drop_eq (Text.drop_of_drop_eq hwhole)

/-- The search for elements finds the outermost ones of the pass over the tags. -/
theorem allFrom_eq_outermost (whole : Text) (offset : Nat) (text : Text)
    (hwhole : whole.drop offset = text) :
    allFrom [name] offset text =
      outermost (ofTags whole (placedFrom [name] offset text)).elements := by
  fun_induction allFrom [name] offset text with
  | case1 offset text hfind =>
      rw [placedFrom_of_find?_eq_none hfind]
      rfl
  | case2 offset text gap tag rest hfind start inside hclosing ih =>
      rw [ih (drop_of_find? hwhole hfind), placedFrom_of_find? hfind,
        elements_ofTags_stray hclosing]
  | case3 offset text gap tag rest hfind start inside hclosing attributes hown ih =>
      have hkind := Bool.eq_false_iff.mpr hclosing
      rw [ih (drop_of_find? hwhole hfind), placedFrom_of_find? hfind]
      exact (outermost_own name whole ⟨tag, start⟩ hkind hown rest).symm
  | case4 offset text gap tag rest hfind start inside hclosing hown hclose ih =>
      obtain rfl := name_of_find? hfind
      have hkind := Bool.eq_false_iff.mpr hclosing
      rw [ih (drop_of_find? hwhole hfind), placedFrom_of_find? hfind,
        elements_ofTags_unclosed hkind hown (depthAfter?_of_closing?_eq_none hclose _)]
  | case5 offset text gap tag rest hfind start begins hclosing hown length close after hclose stop
      ih =>
      obtain rfl := name_of_find? hfind
      have hkind := Bool.eq_false_iff.mpr hclosing
      obtain ⟨inside, hinside, hclosed⟩ := closedBy_of_closing? hclose
      obtain rfl : length = inside.length := by omega
      have hdrop : whole.drop begins = inside ++ (close.text ++ after) := by
        rw [drop_of_find? hwhole hfind, hclosed.text_eq, List.append_assoc]
      have hbody : rest.take inside.length = inside := by
        rw [hclosed.text_eq, List.append_assoc, List.take_left]
      have hslice : Text.slice (start + tag.text.length) (start + tag.text.length + inside.length)
          whole = inside := Text.slice_of_drop_eq hdrop
      have hpair := outermost_pair whole ⟨tag, start⟩ hkind hown hclosed
      dsimp only [PlacedTag.stop, ofPair] at hpair
      rw [ih (Text.drop_of_drop_eq (Text.drop_of_drop_eq hdrop)), placedFrom_of_find? hfind, hpair,
        hbody, hslice]

/-- A text whose closing tags close opening ones in it, and whose opening tags are all closed in it. -/
def PairsUp (name text : Text) : Prop :=
  ∀ offset, depthAfter? 0 (placedFrom [name] offset text) = some 0

theorem PairsUp.nil (name : Text) : PairsUp name [] := fun _ => by
  rw [placedFrom_of_find?_eq_none find?_nil, depthAfter?_nil]

/-- A pass over the tags leaves no opening tag open and no closing tag over. -/
theorem PairsUp.ofTags {text : Text} (h : PairsUp name text) :
    (ofTags text (placed [name] text)).waiting = [] ∧ (ofTags text (placed [name] text)).strays = [] := by
  obtain ⟨hlength, hstrays, -⟩ := pass_of_depthAfter? text {} (h 0)
  exact ⟨List.length_eq_zero_iff.mp hlength, hstrays⟩

/-- The search for the closing tag of an opening one succeeds. -/
theorem PairsUp.isSome_closing? {text : Text} (h : PairsUp name text) {opening : PlacedTag}
    (hmem : opening ∈ placed [name] text) (hkind : opening.tag.closing = false)
    (hown : opening.tag.ownClosing? = none) :
    (closing? name 1 0 (text.drop opening.stop)).isSome = true := by
  obtain ⟨before, after, htags⟩ := List.append_of_mem hmem
  obtain ⟨front, rest, rfl, hstop, rfl⟩ := eq_placedFrom_of_append htags
  rw [Nat.zero_add] at hstop
  rw [hstop, List.drop_left]
  have hdepth := h 0
  rw [← placed, htags, depthAfter?_append] at hdepth
  obtain ⟨depth, -, hrest⟩ := Option.bind_eq_some_iff.mp hdepth
  have hopening : opening.tag.depth? depth = some (depth + 1) := by
    simp [depth?, hkind, hown]
  rw [depthAfter?_cons, hopening, Option.bind_some] at hrest
  -- Without a closing tag the depth would not fall back to what it was before the opening one.
  by_contra hnone
  rw [Bool.not_eq_true, Option.isSome_eq_false_iff, Option.isNone_iff_eq_none] at hnone
  obtain ⟨inside, hinside⟩ := Option.isSome_iff_exists.mp
    (depthAfter?_of_closing?_eq_none hnone opening.stop)
  have hadd := depthAfter?_add hinside (depth + 1)
  rw [Nat.zero_add, hrest] at hadd
  cases hadd

/-- The body of an element pairs up by itself, and the tags in it are the tags of the whole text
between the two tags of the element. -/
structure IsBody (name : Text) (tags : List PlacedTag) (element : Element) : Prop where
  pairsUp : PairsUp name element.body
  tags_eq : element.selfClosing = false → ∃ opening close : PlacedTag,
    opening :: (placedFrom [name] opening.stop element.body ++ [close]) <:+: tags ∧
      element.start = opening.start ∧ element.stop = close.stop

theorem IsBody.of_suffix {tags more : List PlacedTag} {element : Element}
    (h : IsBody name tags element) (hmore : tags <:+ more) : IsBody name more element := by
  refine ⟨h.pairsUp, fun hpair => ?_⟩
  obtain ⟨opening, close, hinfix, hends⟩ := h.tags_eq hpair
  exact ⟨opening, close, hinfix.trans hmore.isInfix, hends⟩

theorem isBody_of_mem_allFrom (offset : Nat) (text : Text) :
    ∀ element ∈ allFrom [name] offset text, IsBody name (placedFrom [name] offset text) element := by
  fun_induction allFrom [name] offset text with
  | case1 => simp
  | case2 offset text gap tag rest hfind start inside hclosing ih =>
      rw [placedFrom_of_find? hfind]
      exact fun element hmem => (ih element hmem).of_suffix (List.suffix_cons _ _)
  | case3 offset text gap tag rest hfind start inside hclosing attributes hown ih =>
      rw [placedFrom_of_find? hfind]
      refine List.forall_mem_cons.mpr ⟨⟨PairsUp.nil _, by simp⟩, ?_⟩
      exact fun element hmem => (ih element hmem).of_suffix (List.suffix_cons _ _)
  | case4 offset text gap tag rest hfind start inside hclosing hown hclose ih =>
      rw [placedFrom_of_find? hfind]
      exact fun element hmem => (ih element hmem).of_suffix (List.suffix_cons _ _)
  | case5 offset text gap tag rest hfind start begins hclosing hown length close after hclose stop
      ih =>
      obtain rfl := name_of_find? hfind
      obtain ⟨inside, hinside, hclosed⟩ := closedBy_of_closing? hclose
      obtain rfl : length = inside.length := by omega
      have hbody : rest.take inside.length = inside := by
        rw [hclosed.text_eq, List.append_assoc, List.take_left]
      -- The tag, the tags inside, the closing tag and the tags after it.
      have htags : placedFrom [tag.name] offset text =
          (⟨tag, start⟩ :: (placedFrom [tag.name] begins inside ++
            [⟨close, begins + inside.length⟩])) ++ placedFrom [tag.name] stop after := by
        rw [placedFrom_of_find? hfind, hclosed.placed]
        simp [start, begins, stop]
      rw [hbody, htags]
      refine List.forall_mem_cons.mpr ⟨⟨hclosed.depth, fun _ => ?_⟩, ?_⟩
      · exact ⟨⟨tag, start⟩, ⟨close, begins + inside.length⟩, (List.prefix_append _ _).isInfix,
          rfl, rfl⟩
      · exact fun element hmem => (ih element hmem).of_suffix (List.suffix_append _ _)

/-- The elements of a text come one after the other. -/
theorem pairwise_allFrom (names : List Text) (offset : Nat) (text : Text) :
    (allFrom names offset text).Pairwise (fun first second => first.stop ≤ second.start) ∧
      ∀ element ∈ allFrom names offset text, offset ≤ element.start := by
  fun_induction allFrom names offset text with
  | case1 => simp
  | case2 offset text gap tag rest hfind start inside hclosing ih =>
      exact ⟨ih.1, fun element hmem => Nat.le_trans (by omega) (ih.2 element hmem)⟩
  | case3 offset text gap tag rest hfind start inside hclosing attributes hown ih =>
      refine ⟨List.pairwise_cons.mpr ⟨ih.2, ih.1⟩, List.forall_mem_cons.mpr ⟨?_, ?_⟩⟩
      · exact Nat.le_add_right _ _
      · exact fun element hmem => Nat.le_trans (by omega) (ih.2 element hmem)
  | case4 offset text gap tag rest hfind start inside hclosing hown hclose ih =>
      exact ⟨ih.1, fun element hmem => Nat.le_trans (by omega) (ih.2 element hmem)⟩
  | case5 offset text gap tag rest hfind start inside hclosing hown length close after hclose stop
      ih =>
      refine ⟨List.pairwise_cons.mpr ⟨ih.2, ih.1⟩, List.forall_mem_cons.mpr ⟨?_, ?_⟩⟩
      · exact Nat.le_add_right _ _
      · exact fun element hmem => Nat.le_trans (by omega) (ih.2 element hmem)

/-- What the search for the elements of one name comes to in a text. -/
structure IsPairing (name text : Text) : Prop where
  /-- It finds the outermost elements of one pass over the tags. -/
  outermost : all [name] text = outermost (Pairing.ofTags text (placed [name] text)).elements
  /-- They come in the order of the text. -/
  ordered : (all [name] text).Pairwise fun first second => first.stop ≤ second.start
  /-- The tags in a body are the same in the body alone. -/
  isBody : ∀ element ∈ all [name] text, IsBody name (placed [name] text) element
  /-- A pass over the tags of a body leaves none unpaired. -/
  balanced : ∀ element ∈ all [name] text,
    (Pairing.ofTags element.body (placed [name] element.body)).waiting = [] ∧
      (Pairing.ofTags element.body (placed [name] element.body)).strays = []
  /-- The search in a body finds the closing tag of every opening one. -/
  closed : ∀ element ∈ all [name] text, ∀ opening ∈ placed [name] element.body,
    opening.tag.closing = false → opening.tag.ownClosing? = none →
      (closing? name 1 0 (element.body.drop opening.stop)).isSome = true
  /-- The pass ends: a text has at most as many tags as characters. -/
  bounded : (placed [name] text).length ≤ text.length

/-- The search for elements of any one name is one pass over the tags with a stack. -/
theorem all_isPairing (name text : Text) : IsPairing name text := by
  have hall : all [name] text = allFrom [name] 0 text := all_eq_allFrom (List.cons_ne_nil _ _) text
  have hbody : ∀ element ∈ all [name] text, IsBody name (placed [name] text) element := by
    rw [hall]
    exact isBody_of_mem_allFrom 0 text
  exact {
    outermost := hall.trans (allFrom_eq_outermost text 0 text rfl)
    ordered := hall ▸ (pairwise_allFrom [name] 0 text).1
    isBody := hbody
    balanced := fun element hmem => (hbody element hmem).pairsUp.ofTags
    closed := fun element hmem opening => (hbody element hmem).pairsUp.isSome_closing?
    bounded := length_placedFrom_le [name] 0 text }

end Element

end FormFill

import FormFill.Proofs.Markup.Search
import FormFill.Text.Search

/-!
# Pairing tags

One pass over the tags of a text pairs them with a stack. An opening tag waits on the stack, a closing
tag ends the element of the tag on top, a tag that closes itself is an element at once. What the pass
does with tags that never fall below the stack they begin with does not depend on what is on it.
-/

namespace FormFill

/-- A tag with the offset at which it starts. -/
structure PlacedTag where
  tag : Tag
  start : Nat
  deriving DecidableEq, Repr

/-- The offset at which a tag ends. -/
def PlacedTag.stop (placed : PlacedTag) : Nat := placed.start + placed.tag.text.length

theorem PlacedTag.start_lt_stop (placed : PlacedTag) : placed.start < placed.stop :=
  Nat.lt_add_of_pos_right placed.tag.length_pos

namespace Tag

variable {names : List Text}

/-- The tags with one of the given names in a text that starts at an offset, from left to right. After
a tag the search goes on at its end. -/
def placedFrom (names : List Text) (offset : Nat) (text : Text) : List PlacedTag :=
  match _hfind : find? names text with
  | none => []
  | some (gap, tag, rest) =>
    ⟨tag, offset + gap.length⟩ :: placedFrom names (offset + gap.length + tag.text.length) rest
termination_by text.length
decreasing_by exact length_lt_of_find? _hfind

/-- The tags with one of the given names in a text, from left to right. -/
def placed (names : List Text) (text : Text) : List PlacedTag := placedFrom names 0 text

theorem placedFrom_of_find?_eq_none {offset : Nat} {text : Text} (h : find? names text = none) :
    placedFrom names offset text = [] := by
  rw [placedFrom]
  split
  · rfl
  next hfound =>
    rw [h] at hfound
    cases hfound

theorem placedFrom_of_find? {offset : Nat} {text gap rest : Text} {tag : Tag}
    (h : find? names text = some (gap, tag, rest)) :
    placedFrom names offset text = ⟨tag, offset + gap.length⟩ ::
      placedFrom names (offset + gap.length + tag.text.length) rest := by
  rw [placedFrom]
  split
  next hnone =>
    rw [h] at hnone
    cases hnone
  next hfound =>
    rw [h] at hfound
    cases hfound
    rfl

/-- The tags of a text lie in it. -/
theorem within_placedFrom (names : List Text) (offset : Nat) (text : Text) :
    ∀ placed ∈ placedFrom names offset text,
      offset ≤ placed.start ∧ placed.stop ≤ offset + text.length := by
  fun_induction placedFrom names offset text with
  | case1 => simp
  | case2 offset text gap tag rest hfind ih =>
      have hlength := congrArg List.length (eq_of_find? hfind)
      rw [List.length_append, List.length_append] at hlength
      intro placed hmem
      rcases List.mem_cons.mp hmem with rfl | hrest
      · simp only [PlacedTag.stop]
        omega
      · have hbounds := ih placed hrest
        omega

/-- A text has at most as many tags as characters. -/
theorem length_placedFrom_le (names : List Text) (offset : Nat) (text : Text) :
    (placedFrom names offset text).length ≤ text.length := by
  fun_induction placedFrom names offset text with
  | case1 => simp
  | case2 offset text gap tag rest hfind ih =>
      have hshorter := length_lt_of_find? hfind
      rw [List.length_cons]
      omega

/-- After each of the tags the tags of the rest of the text follow. -/
theorem eq_placedFrom_of_append {offset : Nat} {text : Text} {before after : List PlacedTag}
    {placed : PlacedTag} (h : placedFrom names offset text = before ++ placed :: after) :
    ∃ front rest, text = front ++ rest ∧ placed.stop = offset + front.length ∧
      after = placedFrom names placed.stop rest := by
  induction before generalizing offset text with
  | nil =>
      cases hfind : find? names text with
      | none => simp [placedFrom_of_find?_eq_none hfind] at h
      | some found =>
          obtain ⟨gap, tag, rest⟩ := found
          rw [placedFrom_of_find? hfind] at h
          obtain ⟨rfl, rfl⟩ := List.cons.inj h
          refine ⟨gap ++ tag.text, rest, eq_of_find? hfind, ?_, rfl⟩
          rw [PlacedTag.stop, List.length_append, Nat.add_assoc]
  | cons first before ih =>
      cases hfind : find? names text with
      | none => simp [placedFrom_of_find?_eq_none hfind] at h
      | some found =>
          obtain ⟨gap, tag, rest⟩ := found
          rw [placedFrom_of_find? hfind] at h
          obtain ⟨front, rest', rfl, hstop, hafter⟩ := ih (List.cons.inj h).2
          refine ⟨gap ++ tag.text ++ front, rest', ?_, ?_, hafter⟩
          · rw [eq_of_find? hfind, List.append_assoc _ front]
          · rw [hstop]
            simp only [List.length_append]
            omega

end Tag

namespace Element

/-- The element from an opening tag to its closing tag. -/
def ofPair (whole : Text) (opening close : PlacedTag) : Element :=
  ⟨opening.tag.name, opening.tag.attributes, Text.slice opening.stop close.start whole, false,
    opening.start, close.stop⟩

/-- The element of a tag that closes itself. -/
def ofOwn (attributes : Text) (placed : PlacedTag) : Element :=
  ⟨placed.tag.name, attributes, [], true, placed.start, placed.stop⟩

end Element

/-- What a pass over tags has come to: the opening tags that wait for a closing one, the innermost
first, the elements in the order of their ends, and the closing tags without an opening one. -/
structure Pairing where
  waiting : List PlacedTag := []
  elements : List Element := []
  strays : List PlacedTag := []

namespace Pairing

variable {whole : Text}

/-- Takes the next tag of a text. -/
def visit (whole : Text) (pairing : Pairing) (placed : PlacedTag) : Pairing :=
  if placed.tag.closing then
    match pairing.waiting with
    | [] => { pairing with strays := pairing.strays ++ [placed] }
    | opening :: waiting =>
      { pairing with waiting, elements := pairing.elements ++ [.ofPair whole opening placed] }
  else match placed.tag.ownClosing? with
    | some attributes =>
      { pairing with elements := pairing.elements ++ [.ofOwn attributes placed] }
    | none => { pairing with waiting := placed :: pairing.waiting }

/-- Takes tags one after the other. -/
def pass (whole : Text) (pairing : Pairing) (tags : List PlacedTag) : Pairing :=
  tags.foldl (visit whole) pairing

/-- Pairs the tags of a text in one pass. -/
def ofTags (whole : Text) (tags : List PlacedTag) : Pairing := pass whole {} tags

@[simp]
theorem pass_cons (pairing : Pairing) (placed : PlacedTag) (tags : List PlacedTag) :
    pass whole pairing (placed :: tags) = pass whole (visit whole pairing placed) tags := rfl

theorem pass_append (pairing : Pairing) (first second : List PlacedTag) :
    pass whole pairing (first ++ second) = pass whole (pass whole pairing first) second :=
  List.foldl_append

/-- What two parts of a pass come to, if the second one never takes from the stack of the first. -/
def followedBy (first second : Pairing) : Pairing :=
  ⟨second.waiting ++ first.waiting, first.elements ++ second.elements,
    first.strays ++ second.strays⟩

/-- On an empty stack a tag meets the same stack as without the part before it. -/
theorem visit_followedBy_of_waiting {first : Pairing} (hfirst : first.waiting = [])
    (second : Pairing) (placed : PlacedTag) :
    visit whole (first.followedBy second) placed = first.followedBy (visit whole second placed) := by
  unfold visit followedBy
  rw [hfirst]
  cases placed.tag.closing with
  | true => cases hwaiting : second.waiting <;> simp
  | false => cases placed.tag.ownClosing? <;> simp

theorem pass_followedBy_of_waiting {first : Pairing} (hfirst : first.waiting = [])
    (second : Pairing) (tags : List PlacedTag) :
    pass whole (first.followedBy second) tags = first.followedBy (pass whole second tags) := by
  induction tags generalizing second with
  | nil => rfl
  | cons placed tags ih =>
      rw [pass_cons, visit_followedBy_of_waiting hfirst, ih, pass_cons]

end Pairing

/-- The number of waiting tags after a tag, if it does not close a tag from further out. -/
def Tag.depth? (depth : Nat) (tag : Tag) : Option Nat :=
  if tag.closing then
    match depth with
    | 0 => none
    | depth + 1 => some depth
  else if tag.ownClosing?.isSome then some depth
  else some (depth + 1)

/-- Only a closing tag on an empty stack closes a tag from further out. -/
theorem Tag.depth?_eq_none_iff {depth : Nat} {tag : Tag} :
    tag.depth? depth = none ↔ tag.closing = true ∧ depth = 0 := by
  unfold depth?
  split_ifs with hclosing hown
  · cases depth <;> simp [hclosing]
  · simp [hclosing]
  · simp [hclosing]

/-- More waiting tags further out stay waiting. -/
theorem Tag.depth?_add {depth after : Nat} {tag : Tag} (h : tag.depth? depth = some after)
    (more : Nat) : tag.depth? (depth + more) = some (after + more) := by
  unfold depth? at h ⊢
  split_ifs at h ⊢ with hclosing hown
  · cases depth with
    | zero => cases h
    | succ depth =>
        cases h
        rw [Nat.succ_add]
  · cases h
    rfl
  · cases h
    rw [Nat.add_right_comm]

namespace PlacedTag

/-- The number of waiting tags after some tags, if none of them closes a tag from further out. -/
def depthAfter? (depth : Nat) (tags : List PlacedTag) : Option Nat :=
  tags.foldlM (fun depth placed => placed.tag.depth? depth) depth

@[simp]
theorem depthAfter?_nil (depth : Nat) : depthAfter? depth [] = some depth := rfl

theorem depthAfter?_cons (depth : Nat) (placed : PlacedTag) (tags : List PlacedTag) :
    depthAfter? depth (placed :: tags) = (placed.tag.depth? depth).bind (depthAfter? · tags) := rfl

theorem depthAfter?_append (depth : Nat) (first second : List PlacedTag) :
    depthAfter? depth (first ++ second) = (depthAfter? depth first).bind (depthAfter? · second) :=
  List.foldlM_append

theorem depthAfter?_add {depth after : Nat} {tags : List PlacedTag}
    (h : depthAfter? depth tags = some after) (more : Nat) :
    depthAfter? (depth + more) tags = some (after + more) := by
  induction tags generalizing depth with
  | nil =>
      cases h
      rfl
  | cons placed tags ih =>
      rw [depthAfter?_cons] at h ⊢
      obtain ⟨next, hnext, hafter⟩ := Option.bind_eq_some_iff.mp h
      rw [Tag.depth?_add hnext more, Option.bind_some, ih hafter]

end PlacedTag

namespace Pairing

open PlacedTag

variable {whole : Text}

/-- One tag of a pass that does not take from the stack of the part before it. -/
theorem visit_of_depth? (whole : Text) {pairing : Pairing} {placed : PlacedTag} {after : Nat}
    (h : placed.tag.depth? pairing.waiting.length = some after) :
    (visit whole pairing placed).waiting.length = after ∧
      (visit whole pairing placed).strays = pairing.strays ∧
      ∀ first : Pairing, visit whole (first.followedBy pairing) placed =
        first.followedBy (visit whole pairing placed) := by
  unfold Tag.depth? at h
  unfold visit followedBy
  cases hclosing : placed.tag.closing with
  | true =>
      rw [if_pos hclosing] at h
      cases hwaiting : pairing.waiting with
      | nil =>
          rw [hwaiting] at h
          cases h
      | cons opening waiting =>
          rw [hwaiting] at h
          cases h
          simp
  | false =>
      rw [hclosing, if_neg Bool.false_ne_true] at h
      cases hown : placed.tag.ownClosing? with
      | some attributes =>
          rw [hown, Option.isSome_some, if_pos rfl] at h
          cases h
          simp
      | none =>
          rw [hown, Option.isSome_none, if_neg Bool.false_ne_true] at h
          cases h
          simp

/-- A part of a pass that never takes from the stack of the part before it. -/
theorem pass_of_depthAfter? (whole : Text) (pairing : Pairing) {tags : List PlacedTag} {after : Nat}
    (h : depthAfter? pairing.waiting.length tags = some after) :
    (pass whole pairing tags).waiting.length = after ∧
      (pass whole pairing tags).strays = pairing.strays ∧
      ∀ first : Pairing, pass whole (first.followedBy pairing) tags =
        first.followedBy (pass whole pairing tags) := by
  induction tags generalizing pairing with
  | nil =>
      cases h
      exact ⟨rfl, rfl, fun _ => rfl⟩
  | cons placed tags ih =>
      rw [depthAfter?_cons] at h
      obtain ⟨next, hnext, hafter⟩ := Option.bind_eq_some_iff.mp h
      obtain ⟨hlength, hstrays, hframe⟩ := visit_of_depth? whole hnext
      obtain ⟨hlength', hstrays', hframe'⟩ := ih _ (hlength ▸ hafter)
      refine ⟨hlength', hstrays'.trans hstrays, fun first => ?_⟩
      rw [pass_cons, hframe, hframe', pass_cons]

/-- Elements of a pass over tags inside a range lie in this range. -/
structure Within (lower upper : Nat) (pairing : Pairing) : Prop where
  waiting : ∀ placed ∈ pairing.waiting, lower ≤ placed.start
  elements : ∀ element ∈ pairing.elements,
    lower ≤ element.start ∧ lower < element.stop ∧ element.stop ≤ upper

theorem Within.visit {lower upper : Nat} {pairing : Pairing} {placed : PlacedTag}
    (h : Within lower upper pairing) (hlower : lower ≤ placed.start)
    (hupper : placed.stop ≤ upper) : Within lower upper (visit whole pairing placed) := by
  have hstop := placed.start_lt_stop
  -- A new element ends with this tag and starts with it or with one that waited.
  have hadd : ∀ element : Element, lower ≤ element.start → element.stop = placed.stop →
      ∀ other ∈ pairing.elements ++ [element],
        lower ≤ other.start ∧ lower < other.stop ∧ other.stop ≤ upper := by
    intro element hstart hends other hmem
    rcases List.mem_append.mp hmem with hold | hnew
    · exact h.elements other hold
    · obtain rfl := List.mem_singleton.mp hnew
      omega
  unfold Pairing.visit
  split
  · split
    · exact ⟨h.waiting, h.elements⟩
    next opening waiting hwaiting =>
      obtain ⟨hopening, hrest⟩ := List.forall_mem_cons.mp (hwaiting ▸ h.waiting)
      exact ⟨hrest, hadd _ hopening rfl⟩
  · split
    · exact ⟨h.waiting, hadd _ hlower rfl⟩
    · exact ⟨List.forall_mem_cons.mpr ⟨hlower, h.waiting⟩, h.elements⟩

theorem Within.pass {lower upper : Nat} {pairing : Pairing} {tags : List PlacedTag}
    (h : Within lower upper pairing)
    (htags : ∀ placed ∈ tags, lower ≤ placed.start ∧ placed.stop ≤ upper) :
    Within lower upper (pass whole pairing tags) := by
  induction tags generalizing pairing with
  | nil => exact h
  | cons placed tags ih =>
      obtain ⟨hplaced, hrest⟩ := List.forall_mem_cons.mp htags
      exact ih (h.visit hplaced.1 hplaced.2) hrest

/-- Elements found in a text that starts at an offset lie in it. -/
theorem within_ofTags (whole : Text) (names : List Text) (offset : Nat) (text : Text) :
    Within offset (offset + text.length) (ofTags whole (Tag.placedFrom names offset text)) :=
  Within.pass ⟨by simp, by simp⟩ (Tag.within_placedFrom names offset text)

end Pairing

end FormFill

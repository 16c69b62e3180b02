import FormFill.Proofs.Markup.Search
import FormFill.Text.Search

/-!
# The elements of a text

The outermost elements of a text are pieces of it, one after the other. Each piece taken by itself holds
just this element. Text in which no requested tag begins moves the elements after it and changes
nothing else.
-/

namespace FormFill.Element

open Tag

variable {names : List Text}

theorem all_eq_allFrom (hne : names ≠ []) (text : Text) : all names text = allFrom names 0 text := by
  rw [all, if_neg (by simpa using hne)]

theorem allFrom_of_find?_eq_none {offset : Nat} {text : Text} (h : find? names text = none) :
    allFrom names offset text = [] := by
  rw [allFrom]
  split
  · rfl
  next hfound =>
    rw [h] at hfound
    cases hfound

@[simp]
theorem allFrom_nil (offset : Nat) : allFrom names offset [] = [] :=
  allFrom_of_find?_eq_none find?_nil

/-- One step of the search for elements. -/
theorem allFrom_of_find? {offset : Nat} {text gap rest : Text} {tag : Tag}
    (h : find? names text = some (gap, tag, rest)) :
    allFrom names offset text =
      if tag.closing then allFrom names (offset + gap.length + tag.text.length) rest
      else match tag.ownClosing? with
        | some attributes =>
          ⟨tag.name, attributes, [], true, offset + gap.length,
              offset + gap.length + tag.text.length⟩ ::
            allFrom names (offset + gap.length + tag.text.length) rest
        | none =>
          match closing? tag.name 1 0 rest with
          | none => allFrom names (offset + gap.length + tag.text.length) rest
          | some (length, close, after) =>
            ⟨tag.name, tag.attributes, rest.take length, false, offset + gap.length,
                offset + gap.length + tag.text.length + length + close.text.length⟩ ::
              allFrom names (offset + gap.length + tag.text.length + length + close.text.length)
                after := by
  rw [allFrom]
  split
  next hnone =>
    rw [h] at hnone
    cases hnone
  next gap' tag' rest' hfound =>
    rw [h] at hfound
    cases hfound
    split
    · rfl
    · cases hown : tag.ownClosing? with
      | some attributes => rfl
      | none =>
          dsimp only
          split
          next hnone => rw [hnone]
          next length close after hclose => rw [hclose]

/-- An element at the beginning of a text. -/
theorem allFrom_cons {offset length : Nat} {tag close : Tag} {rest after : Text}
    (hnames : ∀ name ∈ names, IsWordName name) (hmem : tag.name ∈ names) (hclean : tag.IsClean)
    (hkind : tag.closing = false) (hown : tag.ownClosing? = none)
    (hclose : closing? tag.name 1 0 rest = some (length, close, after)) :
    allFrom names offset (tag.text ++ rest) =
      ⟨tag.name, tag.attributes, rest.take length, false, offset,
          offset + tag.text.length + length + close.text.length⟩ ::
        allFrom names (offset + tag.text.length + length + close.text.length) after := by
  have hfind : find? names (tag.text ++ rest) = some ([], tag, rest) :=
    find?_of_read? ((read?_eq_some_iff hnames).mpr ⟨hmem, hclean, rfl⟩)
  rw [allFrom_of_find? hfind, if_neg (by simp [hkind]), hown]
  dsimp only
  rw [hclose]
  rfl

/-- A tag that closes itself at the beginning of a text. -/
theorem allFrom_cons_selfClosing {offset : Nat} {tag : Tag} {attributes rest : Text}
    (hnames : ∀ name ∈ names, IsWordName name) (hmem : tag.name ∈ names) (hclean : tag.IsClean)
    (hkind : tag.closing = false) (hown : tag.ownClosing? = some attributes) :
    allFrom names offset (tag.text ++ rest) =
      ⟨tag.name, attributes, [], true, offset, offset + tag.text.length⟩ ::
        allFrom names (offset + tag.text.length) rest := by
  have hfind : find? names (tag.text ++ rest) = some ([], tag, rest) :=
    find?_of_read? ((read?_eq_some_iff hnames).mpr ⟨hmem, hclean, rfl⟩)
  rw [allFrom_of_find? hfind, if_neg (by simp [hkind]), hown]
  rfl

/-- Skipped text only moves what comes after it. -/
theorem allFrom_append_of_skips {text : Text} (hskips : Skips names text) (offset : Nat)
    (rest : Text) : allFrom names offset (text ++ rest) =
      allFrom names (offset + text.length) rest := by
  cases hfind : find? names rest with
  | none =>
      have hnone : find? names (text ++ rest) = none := by rw [hskips, hfind]; rfl
      rw [allFrom_of_find?_eq_none hfind, allFrom_of_find?_eq_none hnone]
  | some found =>
      obtain ⟨gap, tag, after⟩ := found
      have hsome : find? names (text ++ rest) = some (text ++ gap, tag, after) := by
        rw [hskips, hfind]
        rfl
      rw [allFrom_of_find? hfind, allFrom_of_find? hsome]
      simp only [List.length_append, Nat.add_assoc]

/-- An element moved to other offsets. -/
def moved (start stop : Nat) (element : Element) : Element := { element with start, stop }

/-- The opening tag of an element. -/
def openingTag (name attributes : Text) : Tag := ⟨false, name, attributes⟩

/-- A piece of text that is one element and holds what is inside the element. -/
structure IsPiece (names : List Text) (element : Element) (piece : Text) : Prop where
  alone : allFrom names 0 piece = [element.moved 0 piece.length]
  body : ∃ before after, before ≠ [] ∧ piece = before ++ element.body ++ after
  /-- The body of an element that does not close itself comes right after its opening tag. -/
  opened : element.selfClosing = false → ∃ after,
    piece = (openingTag element.tag element.attributes).text ++ element.body ++ after

namespace IsPiece

variable {element : Element} {piece : Text}

theorem body_within (h : IsPiece names element piece) : element.body <:+: piece := by
  obtain ⟨before, after, -, hpiece⟩ := h.body
  exact ⟨before, after, hpiece.symm⟩

/-- The body of an element is shorter than the element. -/
theorem length_body_lt (h : IsPiece names element piece) : element.body.length < piece.length := by
  obtain ⟨before, after, hbefore, rfl⟩ := h.body
  have hpos := List.length_pos_of_ne_nil hbefore
  simp only [List.length_append]
  omega

end IsPiece

theorem isPiece_selfClosing (hnames : ∀ name ∈ names, IsWordName name) {tag : Tag}
    {attributes : Text} (hmem : tag.name ∈ names) (hclean : tag.IsClean)
    (hkind : tag.closing = false) (hown : tag.ownClosing? = some attributes) (start stop : Nat) :
    IsPiece names ⟨tag.name, attributes, [], true, start, stop⟩ tag.text := by
  refine ⟨?_, ⟨tag.text, [], List.ne_nil_of_length_pos tag.length_pos, by simp⟩, by simp⟩
  have hcons : allFrom names 0 (tag.text ++ []) = _ :=
    allFrom_cons_selfClosing hnames hmem hclean hkind hown
  rw [List.append_nil] at hcons
  rw [hcons, allFrom_nil, Nat.zero_add]
  rfl

theorem isPiece_of_closing? (hnames : ∀ name ∈ names, IsWordName name) {tag close : Tag}
    {inside after : Text} (hmem : tag.name ∈ names) (hclean : tag.IsClean)
    (hkind : tag.closing = false) (hown : tag.ownClosing? = none)
    (hclose : closing? tag.name 1 0 (inside ++ close.text ++ after) =
      some (inside.length, close, after)) (start stop : Nat) :
    IsPiece names ⟨tag.name, tag.attributes, inside, false, start, stop⟩
      (tag.text ++ (inside ++ close.text)) := by
  have hopening : openingTag tag.name tag.attributes = tag := by rw [openingTag, ← hkind]
  refine ⟨?_, ⟨tag.text, close.text, List.ne_nil_of_length_pos tag.length_pos, by simp⟩,
    fun _ => ⟨close.text, by rw [hopening, List.append_assoc]⟩⟩
  have hpart : closing? tag.name 1 0 (inside ++ close.text) = some (inside.length, close, []) :=
    closing?_of_append hclose
  rw [allFrom_cons hnames hmem hclean hkind hown hpart, allFrom_nil]
  simp [moved, Nat.add_assoc]

/-- Elements that are pieces of a text one after the other, for a text that starts at an offset. -/
inductive Tiles (names : List Text) : Nat → Text → List Element → Prop where
  | nil (offset : Nat) (text : Text) : Tiles names offset text []
  | cons {offset : Nat} {gap piece rest : Text} {element : Element} {elements : List Element}
    (start_eq : element.start = offset + gap.length)
    (stop_eq : element.stop = element.start + piece.length)
    (isPiece : IsPiece names element piece) (tail : Tiles names element.stop rest elements) :
    Tiles names offset (gap ++ piece ++ rest) (element :: elements)

/-- Text in front of the first piece belongs to the gap before it. -/
theorem Tiles.prepend {offset : Nat} {text : Text} {elements : List Element} (front : Text)
    (h : Tiles names (offset + front.length) text elements) :
    Tiles names offset (front ++ text) elements := by
  cases h with
  | nil => exact Tiles.nil _ _
  | @cons _ gap piece rest element elements hstart hstop hpiece htail =>
      rw [← List.append_assoc, ← List.append_assoc]
      refine Tiles.cons ?_ hstop hpiece htail
      rw [hstart, List.length_append, Nat.add_assoc]

/-- An element whose closing tag is found is the piece from its opening tag to its closing tag. -/
theorem Tiles.cons_of_closing? (hnames : ∀ name ∈ names, IsWordName name) {offset length : Nat}
    {gap rest after : Text} {tag close : Tag} {elements : List Element} (hmem : tag.name ∈ names)
    (hclean : tag.IsClean) (hkind : tag.closing = false) (hown : tag.ownClosing? = none)
    (hclose : closing? tag.name 1 0 rest = some (length, close, after))
    (htail : Tiles names (offset + gap.length + tag.text.length + length + close.text.length) after
      elements) :
    Tiles names offset (gap ++ tag.text ++ rest)
      (⟨tag.name, tag.attributes, rest.take length, false, offset + gap.length,
          offset + gap.length + tag.text.length + length + close.text.length⟩ :: elements) := by
  obtain ⟨-, inside, rfl, hinside⟩ := eq_of_closing? hclose
  rw [Nat.zero_add] at hinside
  subst hinside
  have hpieces : gap ++ tag.text ++ (inside ++ close.text ++ after) =
      gap ++ (tag.text ++ (inside ++ close.text)) ++ after := by simp
  have hbody : (inside ++ close.text ++ after).take inside.length = inside := by simp
  rw [hpieces, hbody]
  refine Tiles.cons rfl ?_ (isPiece_of_closing? hnames hmem hclean hkind hown hclose _ _) htail
  simp only [List.length_append]
  omega

/-- The elements of a text are pieces of it. -/
theorem tiles_allFrom (hnames : ∀ name ∈ names, IsWordName name) (offset : Nat) (text : Text) :
    Tiles names offset text (allFrom names offset text) := by
  induction hlength : text.length using Nat.strongRecOn generalizing text offset with
  | ind bound ih =>
      subst hlength
      cases hfind : find? names text with
      | none =>
          rw [allFrom_of_find?_eq_none hfind]
          exact Tiles.nil _ _
      | some found =>
          obtain ⟨gap, tag, rest⟩ := found
          obtain ⟨hmem, hclean⟩ := isClean_of_find? hnames hfind
          have hshorter := length_lt_of_find? hfind
          have htext := eq_of_find? hfind
          -- A closing tag and an opening tag without a closing one are passed over.
          have hpassed : Tiles names offset text
              (allFrom names (offset + gap.length + tag.text.length) rest) := by
            rw [htext]
            refine Tiles.prepend _ ?_
            rw [List.length_append, ← Nat.add_assoc]
            exact ih _ hshorter _ _ rfl
          rw [allFrom_of_find? hfind]
          cases hkind : tag.closing with
          | true => exact hpassed
          | false =>
              cases hown : tag.ownClosing? with
              | some attributes =>
                  rw [htext]
                  exact Tiles.cons rfl rfl
                    (isPiece_selfClosing hnames hmem hclean hkind hown _ _) (ih _ hshorter _ _ rfl)
              | none =>
                  cases hclose : closing? tag.name 1 0 rest with
                  | none => exact hpassed
                  | some found =>
                      obtain ⟨length, close, after⟩ := found
                      have hafter := length_lt_of_closing? hclose
                      rw [htext]
                      exact Tiles.cons_of_closing? hnames hmem hclean hkind hown hclose
                        (ih _ (by omega) _ _ rfl)

/-- Every element of a text is a piece of it. -/
theorem Tiles.exists_of_mem {offset : Nat} {text : Text} {elements : List Element}
    {element : Element} (h : Tiles names offset text elements) (hmem : element ∈ elements) :
    ∃ front piece back, text = front ++ piece ++ back ∧ element.start = offset + front.length ∧
      IsPiece names element piece := by
  induction h with
  | nil => cases hmem
  | @cons offset gap piece rest first elements hstart hstop isPiece _ ih =>
      rcases List.mem_cons.mp hmem with rfl | hrest
      · exact ⟨gap, piece, rest, rfl, hstart, isPiece⟩
      · obtain ⟨front, later, back, rfl, hlater, hpiece⟩ := ih hrest
        refine ⟨gap ++ piece ++ front, later, back, by simp, ?_, hpiece⟩
        rw [hlater, hstop, hstart, List.length_append, List.length_append]
        omega

/-- An element of a text is a piece of it. -/
theorem exists_of_mem_all (hnames : ∀ name ∈ names, IsWordName name) (hne : names ≠ []) {text : Text}
    {element : Element} (hmem : element ∈ all names text) : ∃ front piece back,
      text = front ++ piece ++ back ∧ element.start = front.length ∧ IsPiece names element piece := by
  rw [all_eq_allFrom hne] at hmem
  have hpiece := (tiles_allFrom hnames 0 text).exists_of_mem hmem
  simpa only [Nat.zero_add] using hpiece

/-- The body of every element of a text is shorter than the text. -/
theorem Tiles.length_body_lt {offset : Nat} {text : Text} {elements : List Element}
    (h : Tiles names offset text elements) : ∀ element ∈ elements,
      element.body.length < text.length := by
  intro element hmem
  obtain ⟨front, piece, back, rfl, -, hpiece⟩ := h.exists_of_mem hmem
  have hbody := hpiece.length_body_lt
  simp only [List.length_append]
  omega

/-- The closing tag of an element. -/
def closingTag (name : Text) : Tag := ⟨true, name, []⟩

/-- An element as it is written. -/
def written (name attributes inside : Text) : Text :=
  (openingTag name attributes).text ++ inside ++ (closingTag name).text

/-- What can be written between the name of an opening tag and its end so that the tag is read back
and does not close itself. -/
structure IsAttributes (attributes : Text) : Prop where
  complete : ∀ c ∈ attributes.head?, Text.isWord c = false
  inside : isInside false attributes = true
  noTag : '<' ∉ attributes
  notClosing : (openingTag [] attributes).ownClosing? = none

section Written

variable {name attributes inside : Text}

theorem isClean_openingTag (hname : IsWordName name) (hattributes : IsAttributes attributes) :
    (openingTag name attributes).IsClean :=
  ⟨hname, hattributes.complete, hattributes.inside⟩

theorem isClean_closingTag (hname : IsWordName name) : (closingTag name).IsClean :=
  ⟨hname, by simp [closingTag], rfl⟩

/-- A written element with a name that is not requested is skipped if what is inside it is. -/
theorem skips_written (hnames : ∀ name ∈ names, IsWordName name) (hname : IsWordName name)
    (hother : name ∉ names) (hattributes : IsAttributes attributes)
    (hinside : Skips names inside) : Skips names (written name attributes inside) := by
  have hplain : '<' ∉ name := hname.not_mem (by decide)
  have hopening : '<' ∉ (openingTag name attributes).text.tail := by
    simp [openingTag, Tag.text, hplain, hattributes.noTag]
  have hclosing : '<' ∉ (closingTag name).text.tail := by
    simp [closingTag, Tag.text, hplain]
  exact (((isClean_openingTag hname hattributes).skips hnames hother hopening).append
    hinside).append ((isClean_closingTag hname).skips hnames hother hclosing)

/-- A written element is balanced if what is inside it is. -/
theorem balanced_written (hname : IsWordName name) (hattributes : IsAttributes attributes)
    (hinside : Balanced name inside) : Balanced name (written name attributes inside) :=
  Balanced.nest (isClean_openingTag hname hattributes) (isClean_closingTag hname) ⟨rfl, rfl⟩
    ⟨rfl, rfl⟩ hattributes.notClosing hinside

/-- A written element is read back. -/
theorem allFrom_written (hnames : ∀ name ∈ names, IsWordName name) (hmem : name ∈ names)
    (hclean : (openingTag name attributes).IsClean)
    (hown : (openingTag name attributes).ownClosing? = none) (hinside : Balanced name inside)
    (offset : Nat) (rest : Text) :
    allFrom names offset (written name attributes inside ++ rest) =
      ⟨name, attributes, inside, false, offset,
          offset + (written name attributes inside).length⟩ ::
        allFrom names (offset + (written name attributes inside).length) rest := by
  have hclose := closing?_of_balanced (isClean_closingTag (hnames name hmem)) rfl hinside rest
  rw [written, List.append_assoc, List.append_assoc, ← List.append_assoc inside,
    allFrom_cons hnames hmem hclean rfl hown hclose]
  have htake : (inside ++ (closingTag name).text ++ rest).take inside.length = inside := by simp
  rw [htake]
  simp only [openingTag, List.length_append, Nat.add_assoc]

end Written

section Yields

variable {α : Type} {taken : Element → List α}

/-- A text from whose elements `values` are taken, whatever comes before and after it. -/
def Yields (names : List Text) (taken : Element → List α) (text : Text) (values : List α) : Prop :=
  ∀ offset rest, (allFrom names offset (text ++ rest)).flatMap taken =
    values ++ (allFrom names (offset + text.length) rest).flatMap taken

theorem Yields.of_skips {text : Text} (h : Skips names text) : Yields names taken text [] := by
  intro offset rest
  rw [allFrom_append_of_skips h, List.nil_append]

theorem Yields.append {first second : Text} {values others : List α}
    (hfirst : Yields names taken first values) (hsecond : Yields names taken second others) :
    Yields names taken (first ++ second) (values ++ others) := by
  intro offset rest
  rw [List.append_assoc, hfirst, hsecond, List.append_assoc, List.length_append, Nat.add_assoc]

theorem Yields.flatMap {β : Type} {items : List β} {text : β → Text} {values : β → List α}
    (h : ∀ item ∈ items, Yields names taken (text item) (values item)) :
    Yields names taken (items.flatMap text) (items.flatMap values) := by
  induction items with
  | nil => exact Yields.of_skips Skips.nil
  | cons item rest ih =>
      obtain ⟨hitem, hrest⟩ := List.forall_mem_cons.mp h
      exact hitem.append (ih hrest)

/-- A written element yields what is taken from it. -/
theorem Yields.written {name attributes inside : Text}
    (hnames : ∀ name ∈ names, IsWordName name) (hmem : name ∈ names)
    (hattributes : IsAttributes attributes) (hinside : Balanced name inside)
    (htaken : ∀ element start stop, taken (element.moved start stop) = taken element) :
    Yields names taken (written name attributes inside)
      (taken ⟨name, attributes, inside, false, 0, 0⟩) := by
  intro offset rest
  rw [allFrom_written hnames hmem (isClean_openingTag (hnames name hmem) hattributes)
    hattributes.notClosing hinside, List.flatMap_cons]
  congr 1
  exact htaken ⟨name, attributes, inside, false, 0, 0⟩ _ _

theorem Yields.all_eq {text : Text} {values : List α} (h : Yields names taken text values)
    (hne : names ≠ []) : (all names text).flatMap taken = values := by
  have hall := h 0 []
  rwa [List.append_nil, allFrom_nil, List.flatMap_nil, List.append_nil,
    ← all_eq_allFrom hne] at hall

end Yields

end FormFill.Element

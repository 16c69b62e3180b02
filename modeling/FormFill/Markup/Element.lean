import FormFill.Text.Basic
import FormFill.Text.Blank
import FormFill.Text.Word

/-!
# Elements

A template looks like XML and is not well formed. A tag is read where it stands: its name is one of the
requested names, as a whole word, and it ends at the first `>` outside quotes. An element is an opening
tag with the closing tag of the same name that balances it, or a tag that closes itself. Openings
without a closing tag are passed over, and so are closing tags without an opening.
-/

namespace FormFill

/-- A tag: an opening or a closing one, with its name and all that follows the name. -/
structure Tag where
  closing : Bool
  name : Text
  attributes : Text
  deriving DecidableEq, Repr

namespace Tag

/-- The text of a tag. -/
def text (tag : Tag) : Text :=
  '<' :: ((if tag.closing then ['/'] else []) ++ tag.name ++ tag.attributes ++ ['>'])

/-- Whether a name that ends with one character is complete before the next character. -/
def borders (last : Char) (next : Option Char) : Bool :=
  Text.isWord last != next.any Text.isWord

/-- Reads up to the first `>` outside quotes; `done` holds what was read before, from the end. -/
def attributesAfter (quoted : Bool) (done : Text) : Text → Option (Text × Text)
  | [] => none
  | c :: rest =>
    if c = '"' then attributesAfter (!quoted) (c :: done) rest
    else if c = '>' && !quoted then some (done.reverse, rest)
    else attributesAfter quoted (c :: done) rest

/-- Reads a tag from its name on; `before` is the character in front of the name. -/
def readNamed? (closing : Bool) (before : Char) (name text : Text) : Option (Tag × Text) :=
  match Text.after? name text with
  | none => none
  | some rest =>
    if borders ((before :: name).getLast (List.cons_ne_nil _ _)) rest.head? then
      match attributesAfter false [] rest with
      | some (attributes, rest) => some (⟨closing, name, attributes⟩, rest)
      | none => none
    else none

/-- Reads a closing tag after its `<`. -/
def readClosing? (names : List Text) : Text → Option (Tag × Text)
  | '/' :: rest => names.findSome? fun name => readNamed? true '/' name rest
  | _ => none

/-- Reads an opening tag after its `<`. -/
def readOpening? (names : List Text) (text : Text) : Option (Tag × Text) :=
  names.findSome? fun name => readNamed? false '<' name text

/-- Reads the tag that a text begins with, if it has one of the given names. The first name that fits
counts, and a closing tag comes before an opening one. -/
def read? (names : List Text) : Text → Option (Tag × Text)
  | '<' :: rest =>
    match readClosing? names rest with
    | some found => some found
    | none => readOpening? names rest
  | _ => none

/-- Finds the first tag in a text: what stands before it, the tag and the rest. `passed` holds the
text already passed over, from the end. -/
def findAfter? (names : List Text) (passed : Text) : Text → Option (Text × Tag × Text)
  | [] => none
  | c :: rest =>
    match read? names (c :: rest) with
    | some (tag, rest) => some (passed.reverse, tag, rest)
    | none => findAfter? names (c :: passed) rest

/-- Finds the first tag in a text: what stands before it, the tag and the rest. -/
def find? (names : List Text) (text : Text) : Option (Text × Tag × Text) :=
  findAfter? names [] text

/-- The attributes of a tag that closes itself, without the slash at their end. -/
def ownClosing? (tag : Tag) : Option Text :=
  match (Text.trimRight tag.attributes).getLast? with
  | some '/' => some (Text.trimRight tag.attributes).dropLast
  | _ => none

/-- The attributes are what stands up to a `>`. -/
theorem attributesAfter_eq {quoted : Bool} {done text attributes rest : Text}
    (h : attributesAfter quoted done text = some (attributes, rest)) :
    done.reverse ++ text = attributes ++ '>' :: rest := by
  induction text generalizing quoted done with
  | nil => simp [attributesAfter] at h
  | cons c text ih =>
    unfold attributesAfter at h
    split at h
    · simpa using ih h
    · split at h
      next hclose =>
        simp only [Option.some.injEq, Prod.mk.injEq] at h
        obtain ⟨rfl, rfl⟩ := h
        simp only [Bool.and_eq_true, decide_eq_true_eq] at hclose
        simp [hclose.1]
      next => simpa using ih h

theorem readNamed?_eq {closing : Bool} {before : Char} {name text rest : Text} {tag : Tag}
    (h : readNamed? closing before name text = some (tag, rest)) :
    tag.closing = closing ∧ tag.name = name ∧ text = tag.name ++ tag.attributes ++ '>' :: rest := by
  unfold readNamed? at h
  split at h
  · simp at h
  next rest' hafter =>
    split at h
    · split at h
      next attributes rest'' hattributes =>
        simp only [Option.some.injEq, Prod.mk.injEq] at h
        obtain ⟨rfl, rfl⟩ := h
        refine ⟨rfl, rfl, ?_⟩
        rw [Text.after?_eq_some_iff.mp hafter]
        simpa using attributesAfter_eq hattributes
      · simp at h
    · simp at h

theorem readClosing?_eq {names : List Text} {text rest : Text} {tag : Tag}
    (h : readClosing? names text = some (tag, rest)) : '<' :: text = tag.text ++ rest := by
  unfold readClosing? at h
  split at h
  · obtain ⟨name, _, hread⟩ := List.exists_of_findSome?_eq_some h
    obtain ⟨hclosing, _, htext⟩ := readNamed?_eq hread
    simp [Tag.text, hclosing, htext]
  · simp at h

theorem readOpening?_eq {names : List Text} {text rest : Text} {tag : Tag}
    (h : readOpening? names text = some (tag, rest)) : '<' :: text = tag.text ++ rest := by
  obtain ⟨name, _, hread⟩ := List.exists_of_findSome?_eq_some h
  obtain ⟨hclosing, _, htext⟩ := readNamed?_eq hread
  simp [Tag.text, hclosing, htext]

/-- A tag that is read is the beginning of the text. -/
theorem eq_of_read? {names : List Text} {text rest : Text} {tag : Tag}
    (h : read? names text = some (tag, rest)) : text = tag.text ++ rest := by
  unfold read? at h
  split at h
  · split at h
    next hclosing => exact readClosing?_eq (hclosing.trans h)
    next => exact readOpening?_eq h
  · simp at h

theorem findAfter?_eq {names : List Text} {passed text gap rest : Text} {tag : Tag}
    (h : findAfter? names passed text = some (gap, tag, rest)) :
    passed.reverse ++ text = gap ++ tag.text ++ rest := by
  induction text generalizing passed with
  | nil => simp [findAfter?] at h
  | cons c text ih =>
    unfold findAfter? at h
    split at h
    next found rest' hread =>
      simp only [Option.some.injEq, Prod.mk.injEq] at h
      obtain ⟨rfl, rfl, rfl⟩ := h
      rw [eq_of_read? hread, List.append_assoc]
    next => simpa using ih h

/-- A tag that is found stands in the text after the gap. -/
theorem eq_of_find? {names : List Text} {text gap rest : Text} {tag : Tag}
    (h : find? names text = some (gap, tag, rest)) : text = gap ++ tag.text ++ rest := by
  simpa using findAfter?_eq h

theorem length_pos (tag : Tag) : 0 < tag.text.length := by
  simp [Tag.text]

/-- Finding a tag takes characters off the text. -/
theorem length_lt_of_find? {names : List Text} {text gap rest : Text} {tag : Tag}
    (h : find? names text = some (gap, tag, rest)) : rest.length < text.length := by
  rw [eq_of_find? h]
  have := tag.length_pos
  simp only [List.length_append]
  omega

end Tag

/-- An element of a text, with the offsets at which it starts and ends. -/
structure Element where
  tag : Text
  attributes : Text
  body : Text
  selfClosing : Bool
  start : Nat
  stop : Nat
  deriving DecidableEq, Repr

namespace Element

/-- Finds the closing tag that balances `depth` open elements of one name: the length of the text
before it, the tag and the rest. `passed` is the length of the text already passed over. -/
def closing? (name : Text) (depth passed : Nat) (text : Text) : Option (Nat × Tag × Text) :=
  match _hfind : Tag.find? [name] text with
  | none => none
  | some (gap, tag, rest) =>
    let here := passed + gap.length
    if tag.closing then
      if depth ≤ 1 then some (here, tag, rest)
      else closing? name (depth - 1) (here + tag.text.length) rest
    else if tag.ownClosing?.isSome then closing? name depth (here + tag.text.length) rest
    else closing? name (depth + 1) (here + tag.text.length) rest
termination_by text.length
decreasing_by all_goals exact Tag.length_lt_of_find? _hfind

theorem length_lt_of_closing? {name text rest : Text} {depth passed length : Nat} {tag : Tag}
    (h : closing? name depth passed text = some (length, tag, rest)) :
    rest.length < text.length := by
  fun_induction closing? name depth passed text with
  | case1 => simp at h
  | case2 depth passed text gap tag' rest' hfind here hclosing hdepth =>
    simp only [Option.some.injEq, Prod.mk.injEq] at h
    obtain ⟨-, rfl, rfl⟩ := h
    exact Tag.length_lt_of_find? hfind
  | case3 depth passed text gap tag' rest' hfind here hclosing hdepth ih =>
    exact Nat.lt_trans (ih h) (Tag.length_lt_of_find? hfind)
  | case4 depth passed text gap tag' rest' hfind here hclosing hown ih =>
    exact Nat.lt_trans (ih h) (Tag.length_lt_of_find? hfind)
  | case5 depth passed text gap tag' rest' hfind here hclosing hown ih =>
    exact Nat.lt_trans (ih h) (Tag.length_lt_of_find? hfind)

/-- The outermost elements with one of the given names in a text that starts at an offset. -/
def allFrom (names : List Text) (offset : Nat) (text : Text) : List Element :=
  match _hfind : Tag.find? names text with
  | none => []
  | some (gap, tag, rest) =>
    let start := offset + gap.length
    let inside := start + tag.text.length
    if tag.closing then allFrom names inside rest
    else match tag.ownClosing? with
      | some attributes =>
        ⟨tag.name, attributes, [], true, start, inside⟩ :: allFrom names inside rest
      | none =>
        match _hclose : closing? tag.name 1 0 rest with
        | none => allFrom names inside rest
        | some (length, close, after) =>
          let stop := inside + length + close.text.length
          ⟨tag.name, tag.attributes, rest.take length, false, start, stop⟩ ::
            allFrom names stop after
termination_by text.length
decreasing_by
  all_goals first
    | exact Tag.length_lt_of_find? _hfind
    | exact Nat.lt_trans (length_lt_of_closing? _hclose) (Tag.length_lt_of_find? _hfind)

/-- The outermost elements with one of the given names, in the order of the text. Without names the
empty name is looked for, which stands wherever a word begins. -/
def all (names : List Text) (text : Text) : List Element :=
  allFrom (if names.isEmpty then [[]] else names) 0 text

end Element

end FormFill

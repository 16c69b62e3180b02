import FormFill.Text.Basic

/-!
# Markers

A marker such as `{?External(KEY)?}` is the place of a value in a template. Its key holds no line feed
and neither the opening `{?` nor the closing `)?}` of a marker. A text splits in one way into markers
and other characters, and the pieces put together give the text back.
-/

namespace FormFill

/-- Who fills a marker. -/
inductive Operation where
  | external
  | editor
  deriving DecidableEq, Repr

namespace Operation

/-- The name of an operation inside a marker. -/
def name : Operation → Text
  | external => "External"
  | editor => "Editor"

end Operation

/-- A marker. -/
structure Marker where
  operation : Operation
  key : Text
  deriving DecidableEq, Repr

namespace Marker

/-- The opening of a marker up to its key. -/
def opening (operation : Operation) : Text := '\x7b' :: '?' :: (operation.name ++ ['('])

/-- The end of a marker after its key. -/
def closing : Text := [')', '?', '\x7d']

/-- The text of a marker. -/
def text (marker : Marker) : Text := opening marker.operation ++ marker.key ++ closing

/-- The text after the opening of a marker, with the operation it names. -/
def afterOpening? (text : Text) : Option (Operation × Text) :=
  match Text.after? (opening .external) text with
  | some rest => some (.external, rest)
  | none =>
    match Text.after? (opening .editor) text with
    | some rest => some (.editor, rest)
    | none => none

/-- Reads a key and the closing after it. -/
def keyAndRest? : Text → Option (Text × Text)
  | [] => none
  | '\n' :: _ => none
  | '\x7b' :: '?' :: _ => none
  | ')' :: '?' :: '\x7d' :: rest => some ([], rest)
  | c :: rest =>
    match keyAndRest? rest with
    | some (key, rest) => some (c :: key, rest)
    | none => none

/-- Reads the marker that a text begins with. -/
def read? (text : Text) : Option (Marker × Text) :=
  match afterOpening? text with
  | none => none
  | some (operation, rest) =>
    match keyAndRest? rest with
    | none => none
    | some (key, rest) => some (⟨operation, key⟩, rest)

theorem afterOpening?_eq {text rest : Text} {operation : Operation}
    (h : afterOpening? text = some (operation, rest)) : text = opening operation ++ rest := by
  unfold afterOpening? at h
  split at h
  · simp only [Option.some.injEq, Prod.mk.injEq] at h
    obtain ⟨rfl, rfl⟩ := h
    exact Text.after?_eq_some_iff.mp ‹_›
  · split at h
    · simp only [Option.some.injEq, Prod.mk.injEq] at h
      obtain ⟨rfl, rfl⟩ := h
      exact Text.after?_eq_some_iff.mp ‹_›
    · simp at h

theorem keyAndRest?_eq {text key rest : Text} (h : keyAndRest? text = some (key, rest)) :
    text = key ++ closing ++ rest := by
  fun_induction keyAndRest? text generalizing key rest with
  | case1 => simp at h
  | case2 => simp at h
  | case3 => simp at h
  | case4 after =>
    simp only [Option.some.injEq, Prod.mk.injEq] at h
    obtain ⟨rfl, rfl⟩ := h
    rfl
  | case5 c text _ _ _ key' after hread ih =>
    simp only [Option.some.injEq, Prod.mk.injEq] at h
    obtain ⟨rfl, rfl⟩ := h
    rw [ih hread]
    rfl
  | case6 => simp at h

/-- A marker that is read is the beginning of the text. -/
theorem eq_of_read? {text rest : Text} {marker : Marker} (h : read? text = some (marker, rest)) :
    text = marker.text ++ rest := by
  unfold read? at h
  split at h
  · simp at h
  next operation opened hopening =>
    split at h
    · simp at h
    next key after hkey =>
      simp only [Option.some.injEq, Prod.mk.injEq] at h
      obtain ⟨rfl, rfl⟩ := h
      rw [afterOpening?_eq hopening, keyAndRest?_eq hkey]
      simp [Marker.text]

/-- Reading a marker takes characters off the text. -/
theorem length_lt_of_read? {text rest : Text} {marker : Marker}
    (h : read? text = some (marker, rest)) : rest.length < text.length := by
  rw [eq_of_read? h]
  simp [Marker.text, closing]
  omega

/-- A piece of a text: a marker or a character outside all markers. -/
inductive Piece where
  | marker (found : Marker)
  | plain (c : Char)
  deriving DecidableEq, Repr

/-- The text of a piece. -/
def Piece.text : Piece → Text
  | .marker found => found.text
  | .plain c => [c]

/-- Splits a text into markers and other characters after the pieces already found, which are given
from the end. -/
def splitAfter (done : List Piece) (text : Text) : List Piece :=
  match _hread : read? text with
  | some (marker, rest) => splitAfter (.marker marker :: done) rest
  | none =>
    match text with
    | [] => done.reverse
    | c :: rest => splitAfter (.plain c :: done) rest
termination_by text.length
decreasing_by
  · exact length_lt_of_read? _hread
  · simp

/-- The markers and the other characters of a text. -/
def split (text : Text) : List Piece := splitAfter [] text

/-- The markers of a text in order. -/
def all (text : Text) : List Marker :=
  (split text).filterMap fun
    | .marker found => some found
    | .plain _ => none

/-- The keys of the markers of a text in order. -/
def keys (text : Text) : List Text := (all text).map (·.key)

/-- The key of the first marker of a text, if it is not empty. -/
def firstKey? (text : Text) : Option Text :=
  match all text with
  | [] => none
  | first :: _ => if first.key.isEmpty then none else some first.key

/-- Whether a text holds the opening of a marker. -/
def occursIn : Text → Bool
  | [] => false
  | c :: rest => (afterOpening? (c :: rest)).isSome || occursIn rest

end Marker

end FormFill

import FormFill.Form.Basic
import FormFill.Text.Digit
import FormFill.Text.Search

/-!
# Lookup dictionaries

A dictionary document holds named blocks, and a block holds options of the form `|digits|label|`. Text
around them is passed over, and so is a block that is never closed. A block whose name came before
replaces the earlier content and keeps its place.
-/

namespace FormFill

namespace Choice

/-- Reads the option that a text begins with. -/
def read? (text : Text) : Option (Choice × Text) :=
  match text with
  | '|' :: rest =>
    match rest.takeWhile Text.isDigit, rest.dropWhile Text.isDigit with
    | digit :: digits, '|' :: rest =>
      (Text.splitAt? ['|'] (· != '\n') rest).map fun found =>
        (⟨digit :: digits, found.1⟩, found.2)
    | _, _ => none
  | _ => none

theorem length_lt_of_read? {text rest : Text} {choice : Choice}
    (h : read? text = some (choice, rest)) : rest.length < text.length := by
  unfold read? at h
  split at h
  next body =>
    split at h
    next digit digits after _ hdrop =>
      simp only [Option.map_eq_some_iff, Prod.mk.injEq] at h
      obtain ⟨found, hfound, -, rfl⟩ := h
      have hlength := congrArg List.length hdrop
      have hshorter := (List.dropWhile_suffix (l := body) Text.isDigit).length_le
      have hsplit := congrArg List.length (Text.eq_of_splitAt? hfound)
      simp only [List.length_append, List.length_cons] at hlength hsplit ⊢
      omega
    · simp at h
  · simp at h

/-- The options in a text, after those already found, which are given from the end. -/
def allAfter (done : List Choice) (text : Text) : List Choice :=
  match _hread : read? text with
  | some (choice, rest) => allAfter (choice :: done) rest
  | none =>
    match text with
    | [] => done.reverse
    | _ :: rest => allAfter done rest
termination_by text.length
decreasing_by
  · exact length_lt_of_read? _hread
  · simp

/-- The options in a text. -/
def all (text : Text) : List Choice := allAfter [] text

end Choice

namespace Dictionary

/-- The opening of a block up to its name. -/
def blockOpening : Text := "<xsl:template name=\""

/-- The end of a block. -/
def blockClosing : Text := "</xsl:template>"

/-- Reads the block that a text begins with: its name, its content and the rest. -/
def readBlock? (text : Text) : Option ((Text × Text) × Text) :=
  match Text.after? blockOpening text with
  | none => none
  | some named =>
    match Text.splitAt? ['"', '>'] (· != '\n') named with
    | none => none
    | some (name, opened) =>
      (Text.splitAt? blockClosing (fun _ => true) opened).map fun found =>
        ((name, found.1), found.2)

theorem length_lt_of_readBlock? {text rest : Text} {block : Text × Text}
    (h : readBlock? text = some (block, rest)) : rest.length < text.length := by
  unfold readBlock? at h
  split at h
  · simp at h
  next named hnamed =>
    split at h
    · simp at h
    next name opened hopened =>
      simp only [Option.map_eq_some_iff, Prod.mk.injEq] at h
      obtain ⟨found, hfound, -, rfl⟩ := h
      have hnamed := congrArg List.length (Text.after?_eq_some_iff.mp hnamed)
      have hopened := congrArg List.length (Text.eq_of_splitAt? hopened)
      have hfound := congrArg List.length (Text.eq_of_splitAt? hfound)
      simp only [List.length_append, List.length_cons] at hnamed hopened hfound
      omega

/-- The named blocks in a text, after those already found, which are given from the end. -/
def blocksAfter (done : List (Text × Text)) (text : Text) : List (Text × Text) :=
  match _hread : readBlock? text with
  | some (block, rest) => blocksAfter (block :: done) rest
  | none =>
    match text with
    | [] => done.reverse
    | _ :: rest => blocksAfter done rest
termination_by text.length
decreasing_by
  · exact length_lt_of_readBlock? _hread
  · simp

/-- The named blocks in a text. -/
def blocks (text : Text) : List (Text × Text) := blocksAfter [] text

/-- Reads a dictionary document. -/
def read (text : Text) : Dictionary :=
  Table.setAll ((blocks text).map fun block => (block.1, Choice.all block.2)) []

end Dictionary

end FormFill

import FormFill.Command.Run
import FormFill.Proofs.Json.LineEnds
import Mathlib.Data.List.Infix

/-!
# What a command reads

A file that holds a text is read as that text with line feeds. For a JSON document that makes no difference:
the values and the profile are those of the text in the file.
-/

namespace FormFill

namespace Utf8

/-- Of what the byte order mark begins with, only nothing at all and the whole mark are a text. -/
theorem decodeMarked_of_prefix : ∀ bytes ∈ mark.inits,
    decodeMarked bytes = .ok [] ∨ (decodeMarked bytes).isOk = false := by
  decide +kernel

/-- Bytes that are a text as a whole are the same text as a stream. -/
theorem decodeMarkedStream_eq_ok {bytes : List UInt8} {text : Text}
    (h : decodeMarked bytes = .ok text) : decodeMarkedStream bytes = .ok text := by
  rw [decodeMarkedStream]
  split
  next hprefix =>
    have hmem : bytes ∈ mark.inits := by
      rw [List.mem_inits]
      exact List.isPrefixOf_iff_prefix.mp hprefix
    rcases decodeMarked_of_prefix bytes hmem with hnil | hfault
    · rw [← hnil, h]
    · simp [h, Except.isOk, Except.toBool] at hfault
  next => exact h

end Utf8

/-- A file holds a text, with or without a byte order mark. -/
def Disk.HoldsText (disk : Disk) (location : Location) (text : Text) : Prop :=
  ∃ bytes, disk.read location = .ok bytes ∧ Utf8.decodeMarked bytes = .ok text

namespace Command

variable {disk : Disk} {location : Location} {text : Text} {members : Table Json.Value}

theorem readText_eq_ok (h : disk.HoldsText location text) :
    readText disk location = .ok (Text.withLineFeeds text) := by
  obtain ⟨bytes, hbytes, htext⟩ := h
  simp only [readText, hbytes, Utf8.decodeMarkedStream_eq_ok htext]

/-- Line feeds make no difference to a JSON document. -/
theorem readObject_eq_ok (kind : Text) (h : disk.HoldsText location text)
    (hjson : Json.read text = .ok (.object members)) :
    readObject kind disk location = .ok (.object members) := by
  have hread := Json.read_of_lineFed (Text.lineFed_withLineFeeds text) hjson
  simp only [readObject, readText_eq_ok h, bind, Except.bind, hread, pure, Except.pure]

theorem readValues_eq_ok {values : Values} (h : disk.HoldsText location text)
    (hjson : Json.read text = .ok (.object members))
    (hvalues : Values.ofJson? (.object members) = some values) :
    readValues disk location = .ok values := by
  simp only [readValues, readObject_eq_ok _ h hjson, bind, Except.bind, pure, Except.pure, hvalues,
    Option.getD_some]

/-- A profile is read as its document gives it. -/
theorem readProfile_eq (h : disk.HoldsText location text)
    (hjson : Json.read text = .ok (.object members)) :
    readProfile disk location =
      match Profile.ofJson (.object members) with
      | .ok profile => .ok profile
      | .error problems => .error (.profile problems) := by
  simp only [readProfile, readObject_eq_ok _ h hjson, bind, Except.bind]
  cases Profile.ofJson (.object members) <;> rfl

end Command

end FormFill

import FormFill.Service.Refusal

/-!
# Uploads

An upload is received in pieces of a fixed size. As soon as the pieces together exceed the limit nothing
more is received. The bytes are decoded after the last piece has come, so that a character may stand
across the border of two pieces.
-/

namespace FormFill.Service.Upload

/-- The number of bytes in a piece, of which only the last may have fewer. -/
def pieceSize : Nat := 1024 * 1024

/-- Receives the bytes that are left after some have been received. If they exceed the limit the result is
the number of bytes received until then. -/
def receive (limit received : Nat) (bytes : List UInt8) : Except Nat (List UInt8) :=
  match _h : bytes with
  | [] => .ok []
  | _ :: _ =>
    let piece := bytes.take pieceSize
    if limit < received + piece.length then .error (received + piece.length)
    else (receive limit (received + piece.length) (bytes.drop pieceSize)).map (piece ++ ·)
termination_by bytes.length
decreasing_by
  subst _h
  simp only [List.length_drop, List.length_cons, pieceSize]
  omega

/-- Reads the text of the upload for a field. -/
def read (limit : Nat) (field : Text) (bytes : List UInt8) : Except Failure Text :=
  match receive limit 0 bytes with
  | .error received => .error (.refused (.tooLarge field limit received))
  | .ok bytes =>
    match Utf8.decodeMarked bytes with
    | .error _ => .error (.refused (.notUtf8 field))
    | .ok text => .ok text

end FormFill.Service.Upload

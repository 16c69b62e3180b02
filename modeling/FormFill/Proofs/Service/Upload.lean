import FormFill.Proofs.Text.Utf8
import FormFill.Service.Upload

/-!
# Uploads as a whole

However many pieces an upload comes in, what is made of it depends on its bytes as a whole. If they exceed
the limit it is refused as too large, whatever they encode, at the first piece that goes beyond. Otherwise it
is read as the text that the bytes encode, without a byte order mark at its start, or refused because they
encode no text.
-/

namespace FormFill.Service.Upload

/-- How many bytes of an upload have been received when it is found to be too large: all of them, or as many
whole pieces as it takes to exceed the limit. -/
def receivedCount (limit size : Nat) : Nat := min size ((limit / pieceSize + 1) * pieceSize)

theorem limit_lt_receivedCount {limit size : Nat} (h : limit < size) :
    limit < receivedCount limit size := by
  have hpieces : limit < (limit / pieceSize + 1) * pieceSize := by
    rw [Nat.mul_comm]
    exact Nat.lt_mul_div_succ limit (by decide)
  exact lt_min h hpieces

/-- Within the first piece all that has come of it has been received. -/
theorem receivedCount_of_lt {limit size : Nat} (h : limit < pieceSize) :
    receivedCount limit size = min size pieceSize := by
  rw [receivedCount, Nat.div_eq_of_lt h, Nat.zero_add, Nat.one_mul]

/-- A whole piece within the limit counts in full. -/
theorem receivedCount_of_le {limit size : Nat} (hlimit : pieceSize ≤ limit) (hsize : pieceSize ≤ size) :
    receivedCount limit size = pieceSize + receivedCount (limit - pieceSize) (size - pieceSize) := by
  have hpieces : (limit - pieceSize) / pieceSize + 1 = limit / pieceSize :=
    (Nat.div_eq_sub_div (by decide) hlimit).symm
  have hsucc : (limit / pieceSize + 1) * pieceSize = pieceSize + limit / pieceSize * pieceSize := by
    rw [Nat.succ_mul, Nat.add_comm]
  rw [receivedCount, receivedCount, hpieces, hsucc]
  omega

/-- What receiving an upload comes to, some bytes of which have been received within the limit. By induction
on the pieces: each counts in full but the one that goes beyond the limit. -/
theorem receive_eq {limit received : Nat} (hreceived : received ≤ limit) (bytes : List UInt8) :
    receive limit received bytes =
      if received + bytes.length ≤ limit then .ok bytes
      else .error (received + receivedCount (limit - received) bytes.length) := by
  fun_induction receive limit received bytes with
  | case1 received => exact (if_pos hreceived).symm
  | case2 received first rest piece hover =>
      have hpiece : piece.length = min pieceSize (first :: rest).length := List.length_take
      have hcount : receivedCount (limit - received) (first :: rest).length = piece.length := by
        rw [receivedCount_of_lt (by omega), hpiece, Nat.min_comm]
      dsimp only
      rw [if_pos hover, if_neg (by omega), hcount]
  | case3 received first rest piece hwithin ih =>
      have hpiece : piece.length = min pieceSize (first :: rest).length := List.length_take
      have hleft : ((first :: rest).drop pieceSize).length = (first :: rest).length - pieceSize :=
        List.length_drop
      dsimp only
      rw [if_neg hwithin, ih (by omega), hleft]
      clear_value piece
      by_cases hall : received + (first :: rest).length ≤ limit
      · rw [if_pos (by omega), if_pos hall, Except.map, List.take_append_drop]
      · have hsizes : pieceSize ≤ limit - received ∧ pieceSize ≤ (first :: rest).length := by omega
        rw [if_neg (by omega), if_neg hall, Except.map,
          receivedCount_of_le hsizes.1 hsizes.2, hpiece, Nat.min_eq_left hsizes.2, Nat.sub_sub,
          Nat.add_assoc]

/-- What reading an upload comes to depends on its size, and then on what its bytes encode. -/
theorem read_eq (limit : Nat) (field : Text) (bytes : List UInt8) : read limit field bytes =
    if bytes.length ≤ limit then
      match Utf8.decodeMarked bytes with
      | .error _ => .error (.refused (.notUtf8 field))
      | .ok text => .ok text
    else .error (.refused (.tooLarge field limit (receivedCount limit bytes.length))) := by
  rw [read, receive_eq (Nat.zero_le limit), Nat.zero_add]
  by_cases hall : bytes.length ≤ limit
  · rw [if_pos hall]
    exact (if_pos hall).symm
  · rw [if_neg hall, if_neg hall, Nat.sub_zero, Nat.zero_add]

/-- The text of an upload within the limit is read. -/
theorem read_eq_ok {limit : Nat} {bytes : List UInt8} {text : Text} (field : Text)
    (hlimit : bytes.length ≤ limit) (htext : Utf8.decodeMarked bytes = .ok text) :
    read limit field bytes = .ok text := by
  rw [read_eq, if_pos hlimit, htext]

/-- An upload within the limit whose bytes encode no text is refused. -/
theorem read_eq_notUtf8 {limit : Nat} {bytes : List UInt8} (field : Text)
    (hlimit : bytes.length ≤ limit) (hnone : ∀ whole, bytes ≠ Utf8.encode whole) :
    read limit field bytes = .error (.refused (.notUtf8 field)) := by
  rw [read_eq, if_pos hlimit]
  cases htext : Utf8.decodeMarked bytes with
  | error fault => rfl
  | ok text =>
      obtain ⟨whole, hwhole, -⟩ := Utf8.decodeMarked_eq_ok_iff.mp htext
      exact absurd hwhole (hnone whole)

/-- What reading an upload comes to. -/
structure ReadsWhole (limit : Nat) (field : Text) (bytes : List UInt8) : Prop where
  /-- It is too large exactly if it has more bytes than the limit allows, whatever they encode. -/
  tooLarge_iff : (∃ failure, read limit field bytes = .error failure ∧
    failure.code = "UPLOAD_TOO_LARGE".toList) ↔ limit < bytes.length
  /-- The failure then tells how many bytes have been received, which are more than the limit. -/
  received : limit < bytes.length → ∃ failure, read limit field bytes = .error failure ∧
    (∀ path, Table.get? "received_bytes" (failure.detail path) =
      some (.integer (min bytes.length ((limit / pieceSize + 1) * pieceSize) : Nat))) ∧
    limit + 1 ≤ min bytes.length ((limit / pieceSize + 1) * pieceSize)
  /-- Within the limit the text that the bytes encode is read, without a mark at its start. -/
  text : bytes.length ≤ limit → ∀ whole, bytes = Utf8.encode whole →
    read limit field bytes = .ok (Utf8.unmarked whole)
  /-- Within the limit the encoding is invalid exactly if the bytes encode no text. -/
  invalid_iff : (∃ failure, read limit field bytes = .error failure ∧
    failure.code = "INVALID_ENCODING".toList) ↔
      bytes.length ≤ limit ∧ ∀ whole, bytes ≠ Utf8.encode whole

/-- An upload is read as a whole, in however many pieces it comes. -/
theorem readsWhole (limit : Nat) (field : Text) (bytes : List UInt8) :
    ReadsWhole limit field bytes := by
  have hcodes : "UPLOAD_TOO_LARGE".toList ≠ "INVALID_ENCODING".toList := by decide
  rcases Nat.lt_or_ge limit bytes.length with hover | hwithin
  · -- Too large, and nothing has been decoded.
    have hread := read_eq limit field bytes
    rw [if_neg (by omega)] at hread
    refine ⟨iff_of_true ⟨_, hread, rfl⟩ hover, fun _ => ⟨_, hread, fun _ => rfl, ?_⟩,
      fun h => absurd h (by omega), iff_of_false ?_ fun h => absurd h.1 (by omega)⟩
    · exact limit_lt_receivedCount hover
    · rintro ⟨failure, hfailure, hcode⟩
      rw [hread] at hfailure
      cases hfailure
      exact hcodes hcode
  · by_cases hnone : ∀ whole, bytes ≠ Utf8.encode whole
    · have hread := read_eq_notUtf8 field hwithin hnone
      refine ⟨iff_of_false ?_ (by omega), fun h => absurd h (by omega),
        fun _ whole hwhole => absurd hwhole (hnone whole),
        iff_of_true ⟨_, hread, rfl⟩ ⟨hwithin, hnone⟩⟩
      rintro ⟨failure, hfailure, hcode⟩
      rw [hread] at hfailure
      cases hfailure
      exact hcodes.symm hcode
    · have hread : ∀ whole, bytes = Utf8.encode whole →
          read limit field bytes = .ok (Utf8.unmarked whole) := fun whole hwhole =>
        read_eq_ok field hwithin (Utf8.decodeMarked_eq_ok_iff.mpr ⟨whole, hwhole, rfl⟩)
      have hsome : ∃ whole, bytes = Utf8.encode whole := by
        simpa only [ne_eq, not_forall, not_not] using hnone
      obtain ⟨whole, hwhole⟩ := hsome
      have hfine : ∀ code, ¬ ∃ failure, read limit field bytes = .error failure ∧
          failure.code = code := by
        rintro code ⟨failure, hfailure, -⟩
        rw [hread whole hwhole] at hfailure
        cases hfailure
      exact ⟨iff_of_false (hfine _) (by omega), fun h => absurd h (by omega), fun _ => hread,
        iff_of_false (hfine _) fun h => hnone h.2⟩

end FormFill.Service.Upload

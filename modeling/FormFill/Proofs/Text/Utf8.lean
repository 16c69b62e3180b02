import FormFill.Text.Utf8
import Mathlib.Data.Char
import Mathlib.Data.List.Infix

/-!
# What is UTF-8

Decoding accepts exactly what encoding produces, and gives the text back. A text may be read without a byte
order mark at its start, of which one is left out if there are several.
-/

namespace FormFill.Utf8

/-! ## Characters -/

/-- The bytes of the character with a code point. -/
theorem utf8EncodeChar_ofNat {code : Nat} (hvalid : code.isValidChar) :
    String.utf8EncodeChar (Char.ofNat code) =
      if code ≤ 0x7F then [UInt8.ofNat code]
      else if code ≤ 0x7FF then
        [UInt8.ofNat (code / 64 % 0x20 + 0xC0), UInt8.ofNat (code % 0x40 + 0x80)]
      else if code ≤ 0xFFFF then
        [UInt8.ofNat (code / 4096 % 0x10 + 0xE0), UInt8.ofNat (code / 64 % 0x40 + 0x80),
          UInt8.ofNat (code % 0x40 + 0x80)]
      else
        [UInt8.ofNat (code / 262144 % 0x08 + 0xF0), UInt8.ofNat (code / 4096 % 0x40 + 0x80),
          UInt8.ofNat (code / 64 % 0x40 + 0x80), UInt8.ofNat (code % 0x40 + 0x80)] := by
  have hcode : (Char.ofNat code).toNat = code := by
    rw [Char.ofNat, dif_pos hvalid]
    rfl
  rw [String.utf8EncodeChar, Char.toNat_val, hcode]

/-- The bytes that may follow a first byte: any that begin with the bits 10, but for what would begin a
character that has fewer bytes, half of a surrogate pair, or a number beyond the last code point. -/
theorem secondRange_iff {first byte : Nat} :
    (secondRange first).1 ≤ byte ∧ byte ≤ (secondRange first).2 ↔
      0x80 ≤ byte ∧ byte ≤ 0xBF ∧ (first = 0xE0 → 0xA0 ≤ byte) ∧ (first = 0xED → byte ≤ 0x9F) ∧
        (first = 0xF0 → 0x90 ≤ byte) ∧ (first = 0xF4 → byte ≤ 0x8F) := by
  unfold secondRange
  split_ifs <;> simp only <;> omega

theorem readTail_succ_iff {needed code count found : Nat} {range : Nat × Nat} {bytes rest : List UInt8} :
    readTail (needed + 1) range code count bytes = .ok (found, rest) ↔
      ∃ byte tail, bytes = byte :: tail ∧ (range.1 ≤ byte.toNat ∧ byte.toNat ≤ range.2) ∧
        readTail needed (0x80, 0xBF) (code * 64 + (byte.toNat - 0x80)) (count + 1) tail =
          .ok (found, rest) := by
  cases bytes with
  | nil => simp [readTail]
  | cons byte tail =>
      rw [readTail]
      by_cases hrange : range.1 ≤ byte.toNat ∧ byte.toNat ≤ range.2
      · simp [hrange]
      · simp [hrange]

theorem readTail_zero_iff {code count found : Nat} {range : Nat × Nat} {bytes rest : List UInt8} :
    readTail 0 range code count bytes = .ok (found, rest) ↔ code = found ∧ bytes = rest := by
  rw [readTail, Except.ok.injEq, Prod.mk.injEq]

variable {first : UInt8} {code : Nat} {bytes rest : List UInt8}

/-- What is read as a code point are the bytes of its character. -/
theorem eq_encode_of_readCode (h : readCode first bytes = .ok (code, rest)) :
    code.isValidChar ∧ first :: bytes = String.utf8EncodeChar (Char.ofNat code) ++ rest := by
  unfold readCode tailCount? firstBits at h
  split_ifs at h with hone hnone htwo hthree hfour
  · obtain ⟨rfl, rfl⟩ := readTail_zero_iff.mp h
    have hvalid : first.toNat.isValidChar := by unfold Nat.isValidChar; omega
    rw [utf8EncodeChar_ofNat hvalid, if_pos (by omega), UInt8.ofNat_toNat]
    exact ⟨hvalid, rfl⟩
  · obtain ⟨second, tail, rfl, hsecond, h⟩ := readTail_succ_iff.mp h
    obtain ⟨hcode, rfl⟩ := readTail_zero_iff.mp h
    rw [secondRange_iff] at hsecond
    have hvalid : code.isValidChar := by unfold Nat.isValidChar; omega
    have hbytes : first.toNat = code / 64 % 0x20 + 0xC0 ∧ second.toNat = code % 0x40 + 0x80 := by
      omega
    rw [utf8EncodeChar_ofNat hvalid, if_neg (by omega), if_pos (by omega), ← hbytes.1, ← hbytes.2]
    simp only [UInt8.ofNat_toNat]
    exact ⟨hvalid, rfl⟩
  · obtain ⟨second, tail, rfl, hsecond, h⟩ := readTail_succ_iff.mp h
    obtain ⟨third, tail, rfl, hthird, h⟩ := readTail_succ_iff.mp h
    obtain ⟨hcode, rfl⟩ := readTail_zero_iff.mp h
    rw [secondRange_iff] at hsecond
    have hvalid : code.isValidChar := by unfold Nat.isValidChar; omega
    have hbytes : first.toNat = code / 4096 % 0x10 + 0xE0 ∧
        second.toNat = code / 64 % 0x40 + 0x80 ∧ third.toNat = code % 0x40 + 0x80 := by
      omega
    rw [utf8EncodeChar_ofNat hvalid, if_neg (by omega), if_neg (by omega), if_pos (by omega),
      ← hbytes.1, ← hbytes.2.1, ← hbytes.2.2]
    simp only [UInt8.ofNat_toNat]
    exact ⟨hvalid, rfl⟩
  · obtain ⟨second, tail, rfl, hsecond, h⟩ := readTail_succ_iff.mp h
    obtain ⟨third, tail, rfl, hthird, h⟩ := readTail_succ_iff.mp h
    obtain ⟨fourth, tail, rfl, hfourth, h⟩ := readTail_succ_iff.mp h
    obtain ⟨hcode, rfl⟩ := readTail_zero_iff.mp h
    rw [secondRange_iff] at hsecond
    have hvalid : code.isValidChar := by unfold Nat.isValidChar; omega
    have hbytes : first.toNat = code / 262144 % 0x08 + 0xF0 ∧
        second.toNat = code / 4096 % 0x40 + 0x80 ∧ third.toNat = code / 64 % 0x40 + 0x80 ∧
        fourth.toNat = code % 0x40 + 0x80 := by
      omega
    rw [utf8EncodeChar_ofNat hvalid, if_neg (by omega), if_neg (by omega), if_neg (by omega),
      ← hbytes.1, ← hbytes.2.1, ← hbytes.2.2.1, ← hbytes.2.2.2]
    simp only [UInt8.ofNat_toNat]
    exact ⟨hvalid, rfl⟩

/-- The byte of six bits of a code point is taken off. -/
theorem readTail_ofNat {needed count bits : Nat} {range : Nat × Nat}
    (hrange : range.1 ≤ bits % 0x40 + 0x80 ∧ bits % 0x40 + 0x80 ≤ range.2) :
    readTail (needed + 1) range code count (UInt8.ofNat (bits % 0x40 + 0x80) :: rest) =
      readTail needed (0x80, 0xBF) (code * 64 + bits % 0x40) (count + 1) rest := by
  have hbyte : (UInt8.ofNat (bits % 0x40 + 0x80)).toNat = bits % 0x40 + 0x80 := by
    rw [UInt8.toNat_ofNat']
    omega
  rw [readTail, hbyte, if_pos hrange, Nat.add_sub_cancel]

/-- The byte of six bits may stand at all places but the second. -/
theorem continuation_range (bits : Nat) :
    (0x80, 0xBF).1 ≤ bits % 0x40 + 0x80 ∧ bits % 0x40 + 0x80 ≤ (0x80, 0xBF).2 := by
  simp only
  omega

/-- A code point is read from the bytes of its character. -/
theorem readCode_of_eq_encode (hvalid : code.isValidChar)
    (h : first :: bytes = String.utf8EncodeChar (Char.ofNat code) ++ rest) :
    readCode first bytes = .ok (code, rest) := by
  have hbyte : ∀ n < 256, (UInt8.ofNat n).toNat = n := fun n hn => UInt8.toNat_ofNat_of_lt' hn
  rw [utf8EncodeChar_ofNat hvalid] at h
  unfold Nat.isValidChar at hvalid
  unfold readCode tailCount? firstBits
  split_ifs at h with hone htwo hthree
  · obtain ⟨rfl, rfl⟩ := List.cons.inj h
    rw [hbyte _ (by omega), if_pos (by omega), if_pos (by omega)]
    rfl
  · obtain ⟨rfl, rfl⟩ := List.cons.inj h
    rw [hbyte _ (by omega), if_neg (by omega), if_neg (by omega), if_pos (by omega),
      if_neg (by omega), if_pos (by omega)]
    refine (readTail_ofNat (secondRange_iff.mpr (by omega))).trans ?_
    exact readTail_zero_iff.mpr ⟨by omega, rfl⟩
  · obtain ⟨rfl, rfl⟩ := List.cons.inj h
    rw [hbyte _ (by omega), if_neg (by omega), if_neg (by omega), if_neg (by omega),
      if_pos (by omega), if_neg (by omega), if_neg (by omega), if_pos (by omega)]
    refine (readTail_ofNat (secondRange_iff.mpr (by omega))).trans ?_
    refine (readTail_ofNat (continuation_range code)).trans ?_
    exact readTail_zero_iff.mpr ⟨by omega, rfl⟩
  · obtain ⟨rfl, rfl⟩ := List.cons.inj h
    rw [hbyte _ (by omega), if_neg (by omega), if_neg (by omega), if_neg (by omega),
      if_neg (by omega), if_pos (by omega), if_neg (by omega), if_neg (by omega), if_neg (by omega)]
    refine (readTail_ofNat (secondRange_iff.mpr (by omega))).trans ?_
    refine (readTail_ofNat (continuation_range (code / 64))).trans ?_
    refine (readTail_ofNat (continuation_range code)).trans ?_
    exact readTail_zero_iff.mpr ⟨by omega, rfl⟩

/-- A code point is read from the bytes of its character, and from no others. -/
theorem readCode_eq_ok_iff : readCode first bytes = .ok (code, rest) ↔
    code.isValidChar ∧ first :: bytes = String.utf8EncodeChar (Char.ofNat code) ++ rest :=
  ⟨eq_encode_of_readCode, fun h => readCode_of_eq_encode h.1 h.2⟩

/-! ## Texts -/

theorem encode_cons (c : Char) (text : Text) :
    encode (c :: text) = String.utf8EncodeChar c ++ encode text :=
  List.flatMap_cons

theorem encode_eq_nil_iff {text : Text} : encode text = [] ↔ text = [] := by
  cases text with
  | nil => exact iff_of_true rfl rfl
  | cons c rest => simp [encode_cons, String.utf8EncodeChar_ne_nil]

/-- The first code point of an encoded text is that of its first character. -/
theorem exists_of_cons_eq_encode {text : Text} (h : first :: bytes = encode text) :
    ∃ c rest, text = c :: rest ∧ readCode first bytes = .ok (c.toNat, encode rest) := by
  cases text with
  | nil => cases h
  | cons c rest =>
      rw [encode_cons] at h
      refine ⟨c, rest, rfl, readCode_of_eq_encode c.valid ?_⟩
      rw [h, Char.ofNat_toNat]

/-- Decoding goes on behind what has been decoded. -/
theorem decodeFrom_eq_ok_iff {position : Nat} {done text : Text} {bytes : List UInt8} :
    decodeFrom position done bytes = .ok text ↔
      ∃ more, text = done.reverse ++ more ∧ bytes = encode more := by
  fun_induction decodeFrom position done bytes with
  | case1 position done =>
      rw [Except.ok.injEq]
      constructor
      · rintro rfl
        exact ⟨[], (List.append_nil _).symm, rfl⟩
      · rintro ⟨more, rfl, hmore⟩
        rw [encode_eq_nil_iff.mp hmore.symm, List.append_nil]
  | case2 position done first bytes code rest hread ih =>
      rw [ih]
      constructor
      · rintro ⟨more, rfl, rfl⟩
        refine ⟨Char.ofNat code :: more, by simp, ?_⟩
        rw [encode_cons, (readCode_eq_ok_iff.mp hread).2]
      · rintro ⟨text, rfl, hbytes⟩
        obtain ⟨c, more, rfl, hfirst⟩ := exists_of_cons_eq_encode hbytes
        rw [hread] at hfirst
        obtain ⟨rfl, rfl⟩ := Prod.mk.inj (Except.ok.inj hfirst)
        exact ⟨more, by simp, rfl⟩
  | case3 position done first bytes reason count hread =>
      refine ⟨nofun, ?_⟩
      rintro ⟨text, -, hbytes⟩
      obtain ⟨c, more, -, hfirst⟩ := exists_of_cons_eq_encode hbytes
      rw [hread] at hfirst
      cases hfirst

/-- Decoding accepts exactly what encoding produces. -/
theorem decode_eq_ok_iff {bytes : List UInt8} {text : Text} :
    decode bytes = .ok text ↔ bytes = encode text := by
  rw [decode, decodeFrom_eq_ok_iff]
  simp

/-! ## Marked texts -/

/-- A text without a byte order mark at its start. -/
def unmarked : Text → Text
  | '\uFEFF' :: rest => rest
  | text => text

theorem encode_mark (text : Text) : encode ('\uFEFF' :: text) = mark ++ encode text := rfl

/-- Bytes that begin with a mark are those of a text that does. -/
theorem exists_of_encode_eq_mark {text : Text} {bytes : List UInt8} (h : encode text = mark ++ bytes) :
    ∃ rest, text = '\uFEFF' :: rest ∧ bytes = encode rest := by
  obtain ⟨c, rest, rfl, hread⟩ := exists_of_cons_eq_encode h.symm
  have hmark : readCode 0xEF ([0xBB, 0xBF] ++ bytes) = .ok (0xFEFF, bytes) :=
    readCode_of_eq_encode (by decide) rfl
  obtain ⟨hcode, hrest⟩ := Prod.mk.inj (Except.ok.inj (hmark.symm.trans hread))
  have hc : c = '\uFEFF' := by rw [← Char.ofNat_toNat c, ← hcode]
  exact ⟨rest, by rw [hc], hrest⟩

theorem unmarked_of_not_marked {text : Text} (h : ¬ mark <+: encode text) : unmarked text = text := by
  rw [unmarked]
  rintro rest rfl
  exact h (List.prefix_append mark (encode rest))

theorem withoutMark_encode (text : Text) : withoutMark (encode text) = encode (unmarked text) := by
  rw [withoutMark]
  split
  next hmarked =>
    obtain ⟨bytes, hbytes⟩ := List.isPrefixOf_iff_prefix.mp hmarked
    obtain ⟨rest, rfl, -⟩ := exists_of_encode_eq_mark hbytes.symm
    exact List.drop_left
  next hmarked =>
    rw [unmarked_of_not_marked (mt List.isPrefixOf_iff_prefix.mpr hmarked)]

/-- Bytes are read as a text exactly if they encode it, or it with a mark before it. -/
theorem decodeMarked_eq_ok_iff {bytes : List UInt8} {text : Text} :
    decodeMarked bytes = .ok text ↔ ∃ whole, bytes = encode whole ∧ text = unmarked whole := by
  rw [decodeMarked, decode_eq_ok_iff]
  constructor
  · intro h
    rw [withoutMark] at h
    split at h
    next hmarked =>
      obtain ⟨rest, rfl⟩ := List.isPrefixOf_iff_prefix.mp hmarked
      have hrest : rest = encode text := List.drop_left.symm.trans h
      exact ⟨'\uFEFF' :: text, by rw [hrest, encode_mark], rfl⟩
    next hmarked =>
      subst h
      exact ⟨text, rfl, (unmarked_of_not_marked (mt List.isPrefixOf_iff_prefix.mpr hmarked)).symm⟩
  · rintro ⟨whole, rfl, rfl⟩
    exact withoutMark_encode whole

end FormFill.Utf8

import FormFill.Text.Quoted

/-!
# UTF-8

Decoding takes one character after the other off a list of bytes. A fault names the first byte of the
character that cannot be read, how many bytes could be read of it, and why it ends there. A text that
begins with a byte order mark may be read without the mark.
-/

namespace FormFill.Utf8

/-- Why a character cannot be read. -/
inductive Reason where
  | invalidStart
  | invalidContinuation
  | unexpectedEnd
  deriving DecidableEq, Repr

/-- The wording of a reason. -/
def Reason.message : Reason → Text
  | .invalidStart => "invalid start byte"
  | .invalidContinuation => "invalid continuation byte"
  | .unexpectedEnd => "unexpected end of data"

/-- A character that cannot be read: where it begins, its first byte, how many of its bytes could be
read, and why no more. -/
structure Fault where
  position : Nat
  byte : UInt8
  count : Nat
  reason : Reason
  deriving DecidableEq, Repr

/-- The wording of a fault. -/
def Fault.message (fault : Fault) : Text :=
  let place : Text :=
    if fault.count ≤ 1 then
      "byte 0x".toList ++ Text.hexDigits 2 fault.byte.toNat ++ " in position ".toList ++
        Text.ofNat fault.position
    else
      "bytes in position ".toList ++ Text.ofNat fault.position ++ '-' ::
        Text.ofNat (fault.position + fault.count - 1)
  "'utf-8' codec can't decode ".toList ++ place ++ ':' :: ' ' :: fault.reason.message

/-- The number of bytes that follow a first byte, if it can be one. -/
def tailCount? (first : Nat) : Option Nat :=
  if first < 0x80 then some 0
  else if first < 0xC2 then none
  else if first < 0xE0 then some 1
  else if first < 0xF0 then some 2
  else if first < 0xF5 then some 3
  else none

/-- The part of a code point that stands in the first byte. -/
def firstBits (first : Nat) : Nat :=
  if first < 0x80 then first
  else if first < 0xE0 then first - 0xC0
  else if first < 0xF0 then first - 0xE0
  else first - 0xF0

/-- The least and the greatest byte that may follow a first byte. -/
def secondRange (first : Nat) : Nat × Nat :=
  if first = 0xE0 then (0xA0, 0xBF)
  else if first = 0xED then (0x80, 0x9F)
  else if first = 0xF0 then (0x90, 0xBF)
  else if first = 0xF4 then (0x80, 0x8F)
  else (0x80, 0xBF)

/-- Reads the bytes after the first one, of which the next must lie in a range; `count` bytes of the
character have been read before. -/
def readTail : (needed : Nat) → (range : Nat × Nat) → (code count : Nat) → List UInt8 →
    Except (Reason × Nat) (Nat × List UInt8)
  | 0, _, code, _, rest => .ok (code, rest)
  | _ + 1, _, _, count, [] => .error (.unexpectedEnd, count)
  | needed + 1, range, code, count, byte :: rest =>
    if range.1 ≤ byte.toNat ∧ byte.toNat ≤ range.2 then
      readTail needed (0x80, 0xBF) (code * 64 + (byte.toNat - 0x80)) (count + 1) rest
    else .error (.invalidContinuation, count)

/-- Reads the code point that begins with a given byte. -/
def readCode (first : UInt8) (rest : List UInt8) : Except (Reason × Nat) (Nat × List UInt8) :=
  match tailCount? first.toNat with
  | none => .error (.invalidStart, 1)
  | some needed => readTail needed (secondRange first.toNat) (firstBits first.toNat) 1 rest

theorem length_le_of_readTail {needed code count result : Nat} {range : Nat × Nat}
    {bytes rest : List UInt8} (h : readTail needed range code count bytes = .ok (result, rest)) :
    rest.length ≤ bytes.length := by
  fun_induction readTail needed range code count bytes with
  | case1 range code count bytes =>
    simp only [Except.ok.injEq, Prod.mk.injEq] at h
    exact Nat.le_of_eq (congrArg List.length h.2.symm)
  | case2 => simp at h
  | case3 needed range code count byte bytes hrange ih => exact Nat.le_succ_of_le (ih h)
  | case4 => simp at h

theorem length_le_of_readCode {first : UInt8} {code : Nat} {bytes rest : List UInt8}
    (h : readCode first bytes = .ok (code, rest)) : rest.length ≤ bytes.length := by
  unfold readCode at h
  split at h
  · simp at h
  · exact length_le_of_readTail h

/-- Decodes bytes that stand at a position; `done` holds the characters before them, from the end. -/
def decodeFrom (position : Nat) (done : Text) (bytes : List UInt8) : Except Fault Text :=
  match bytes with
  | [] => .ok done.reverse
  | first :: more =>
    match _hread : readCode first more with
    | .ok (code, rest) =>
      decodeFrom (position + (more.length + 1 - rest.length)) (Char.ofNat code :: done) rest
    | .error (reason, count) => .error ⟨position, first, count, reason⟩
termination_by bytes.length
decreasing_by exact Nat.lt_succ_of_le (length_le_of_readCode _hread)

/-- Decodes bytes. -/
def decode (bytes : List UInt8) : Except Fault Text := decodeFrom 0 [] bytes

/-- The bytes of a byte order mark. -/
def mark : List UInt8 := [0xEF, 0xBB, 0xBF]

/-- Bytes without a byte order mark at their start. -/
def withoutMark (bytes : List UInt8) : List UInt8 :=
  if mark.isPrefixOf bytes then bytes.drop mark.length else bytes

/-- Decodes bytes without a byte order mark at their start. -/
def decodeMarked (bytes : List UInt8) : Except Fault Text := decode (withoutMark bytes)

/-- Decodes the bytes of a stream without a byte order mark at their start. A stream that ends inside
the mark is empty. -/
def decodeMarkedStream (bytes : List UInt8) : Except Fault Text :=
  if bytes.isPrefixOf mark then .ok [] else decodeMarked bytes

/-- The bytes of a text. -/
def encode (text : Text) : List UInt8 := text.flatMap String.utf8EncodeChar

end FormFill.Utf8

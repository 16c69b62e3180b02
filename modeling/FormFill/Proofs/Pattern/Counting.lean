import FormFill.Pattern.Reader
import Mathlib.Data.List.Basic

/-!
# Numbers that are too large

A letter or a digit that is repeated as often as the bound for repetitions says, or more often, makes a text
that cannot be read as a pattern, and that is not malformed. The text is read step by step: each step is
given by what it comes to on plain tokens.
-/

namespace FormFill.Pattern

/-- A text without backslashes has plain tokens. -/
theorem scan_of_plain {text : Text} (h : '\\' ∉ text) : Token.scan text = text.map .plain := by
  induction text with
  | nil => rfl
  | cons c rest ih =>
      obtain ⟨hc, hrest⟩ := not_or.mp (List.mem_cons.not.mp h)
      rw [Token.scan.eq_4 c rest (fun heq _ => hc heq.symm) (fun _ _ heq _ => hc heq.symm), ih hrest,
        List.map_cons]

/-- A step after one that has succeeded. -/
theorem ok_bind {α β : Type} (a : α) (f : α → Except Fault β) : (Except.ok a >>= f) = f a := rfl

section

variable {state : ReaderState} {c d : Char} {rest : List Token}

theorem run_peek?_plain (h : state.rest = .plain c :: rest) :
    peek?.run state = .ok (some (.plain c), state) := by
  simp only [peek?, StateT.run_bind, StateT.run_get, pure_bind, h]
  rfl

theorem run_take?_plain (h : state.rest = .plain c :: rest) :
    take?.run state = .ok (some (.plain c), { state with rest }) := by
  simp only [take?, StateT.run_bind, run_peek?_plain h, ok_bind, StateT.run_modify, pure_bind, h,
    List.tail_cons]
  rfl

theorem run_accept_plain (h : state.rest = .plain c :: rest) :
    (accept d).run state = if c = d then .ok (true, { state with rest }) else .ok (false, state) := by
  simp only [accept, StateT.run_bind, run_peek?_plain h, ok_bind]
  by_cases hcd : c = d
  · subst hcd
    simp only [beq_self_eq_true, if_true, StateT.run_bind, run_take?_plain h, ok_bind]
    rfl
  · have hne : (some (Token.plain c) == some (.plain d)) = false := by simpa using hcd
    simp only [hne, if_neg hcd]
    rfl

theorem run_takeWhile_plain {p : Char → Bool} {taken : Text} {limit : Nat}
    (h : ∀ c ∈ taken, p c = true) (hd : p d = false) (hlimit : taken.length < limit)
    (hstate : state.rest = taken.map .plain ++ .plain d :: rest) :
    (takeWhile p limit).run state = .ok (taken, { state with rest := .plain d :: rest }) := by
  induction taken generalizing limit state with
  | nil =>
      obtain ⟨limit, rfl⟩ := Nat.exists_eq_succ_of_ne_zero (Nat.ne_of_gt hlimit)
      rw [List.map_nil, List.nil_append] at hstate
      simp only [takeWhile, StateT.run_bind, run_peek?_plain hstate, ok_bind, hd, ← hstate]
      rfl
  | cons c taken ih =>
      obtain ⟨limit, rfl⟩ := Nat.exists_eq_succ_of_ne_zero (Nat.ne_of_gt (Nat.zero_lt_of_lt hlimit))
      obtain ⟨hc, htaken⟩ := List.forall_mem_cons.mp h
      have hrest := @ih { state with rest := taken.map .plain ++ .plain d :: rest } limit htaken
        (Nat.lt_of_succ_lt_succ hlimit) rfl
      rw [List.map_cons, List.cons_append] at hstate
      simp only [takeWhile, StateT.run_bind, run_peek?_plain hstate, ok_bind, hc, if_true,
        run_take?_plain hstate, hrest]
      rfl

/-- Bounds that give one number which is too large. -/
theorem run_bounds?_of_tooLarge {digits : Text} (hdigits : ∀ c ∈ digits, c.isDigit = true)
    (hlength : digits.length ≤ Text.digitLimit) (hbound : repetitionBound ≤ ofBase 10 digits)
    (hstate : state.rest = digits.map .plain ++ [.plain '\x7d']) :
    bounds?.run state = .error .repetitionTooLarge := by
  cases digits with
  | nil => exact absurd hbound (by decide)
  | cons low later =>
      have hlow := hdigits low List.mem_cons_self
      have hne : (some (Token.plain low) == some (.plain '\x7d')) = false := by
        have : low ≠ '\x7d' := by
          rintro rfl
          exact absurd hlow (by decide)
        simpa using this
      have hpeek := hstate
      rw [List.map_cons, List.cons_append] at hpeek
      have hlimit : (low :: later).length < state.rest.length := by simp [hstate]
      have htake := run_takeWhile_plain hdigits (by decide) hlimit hstate
      -- There is no comma, so the number counts as both bounds.
      have hcomma := @run_accept_plain { state with rest := [.plain '\x7d'] } '\x7d' ',' [] rfl
      have hbrace := @run_accept_plain { state with rest := [.plain '\x7d'] } '\x7d' '\x7d' [] rfl
      rw [if_neg (by decide)] at hcomma
      rw [if_pos rfl] at hbrace
      have hnumber : repetitionNumber (low :: later) = throw .repetitionTooLarge := by
        unfold repetitionNumber
        rw [if_neg (Nat.not_lt.mpr hlength)]
        dsimp only
        rw [if_pos hbound]
        rfl
      simp only [bounds?, StateT.run_bind, StateT.run_get, pure_bind, run_peek?_plain hpeek, ok_bind,
        hne, htake, hcomma, hbrace, Bool.false_eq_true, if_false, if_true, List.isEmpty_cons, hnumber]
      rfl

/-- A letter or a digit is a piece of a sequence. -/
theorem run_sequence_alphanum {place : Place} (fuel : Nat) (pieces : List Piece)
    (hverbose : place.options.verbose = false) (hc : c.isAlphanum = true)
    (hstate : state.rest = .plain c :: rest) :
    (sequence (fuel + 1) place pieces).run state =
      (sequence fuel place (.simple (literal place.options c.toNat) :: pieces)).run
        { state with rest } := by
  have hne : ∀ d : Char, d.isAlphanum = false → c ≠ d := by
    rintro d hd rfl
    exact Bool.noConfusion (hc.symm.trans hd)
  have hgoes : ((some (Token.plain c)).isNone || some (Token.plain c) == some (.plain '|') ||
      some (Token.plain c) == some (.plain ')')) = false := by
    simp [hne '|' (by decide), hne ')' (by decide)]
  simp only [sequence, StateT.run_bind, run_peek?_plain hstate, ok_bind, hgoes, Bool.false_eq_true,
    if_false, run_take?_plain hstate, hverbose, Bool.false_and]
  split
  case h_10 => rfl
  all_goals exact absurd rfl (hne _ (by decide))

/-- A fault of the bounds is a fault of the sequence. -/
theorem run_sequence_brace {place : Place} {fault : Fault} (fuel : Nat) (pieces : List Piece)
    (hverbose : place.options.verbose = false) (hstate : state.rest = .plain '\x7b' :: rest)
    (hbounds : bounds?.run { state with rest } = .error fault) :
    (sequence (fuel + 1) place pieces).run state = .error fault := by
  have hgoes : ((some (Token.plain '\x7b')).isNone || some (Token.plain '\x7b') == some (.plain '|') ||
      some (Token.plain '\x7b') == some (.plain ')')) = false := by
    decide
  simp only [sequence, StateT.run_bind, run_peek?_plain hstate, ok_bind, hgoes, Bool.false_eq_true,
    if_false, run_take?_plain hstate, hverbose, Bool.false_and, hbounds]
  rfl

end

/-- A letter or a digit before a number of repetitions that is too large. -/
theorem read_eq_tooLarge {c : Char} {digits : Text} (hc : c.isAlphanum = true)
    (hdigits : ∀ d ∈ digits, d.isDigit = true) (hlength : digits.length ≤ Text.digitLimit)
    (hbound : repetitionBound ≤ ofBase 10 digits) :
    Node.read (c :: '\x7b' :: (digits ++ ['\x7d'])) = .error .repetitionTooLarge := by
  have hplain : '\\' ∉ c :: '\x7b' :: (digits ++ ['\x7d']) := by
    simp only [List.mem_cons, List.mem_append, List.not_mem_nil, or_false, not_or]
    refine ⟨?_, by decide, ?_, by decide⟩
    · rintro rfl
      exact absurd hc (by decide)
    · exact fun hmem => absurd (hdigits _ hmem) (by decide)
  have hbounds := @run_bounds?_of_tooLarge { rest := (digits ++ ['\x7d']).map .plain } digits
    hdigits hlength hbound (by rw [List.map_append]; rfl)
  have hsequence : ∀ fuel, (sequence (fuel + 2) ⟨{}, true, true⟩ []).run
      { rest := (c :: '\x7b' :: (digits ++ ['\x7d'])).map .plain } = .error .repetitionTooLarge := by
    intro fuel
    rw [run_sequence_alphanum (fuel + 1) [] rfl hc (List.map_cons ..)]
    exact run_sequence_brace fuel _ rfl (List.map_cons ..) hbounds
  have hbranches : ∀ fuel, (branches (fuel + 3) ⟨{}, true, true⟩).run
      { rest := (c :: '\x7b' :: (digits ++ ['\x7d'])).map .plain } = .error .repetitionTooLarge := by
    intro fuel
    rw [branches, StateT.run_bind, hsequence]
    rfl
  unfold Node.read
  rw [scan_of_plain hplain]
  dsimp only
  rw [hbranches]
  rfl

end FormFill.Pattern

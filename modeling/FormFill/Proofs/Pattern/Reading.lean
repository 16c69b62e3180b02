import FormFill.Pattern.Reader
import Mathlib

/-!
# Faults of reading

A text that is no pattern is malformed, with four exceptions: it holds a number that is too large, or one
with too many digits, or an escape whose number is too large, or it names two options that contradict each
other. Each step of reading keeps to the text: what is left is an end of it, and an option that is in force
was named in it. Each function of the reader has one specification that says so, which its callers use in
place of its body. From that the exceptions follow for whole patterns, by induction on the depth to which they
are read.
-/

open Std.Do

namespace FormFill.Pattern

set_option mvcgen.warning false

/-- Digits that stand next to each other in a pattern. -/
structure Numeral (tokens : List Token) (digits : Text) : Prop where
  isDigit : ∀ c ∈ digits, c.isDigit = true
  within : digits.map .plain <:+: tokens

/-- A fault of reading that does not come from a breach of the rules, and where it comes from. -/
inductive Unforgiven (tokens : List Token) : Fault → Prop where
  | tooLarge {digits : Text} (hdigits : Numeral tokens digits)
    (hbound : repetitionBound ≤ ofBase 10 digits) : Unforgiven tokens .repetitionTooLarge
  | tooMany {digits : Text} (hdigits : Numeral tokens digits)
    (hlimit : Text.digitLimit < digits.length) : Unforgiven tokens (.tooManyDigits digits.length)
  | escape {digits : Text} (hwithin : .escaped 'U' :: digits.map .plain <:+: tokens)
    (hdigits : ∀ c ∈ digits, isHexDigit c = true) (hlength : digits.length = 8)
    (hbound : escapeBound ≤ ofBase 16 digits) : Unforgiven tokens .escapeTooLarge
  | contradictory (hascii : .plain 'a' ∈ tokens) (hunicode : .plain 'u' ∈ tokens) :
    Unforgiven tokens .contradictoryOptions

/-- A fault of reading comes from a breach of the rules or from one of the exceptions. -/
def Explained (tokens : List Token) (fault : Fault) : Prop :=
  (∃ breach, fault = .malformed breach) ∨ Unforgiven tokens fault

/-- Of the options that contradict each other only those are in force that are named. -/
structure Lettered (tokens : List Token) (options : Options) : Prop where
  ascii : options.ascii = true → .plain 'a' ∈ tokens
  unicode : options.unicode = true → .plain 'u' ∈ tokens

/-- The reader keeps to the tokens. -/
structure Within (tokens : List Token) (state : ReaderState) : Prop where
  rest : state.rest <:+ tokens
  options : Lettered tokens state.options

/-- The reader keeps to the tokens and has just taken one of them. -/
structure Past (tokens : List Token) (token : Token) (state : ReaderState) : Prop
    extends Within tokens state where
  taken : token :: state.rest <:+ tokens

/-- A step of reading that keeps to the tokens, and whose faults they explain. -/
abbrev Keeps {α : Type} (tokens : List Token) (reading : Reading α) : Prop :=
  ⦃fun state => ⌜Within tokens state⌝⦄ reading
    ⦃post⟨fun _ state => ⌜Within tokens state⌝, fun fault => ⌜Explained tokens fault⌝⟩⦄

variable {tokens : List Token}

theorem Within.advance {state : ReaderState} (h : Within tokens state) {rest : List Token}
    (hrest : rest <:+ state.rest) : Within tokens { state with rest } :=
  ⟨hrest.trans h.rest, h.options⟩

/-! ## Tokens -/

@[spec]
theorem breach_spec {α : Type} {before : Assertion (.arg ReaderState (.except Fault .pure))}
    {after : α → Assertion (.arg ReaderState (.except Fault .pure))} (reason : Breach) :
    ⦃before⦄ (breach reason : Reading α) ⦃post⟨after, fun fault => ⌜Explained tokens fault⌝⟩⦄ :=
  fun _ _ => Or.inl ⟨reason, rfl⟩

/-- Looking at the next token changes nothing. -/
theorem peek?_spec (before : ReaderState) :
    ⦃fun state => ⌜state = before⌝⦄ peek?
    ⦃post⟨fun token? state => ⌜state = before ∧ token? = before.rest.head?⌝,
      fun fault => ⌜Explained tokens fault⌝⟩⦄ := by
  mvcgen [peek?] <;> simp_all

/-- Taking the next token leaves those after it. -/
theorem take?_spec (before : ReaderState) :
    ⦃fun state => ⌜state = before⌝⦄ take?
    ⦃post⟨fun token? state => ⌜state = { before with rest := before.rest.tail } ∧
        token? = before.rest.head?⌝,
      fun fault => ⌜Explained tokens fault⌝⟩⦄ := by
  mvcgen [take?, peek?_spec]
  next hstart token? state hpeek after =>
    obtain ⟨rfl, rfl⟩ := hpeek
    subst hstart
    exact ⟨rfl, rfl⟩

/-- The characters that are taken are the next tokens. -/
theorem takeWhile_spec (p : Char → Bool) (limit : Nat) (before : ReaderState) :
    ⦃fun state => ⌜state = before⌝⦄ takeWhile p limit
    ⦃post⟨fun taken state => ⌜before.rest = taken.map .plain ++ state.rest ∧
        state.options = before.options ∧ (∀ c ∈ taken, p c = true) ∧ taken.length ≤ limit⌝,
      fun fault => ⌜Explained tokens fault⌝⟩⦄ := by
  induction limit generalizing before with
  | zero =>
      mvcgen [takeWhile]
      next state hstart =>
        subst hstart
        exact ⟨rfl, rfl, by simp, Nat.le_refl 0⟩
  | succ limit ih =>
      mvcgen [takeWhile, peek?_spec, take?_spec, ih]
      -- The next token is a character that is taken, and the others follow it.
      next hstart _ c _ hc _ hpeek _ _ htake taken state hrest =>
        obtain ⟨rfl, hhead⟩ := hpeek
        obtain ⟨rfl, -⟩ := htake
        obtain ⟨hrest, hoptions, htaken, hlength⟩ := hrest
        obtain ⟨rest, hbefore⟩ := List.head?_eq_some_iff.mp hhead.symm
        subst hstart
        refine ⟨?_, hoptions, by simpa [hc] using htaken, Nat.succ_le_succ hlength⟩
        simpa [hbefore] using hrest
      all_goals simp_all

@[spec]
theorem keeps_peek? : Keeps tokens peek? := by
  mvcgen [peek?]

/-- A token that is taken stands right before what is left. -/
theorem take?_past :
    ⦃fun state => ⌜Within tokens state⌝⦄ take?
    ⦃post⟨fun token? state => ⌜Within tokens state ∧ ∀ token ∈ token?, Past tokens token state⌝,
      fun fault => ⌜Explained tokens fault⌝⟩⦄ := by
  mvcgen [take?, peek?_spec, -keeps_peek?]
  next before hbefore token? state hpeek after =>
    obtain ⟨rfl, rfl⟩ := hpeek
    have hafter : Within tokens after.2 := hbefore.advance (List.tail_suffix _)
    refine ⟨hafter, fun token hmem => ⟨hafter, ?_⟩⟩
    obtain ⟨rest, hrest⟩ := List.head?_eq_some_iff.mp hmem
    have hsuffix := hbefore.rest
    rw [hrest] at hsuffix
    simpa [after, hrest] using hsuffix

theorem Past.mem {token : Token} {state : ReaderState} (h : Past tokens token state) :
    token ∈ tokens := h.taken.subset List.mem_cons_self

/-- A token that is taken is one of the tokens. -/
theorem take?_mem :
    ⦃fun state => ⌜Within tokens state⌝⦄ take?
    ⦃post⟨fun token? state => ⌜Within tokens state ∧ ∀ token ∈ token?, token ∈ tokens⌝,
      fun fault => ⌜Explained tokens fault⌝⟩⦄ := by
  mvcgen [take?_past]
  next token? state =>
    intro hstate hpast
    exact ⟨hstate, fun token hmem => (hpast token hmem).mem⟩

@[spec]
theorem keeps_take? : Keeps tokens take? := by
  mvcgen [take?]
  next state hstate after => exact hstate.advance (List.tail_suffix _)

@[spec]
theorem keeps_accept (c : Char) : Keeps tokens (accept c) := by
  mvcgen [accept]

/-- Digits that are taken stand next to each other. -/
theorem takeDigits_spec (limit : Nat) :
    ⦃fun state => ⌜Within tokens state⌝⦄ takeWhile Char.isDigit limit
    ⦃post⟨fun digits state => ⌜Within tokens state ∧ Numeral tokens digits⌝,
      fun fault => ⌜Explained tokens fault⌝⟩⦄ := by
  mvcgen [takeWhile_spec]
  next before hbefore digits after =>
    intro hrest hoptions hdigits _
    have hsuffix : after.rest <:+ before.rest := ⟨_, hrest.symm⟩
    refine ⟨⟨hsuffix.trans hbefore.rest, hoptions ▸ hbefore.options⟩, hdigits, ?_⟩
    obtain ⟨read, hread⟩ := hbefore.rest
    exact ⟨read, after.rest, by rw [List.append_assoc, ← hrest, hread]⟩

@[spec]
theorem keeps_takeWhile (p : Char → Bool) (limit : Nat) : Keeps tokens (takeWhile p limit) := by
  induction limit with
  | zero => mvcgen [takeWhile]
  | succ limit ih => mvcgen [takeWhile, ih]

@[spec]
theorem keeps_takeName (terminator : Char) : Keeps tokens (takeName terminator) := by
  mvcgen [takeName]
  next state hstate taken name first rest hrest _ hname after =>
    have hsuffix : rest <:+ state.rest :=
      (List.suffix_cons first rest).trans (hrest ▸ List.drop_suffix _ _)
    exact hstate.advance hsuffix

/-! ## Escapes and sets -/

theorem hexValue_lt {c : Char} (h : isHexDigit c = true) : hexValue c < 16 := by
  have hdigit : c.isDigit = true ↔ 48 ≤ c.toNat ∧ c.toNat ≤ 57 := by
    simp [Char.isDigit, UInt32.le_iff_toNat_le]
  have hletter : ∀ first last : Char, (decide (first ≤ c) && decide (c ≤ last)) = true ↔
      first.toNat ≤ c.toNat ∧ c.toNat ≤ last.toNat := by
    intro first last
    simp [Char.le_def, UInt32.le_iff_toNat_le]
  have ha : 'a'.toNat = 97 ∧ 'f'.toNat = 102 ∧ 'A'.toNat = 65 ∧ 'F'.toNat = 70 := by decide
  rw [isHexDigit, Bool.or_eq_true, Bool.or_eq_true, hdigit, hletter, hletter] at h
  simp only [hexValue, Text.lowerAscii, hdigit, Bool.and_eq_true, decide_eq_true_eq]
  split_ifs <;> omega

/-- Digits denote a number that has no more of them. -/
theorem ofBase_lt {digits : Text} (h : ∀ c ∈ digits, isHexDigit c = true) :
    ofBase 16 digits < 16 ^ digits.length := by
  induction digits using List.reverseRecOn with
  | nil => exact Nat.one_pos
  | append_singleton digits last ih =>
      rw [List.forall_mem_append] at h
      have hfirst := ih h.1
      have hlast := hexValue_lt (h.2 last List.mem_cons_self)
      rw [ofBase] at hfirst
      rw [ofBase, List.foldl_append, List.length_append, List.length_singleton, pow_succ]
      simp only [List.foldl_cons, List.foldl_nil]
      omega

theorem keeps_codePoint {digits : Text}
    (h : escapeBound ≤ ofBase 16 digits → Unforgiven tokens .escapeTooLarge) :
    Keeps tokens (codePoint digits) := by
  unfold codePoint
  dsimp only
  split
  next hbound => exact fun _ _ => Or.inr (h hbound)
  next => mvcgen

/-- The number of a hexadecimal escape is too large only behind the letter that asks for eight digits. -/
theorem hexEscape_spec {c : Char} {length : Nat} (h : c = 'U' ∧ length = 8 ∨ length ≤ 4) :
    ⦃fun state => ⌜Past tokens (.escaped c) state⌝⦄ hexEscape length
    ⦃post⟨fun _ state => ⌜Within tokens state⌝, fun fault => ⌜Explained tokens fault⌝⟩⦄ := by
  mvcgen [hexEscape, takeWhile_spec, -keeps_takeWhile]
  next before hbefore digits _ hlength =>
    intro after hrest hoptions hdigits hle
    have hsuffix : after.rest <:+ before.rest := ⟨_, hrest.symm⟩
    have hafter : Within tokens after := ⟨hsuffix.trans hbefore.rest, hoptions ▸ hbefore.options⟩
    refine keeps_codePoint (fun hbound => ?_) after hafter
    rcases h with ⟨rfl, rfl⟩ | hshort
    · obtain ⟨read, hread⟩ := hbefore.taken
      refine .escape ⟨read, after.rest, ?_⟩ hdigits (by omega) hbound
      rw [← hread, hrest, List.append_assoc, List.cons_append]
    · have hlt := ofBase_lt hdigits
      have hpow : 16 ^ digits.length ≤ 16 ^ 4 := Nat.pow_le_pow_right (by decide) (by omega)
      have hsmall : 16 ^ 4 < escapeBound := by decide
      omega

@[spec]
theorem keeps_namedCharacter : Keeps tokens namedCharacter := by
  mvcgen [namedCharacter]

@[spec]
theorem pointEscape_spec (c : Char) :
    ⦃fun state => ⌜Past tokens (.escaped c) state⌝⦄ pointEscape c
    ⦃post⟨fun _ state => ⌜Within tokens state⌝, fun fault => ⌜Explained tokens fault⌝⟩⦄ := by
  mvcgen [pointEscape, hexEscape_spec]
  case vc4 | vc7 | vc10 => simp
  all_goals exact Past.toWithin ‹_›

@[spec]
theorem setEscape_spec (c : Char) :
    ⦃fun state => ⌜Past tokens (.escaped c) state⌝⦄ setEscape c
    ⦃post⟨fun _ state => ⌜Within tokens state⌝, fun fault => ⌜Explained tokens fault⌝⟩⦄ := by
  mvcgen [setEscape]
  all_goals exact Past.toWithin ‹_›

/-- A member of a set begins with the token that has just been taken. -/
@[spec]
theorem member_spec (token : Token) :
    ⦃fun state => ⌜Past tokens token state⌝⦄ setItems.member token
    ⦃post⟨fun _ state => ⌜Within tokens state⌝, fun fault => ⌜Explained tokens fault⌝⟩⦄ := by
  mvcgen [setItems.member]
  exact Past.toWithin ‹_›

@[spec]
theorem keeps_setItems (fuel : Nat) (items : List SetItem) : Keeps tokens (setItems fuel items) := by
  induction fuel generalizing items with
  | zero => mvcgen [setItems]
  | succ fuel ih =>
      mvcgen [setItems, take?_past, ih, -keeps_take?]
      all_goals simp_all

@[spec]
theorem keeps_checkLookBehind (number : Nat) : Keeps tokens (checkLookBehind number) := by
  mvcgen [checkLookBehind]

@[spec]
theorem keeps_referenceTo (number : Nat) (options : Options) :
    Keeps tokens (referenceTo number options) := by
  mvcgen [referenceTo]

@[spec]
theorem keeps_numberEscape (options : Options) (c : Char) :
    Keeps tokens (numberEscape options c) := by
  mvcgen [numberEscape]

@[spec]
theorem escape_spec (options : Options) (c : Char) :
    ⦃fun state => ⌜Past tokens (.escaped c) state⌝⦄ escape options c
    ⦃post⟨fun _ state => ⌜Within tokens state⌝, fun fault => ⌜Explained tokens fault⌝⟩⦄ := by
  mvcgen [escape]
  all_goals exact Past.toWithin ‹_›

@[spec]
theorem keeps_characterSet (options : Options) : Keeps tokens (characterSet options) := by
  mvcgen [characterSet]

/-! ## Repetition -/

/-- A number of a repetition is refused only for its value or its length. -/
@[spec]
theorem keeps_repetitionNumber {digits : Text} (h : Numeral tokens digits) :
    Keeps tokens (repetitionNumber digits) := by
  unfold repetitionNumber
  split
  next hlimit => exact fun _ _ => Or.inr (.tooMany h hlimit)
  next =>
    dsimp only
    split
    next hbound => exact fun _ _ => Or.inr (.tooLarge h hbound)
    next => mvcgen

@[spec]
theorem keeps_bounds? : Keeps tokens bounds? := by
  -- The numbers are numerals of the text, and so the text explains why they are refused.
  mvcgen [bounds?, takeDigits_spec, -keeps_takeWhile] <;> simp_all only

@[spec]
theorem keeps_repetitionPreference : Keeps tokens repetitionPreference := by
  mvcgen [repetitionPreference]

@[spec]
theorem keeps_repeatLast (least : Nat) (most : Option Nat) (pieces : List Piece) :
    Keeps tokens (repeatLast least most pieces) := by
  mvcgen [repeatLast]
  next state hstate after => exact ⟨hstate.rest, hstate.options⟩

/-! ## Groups -/

/-- An option that is turned on by a letter of the text is named in it. -/
theorem Lettered.turnOn? {options after : Options} {c : Char} (h : Lettered tokens options)
    (hmem : .plain c ∈ tokens) (hafter : options.turnOn? c = some after) :
    Lettered tokens after := by
  unfold Options.turnOn? at hafter
  split at hafter <;> cases hafter
  -- Only the letters of the two options in question matter.
  case h_5 => exact ⟨fun _ => hmem, h.unicode⟩
  case h_6 => exact ⟨h.ascii, fun _ => hmem⟩
  all_goals exact ⟨h.ascii, h.unicode⟩

theorem Lettered.union {a b : Options} (ha : Lettered tokens a) (hb : Lettered tokens b) :
    Lettered tokens (a.union b) where
  ascii h := (Bool.or_eq_true_iff.mp h).elim ha.ascii hb.ascii
  unicode h := (Bool.or_eq_true_iff.mp h).elim ha.unicode hb.unicode

theorem optionLetter_mem {token? : Option Token} (hmem : ∀ token ∈ token?, token ∈ tokens) :
    ⦃fun state => ⌜Within tokens state⌝⦄ optionLetter token?
    ⦃post⟨fun c state => ⌜Within tokens state ∧ .plain c ∈ tokens⌝,
      fun fault => ⌜Explained tokens fault⌝⟩⦄ := by
  mvcgen [optionLetter]
  simp_all

@[spec]
theorem keeps_optionLetter (token? : Option Token) : Keeps tokens (optionLetter token?) := by
  mvcgen [optionLetter]

/-- The options that are turned on are named. -/
theorem addedOptions_spec (fuel : Nat) {added : Options} {c : Char} (hadded : Lettered tokens added)
    (hmem : .plain c ∈ tokens) :
    ⦃fun state => ⌜Within tokens state⌝⦄ addedOptions fuel added c
    ⦃post⟨fun result state => ⌜Within tokens state ∧ Lettered tokens result.1⌝,
      fun fault => ⌜Explained tokens fault⌝⟩⦄ := by
  induction fuel generalizing added c with
  | zero => mvcgen [addedOptions]
  | succ fuel ih =>
      mvcgen [addedOptions, take?_mem, optionLetter_mem, ih, -keeps_take?, -keeps_optionLetter]
      all_goals grind [Lettered.turnOn?]

@[spec]
theorem keeps_removedOptions (fuel : Nat) (removed : Options) (c : Char) :
    Keeps tokens (removedOptions fuel removed c) := by
  induction fuel generalizing removed c with
  | zero => mvcgen [removedOptions]
  | succ fuel ih => mvcgen [removedOptions, ih]

/-- Options for the whole pattern are named. -/
theorem groupOptions_spec {c : Char} (hmem : .plain c ∈ tokens) :
    ⦃fun state => ⌜Within tokens state⌝⦄ groupOptions c
    ⦃post⟨fun choice state => ⌜Within tokens state ∧
        ∀ added, choice = .inl added → Lettered tokens added⌝,
      fun fault => ⌜Explained tokens fault⌝⟩⦄ := by
  have hnone : Lettered tokens {} := ⟨nofun, nofun⟩
  mvcgen [groupOptions, take?_mem, optionLetter_mem, addedOptions_spec, -keeps_take?,
    -keeps_optionLetter] <;> grind

@[spec]
theorem keeps_openGroup (name : Option Text) : Keeps tokens (openGroup name) := by
  mvcgen [openGroup]
  case vc1 hstate _ _ _ => exact ⟨hstate.rest, hstate.options⟩
  case vc2 hstate _ _ _ _ _ _ => exact ⟨hstate.rest, hstate.options⟩

@[spec]
theorem keeps_closeGroup (number : Nat) (body : Node) : Keeps tokens (closeGroup number body) := by
  mvcgen [closeGroup]
  next state hstate after => exact ⟨hstate.rest, hstate.options⟩

@[spec]
theorem keeps_conditionGroup (name : Text) : Keeps tokens (conditionGroup name) := by
  mvcgen [conditionGroup]
  next state hstate after => exact ⟨hstate.rest, hstate.options⟩

/-! ## Patterns -/

theorem afterLineComment_suffix (tokens : List Token) : afterLineComment tokens <:+ tokens := by
  fun_induction afterLineComment tokens with
  | case1 => simp
  | case2 => exact List.suffix_refl _
  | case3 _ _ _ _ ih => exact ih.trans (List.suffix_cons _ _)
  | case4 => exact List.suffix_refl _

@[spec]
theorem keeps_skipLineComment : Keeps tokens skipLineComment := by
  mvcgen [skipLineComment]
  next state hstate after => exact hstate.advance (afterLineComment_suffix _)

@[spec]
theorem keeps_fixedWidth (body : Node) : Keeps tokens (fixedWidth body) := by
  mvcgen [fixedWidth]
  next state hstate width found after => exact ⟨hstate.rest, hstate.options⟩

@[spec]
theorem keeps_closeParenthesis : Keeps tokens closeParenthesis := by
  mvcgen [closeParenthesis]

section

variable {fuel : Nat} (hbranches : ∀ place, Keeps tokens (branches fuel place))
  (hsequence : ∀ place pieces, Keeps tokens (sequence fuel place pieces))
  (hparenthesis : ∀ place leading, Keeps tokens (parenthesis fuel place leading))

include hbranches hsequence in
theorem keeps_branches_succ (place : Place) : Keeps tokens (branches (fuel + 1) place) := by
  unfold branches
  mvcgen [hbranches, hsequence]

include hsequence hparenthesis in
theorem keeps_sequence_succ (place : Place) (pieces : List Piece) :
    Keeps tokens (sequence (fuel + 1) place pieces) := by
  unfold sequence
  mvcgen [hsequence, hparenthesis, take?_past, -keeps_take?]
  all_goals simp_all

include hbranches hsequence in
theorem keeps_parenthesis_succ (place : Place) (leading : Bool) :
    Keeps tokens (parenthesis (fuel + 1) place leading) := by
  unfold parenthesis
  mvcgen [hsequence, hbranches, take?_mem, groupOptions_spec, -keeps_take?]
  -- A comment is skipped up to the parenthesis that closes it.
  case vc16 state hstate _ _ _ _ =>
    exact hstate.1.advance ((List.tail_suffix _).trans (List.dropWhile_suffix _))
  all_goals grind [Within, Lettered.union]

end

/-- However deep a pattern is read, the reader keeps to it. -/
theorem keeps_readers (tokens : List Token) (fuel : Nat) :
    (∀ place, Keeps tokens (branches fuel place)) ∧
    (∀ place pieces, Keeps tokens (sequence fuel place pieces)) ∧
    ∀ place leading, Keeps tokens (parenthesis fuel place leading) := by
  -- A group within a group is read with less fuel, and so is the rest of a sequence.
  induction fuel with
  | zero =>
      refine ⟨fun place => ?_, fun place pieces => ?_, fun place leading => ?_⟩
      · unfold branches
        mvcgen
      · unfold sequence
        mvcgen
      · unfold parenthesis
        mvcgen
  | succ fuel ih =>
      obtain ⟨hbranches, hsequence, hparenthesis⟩ := ih
      exact ⟨keeps_branches_succ hbranches hsequence, keeps_sequence_succ hsequence hparenthesis,
        keeps_parenthesis_succ hbranches hsequence⟩

/-- What comes of a step that keeps to the tokens. -/
theorem Keeps.run {α : Type} {reading : Reading α} (h : Keeps tokens reading) {state : ReaderState}
    (hstate : Within tokens state) :
    (∃ fault, reading.run state = .error fault ∧ Explained tokens fault) ∨
      ∃ result after, reading.run state = .ok (result, after) ∧ Within tokens after := by
  have hwp : (wp⟦reading.run state⟧ post⟨fun result => ⌜Within tokens result.2⌝,
      fun fault => ⌜Explained tokens fault⌝⟩).down := h state hstate
  cases hrun : reading.run state with
  | error fault =>
      rw [hrun] at hwp
      exact Or.inl ⟨fault, rfl, hwp⟩
  | ok result =>
      rw [hrun] at hwp
      exact Or.inr ⟨result.1, result.2, rfl, hwp⟩

/-- A text that is no pattern is malformed, or it holds a number or two options that are at fault. -/
theorem explained_of_read {text : Text} {fault : Fault} (h : Node.read text = .error fault) :
    Explained (Token.scan text) fault := by
  have hstart : Within (Token.scan text) { rest := Token.scan text } :=
    ⟨List.suffix_refl _, nofun, nofun⟩
  have hkeeps := (keeps_readers (Token.scan text) (3 * (Token.scan text).length + 3)).1
    ⟨{}, true, true⟩
  unfold Node.read at h
  dsimp only at h
  rcases hkeeps.run hstart with ⟨fault, hrun, hfault⟩ | ⟨parts, state, hrun, hstate⟩
  · rw [hrun] at h
    exact Except.error.inj h ▸ hfault
  · rw [hrun] at h
    simp only [bind, Except.bind, throw, throwThe, MonadExceptOf.throw] at h
    split at h
    next hboth =>
      obtain rfl := Except.error.inj h
      rw [Bool.and_eq_true] at hboth
      exact Or.inr (.contradictory (hstate.options.ascii hboth.1) (hstate.options.unicode hboth.2))
    next =>
      -- The other checks of the whole pattern find breaches.
      refine Or.inl ?_
      repeat' split at h
      all_goals cases h <;> exact ⟨_, rfl⟩

end FormFill.Pattern

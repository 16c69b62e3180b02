import FormFill.Yaml.Token.Reader
import Mathlib.Tactic

/-!
# Faults of tokens

A step of reading comes to a result or to a fault. While tokens are read, the fault is a breach of the
rules, with three exceptions: an escape whose number names no character or is beyond all limits, and a
version with too many digits. The tokens hold a fault at their end only, and only one of these.
-/

namespace FormFill.Yaml

/-! ## Steps of reading -/

section

variable {α β : Type} {faults : Fault → Prop} {results : α → Prop}

/-- A step of reading that comes to a result of one kind or to a fault of another. -/
def Ends (faults : Fault → Prop) (results : α → Prop) : Except Fault α → Prop
  | .ok result => results result
  | .error fault => faults fault

@[simp]
theorem ends_ok {result : α} : Ends faults results (.ok result) ↔ results result := Iff.rfl

@[simp]
theorem ends_pure {result : α} : Ends faults results (pure result) ↔ results result := Iff.rfl

@[simp]
theorem ends_error {fault : Fault} : Ends faults results (.error fault) ↔ faults fault := Iff.rfl

@[simp]
theorem ends_throw {fault : Fault} : Ends faults results (throw fault) ↔ faults fault := Iff.rfl

@[simp]
theorem ends_ite {test : Prop} [Decidable test] {step other : Except Fault α} :
    Ends faults results (if test then step else other) ↔
      (test → Ends faults results step) ∧ (¬test → Ends faults results other) := by
  split <;> simp_all

/-- A step ends well if what comes after each result of its first part does. -/
@[simp]
theorem ends_bind {step : Except Fault β} {next : β → Except Fault α} :
    Ends faults results (step >>= next) ↔
      Ends faults (fun result => Ends faults results (next result)) step := by
  cases step <;> rfl

@[simp]
theorem ends_map {step : Except Fault β} {next : β → α} :
    Ends faults results (next <$> step) ↔ Ends faults (fun result => results (next result)) step := by
  cases step <;> rfl

theorem Ends.imp {others : α → Prop} {step : Except Fault α} (h : Ends faults results step)
    (himp : ∀ result, results result → others result) : Ends faults others step := by
  cases step with
  | ok result => exact himp result h
  | error fault => exact h

theorem Ends.bind {others : β → Prop} {step : Except Fault α} {next : α → Except Fault β}
    (h : Ends faults results step) (hnext : ∀ result, results result → Ends faults others (next result)) :
    Ends faults others (step >>= next) :=
  ends_bind.mpr (h.imp hnext)

theorem Ends.ite {test : Prop} [Decidable test] {step other : Except Fault α}
    (hstep : Ends faults results step) (hother : Ends faults results other) :
    Ends faults results (if test then step else other) := by
  split_ifs
  · exact hstep
  · exact hother

theorem Ends.fault {step : Except Fault α} {fault : Fault} (h : Ends faults results step)
    (hfault : step = .error fault) : faults fault := by
  rw [hfault] at h
  exact h

end

/-! ## Properties and scalars -/

/-- The faults that tokens can hold. -/
inductive Fault.OfToken : Fault → Prop where
  | malformed : OfToken .malformed
  | noSuchCharacter : OfToken .noSuchCharacter
  | escapeTooLarge : OfToken .escapeTooLarge
  | tooManyDigits {count : Nat} (hlimit : Text.digitLimit < count) : OfToken (.tooManyDigits count)

attribute [simp] Fault.OfToken.malformed

/-- A step of reading that comes to no fault but those of tokens. -/
abbrev Lexes {α : Type} (step : Except Fault α) : Prop := Ends Fault.OfToken (fun _ => True) step

namespace Property

@[simp]
theorem lexes_escapedBytes (fuel : Nat) (done : List UInt8) (cursor : Cursor) :
    Lexes (escapedBytes fuel done cursor) := by
  induction fuel generalizing done cursor with
  | zero => simp [escapedBytes]
  | succ fuel ih =>
      unfold escapedBytes
      split
      · split
        · exact ih _ _
        · exact .malformed
      · trivial

@[simp]
theorem lexes_uriParts (fuel : Nat) (done : Option Text) (cursor : Cursor) :
    Lexes (uriParts fuel done cursor) := by
  induction fuel generalizing done cursor with
  | zero => simp [uriParts]
  | succ fuel ih =>
      unfold uriParts
      split
      · refine (lexes_escapedBytes _ _ _).bind fun result _ => ?_
        obtain ⟨bytes, after⟩ := result
        dsimp only
        cases Utf8.decode bytes with
        | ok text => exact ih _ _
        | error fault => exact .malformed
      · split
        · exact ih _ _
        · cases done with
          | some text => trivial
          | none => exact .malformed

@[simp]
theorem lexes_uri (cursor : Cursor) : Lexes (uri cursor) := lexes_uriParts _ _ _

@[simp]
theorem lexes_handle (cursor : Cursor) : Lexes (handle cursor) := by
  simp [handle]

@[simp]
theorem lexes_tag (cursor : Cursor) : Lexes (tag cursor) := by
  simp [tag]

@[simp]
theorem lexes_anchorName (cursor : Cursor) : Lexes (anchorName cursor) := by
  simp [anchorName]

@[simp]
theorem lexes_versionNumber (cursor : Cursor) : Lexes (versionNumber cursor) := by
  unfold versionNumber
  dsimp only
  split_ifs with hempty hlimit
  · exact .malformed
  · exact .tooManyDigits hlimit
  · trivial

@[simp]
theorem lexes_version (cursor : Cursor) : Lexes (version cursor) := by
  simp [version]

@[simp]
theorem lexes_handleDirective (cursor : Cursor) : Lexes (handleDirective cursor) := by
  simp [handleDirective]

@[simp]
theorem lexes_restOfLine (cursor : Cursor) : Lexes (Block.restOfLine cursor) := by
  simp [Block.restOfLine]

@[simp]
theorem lexes_directive (cursor : Cursor) : Lexes (directive cursor) := by
  simp [directive]

end Property

namespace Block

@[simp]
theorem lexes_increment (cursor : Cursor) : Lexes (increment cursor) := by
  simp [increment]

@[simp]
theorem lexes_indicators (cursor : Cursor) : Lexes (indicators cursor) := by
  unfold indicators
  cases chomping? cursor.head with
  | some chomping => simp
  | none =>
      simp only [ends_bind]
      refine (lexes_increment cursor).imp fun result _ => ?_
      obtain ⟨increment, after⟩ := result
      cases increment with
      | none => simp
      | some n => cases hchomping : chomping? after.head <;> simp [hchomping]

@[simp]
theorem lexes_read (folded : Bool) (parent : Int) (cursor : Cursor) :
    Lexes (read folded parent cursor) := by
  unfold read
  refine (lexes_indicators _).bind fun header _ => ?_
  refine (Property.lexes_restOfLine _).bind fun cursor _ => ?_
  cases header.1.increment <;> simp

end Block

namespace Quoted

@[simp]
theorem lexes_charOfNumber (number : Nat) : Lexes (charOfNumber number) := by
  simp [charOfNumber, Fault.OfToken.escapeTooLarge, Fault.OfToken.noSuchCharacter]

theorem lexes_takeBreaks (fuel : Nat) (done : Text) (cursor : Cursor) :
    Lexes (takeBreaks fuel done cursor) := by
  induction fuel generalizing done cursor with
  | zero => trivial
  | succ fuel ih =>
      unfold takeBreaks
      split_ifs
      · exact .malformed
      · dsimp only
        split_ifs
        · exact ih _ _
        · trivial

@[simp]
theorem lexes_breaks (cursor : Cursor) : Lexes (breaks cursor) := lexes_takeBreaks _ _ _

@[simp]
theorem lexes_escape (cursor : Cursor) : Lexes (escape cursor) := by
  unfold escape
  split
  · trivial
  · dsimp only
    split <;> simp
  · simp

@[simp]
theorem lexes_solid (double : Bool) (fuel : Nat) (done : Text) (cursor : Cursor) :
    Lexes (solid double fuel done cursor) := by
  induction fuel generalizing done cursor with
  | zero => trivial
  | succ fuel ih =>
      unfold solid
      dsimp only
      split
      · split_ifs
        · exact ih _ _
        · trivial
      · exact ih _ _
      · exact ih _ _
      · exact ih _ _
      · exact (lexes_escape _).bind fun _ _ => ih _ _
      · trivial

@[simp]
theorem lexes_gap (cursor : Cursor) : Lexes (gap cursor) := by
  simp [gap]

theorem lexes_parts (double : Bool) (fuel : Nat) (done : Text) (cursor : Cursor) :
    Lexes (parts double fuel done cursor) := by
  induction fuel generalizing done cursor with
  | zero => exact .malformed
  | succ fuel ih =>
      rw [parts]
      by_cases hclose : (cursor.head == if double then '"' else '\'') = true
      · rw [if_pos hclose]
        trivial
      · rw [if_neg hclose]
        exact (lexes_gap _).bind fun _ _ => (lexes_solid _ _ _ _).bind fun _ _ => ih _ _

@[simp]
theorem lexes_read (double : Bool) (cursor : Cursor) : Lexes (read double cursor) :=
  (lexes_solid _ _ _ _).bind fun _ _ => lexes_parts _ _ _ _

end Quoted

/-! ## Tokens -/

/-- Whether a token is a fault. -/
def Token.isFault : Token → Bool
  | .fault _ => true
  | _ => false

namespace TokenState

variable {state : TokenState}

/-- None of the tokens read so far is a fault. -/
def IsSound (state : TokenState) : Prop := ∀ slot ∈ state.slots.toList, slot.token.isFault = false

/-- A step that keeps tokens sound or comes to a fault of tokens. -/
abbrev Keeps (step : Except Fault TokenState) : Prop := Ends Fault.OfToken IsSound step

theorem IsSound.of_slots {after : TokenState} (h : state.IsSound) (hslots : after.slots = state.slots) :
    after.IsSound := by
  rw [IsSound, hslots]
  exact h

theorem IsSound.push (h : state.IsSound) {token : Token} (htoken : token.isFault = false) :
    (state.push token).IsSound := by
  intro slot hmem
  simp only [TokenState.push, Array.toList_push, List.mem_append, List.mem_singleton] at hmem
  rcases hmem with hold | rfl
  · exact h slot hold
  · exact htoken

theorem IsSound.indicator (h : state.IsSound) {token : Token} (htoken : token.isFault = false) :
    (state.indicator token).IsSound := (h.push htoken).of_slots rfl

theorem slots_skipBlanks (fuel : Nat) (state : TokenState) :
    (skipBlanks fuel state).slots = state.slots := by
  induction fuel generalizing state with
  | zero => rfl
  | succ fuel ih =>
      unfold skipBlanks
      dsimp only
      split_ifs
      · exact ih _
      · rfl

theorem slots_toNextToken (state : TokenState) : state.toNextToken.slots = state.slots := by
  unfold toNextToken
  dsimp only
  rw [slots_skipBlanks]
  split_ifs <;> rfl

theorem keeps_dropStale (h : state.IsSound) : Keeps state.dropStale := by
  unfold dropStale
  dsimp only
  split_ifs
  · exact .malformed
  · exact h

theorem keeps_dropCandidate (h : state.IsSound) : Keeps state.dropCandidate := by
  unfold dropCandidate
  split
  · split_ifs
    · exact .malformed
    · exact h
  · exact h

theorem keeps_saveCandidate (h : state.IsSound) : Keeps state.saveCandidate := by
  unfold saveCandidate
  split_ifs
  · exact (keeps_dropCandidate h).bind fun _ hafter => hafter
  · exact h

theorem IsSound.unwindFrom (h : state.IsSound) (column : Int) (indents : List Int) :
    (unwindFrom column indents state).IsSound := by
  induction indents generalizing state with
  | nil => exact h
  | cons outer indents ih =>
      unfold TokenState.unwindFrom
      split_ifs
      · have houter : ({ state with indent := outer } : TokenState).IsSound := h
        exact ih (houter.push rfl)
      · exact h

theorem IsSound.unwind (h : state.IsSound) (column : Int) : (state.unwind column).IsSound := by
  unfold TokenState.unwind
  split_ifs
  · exact h
  · exact h.unwindFrom _ _

theorem IsSound.openBlock (h : state.IsSound) {token : Token} (htoken : token.isFault = false) :
    (state.openBlock token).IsSound := by
  unfold TokenState.openBlock indentTo?
  split_ifs
  · have hindented : ({ state with
        indent := state.cursor.column, indents := state.indent :: state.indents } : TokenState).IsSound := h
    exact hindented.push htoken
  · exact h

theorem keeps_leaveBlocks (h : state.IsSound) : Keeps state.leaveBlocks :=
  (keeps_dropCandidate (h.unwind _)).bind fun _ hafter => hafter

theorem keeps_streamEnd (h : state.IsSound) : Keeps state.streamEnd :=
  (keeps_leaveBlocks h).bind fun _ hafter => hafter.push rfl

theorem keeps_directive (h : state.IsSound) : Keeps state.directive :=
  (keeps_leaveBlocks h).bind fun _ hafter => (Property.lexes_directive _).bind fun _ _ =>
    (hafter.push rfl).of_slots rfl

theorem keeps_separator (h : state.IsSound) {token : Token} (htoken : token.isFault = false) :
    Keeps (state.separator token) :=
  (keeps_leaveBlocks h).bind fun _ hafter => (hafter.push htoken).of_slots rfl

theorem keeps_flowStart (h : state.IsSound) {token : Token} (htoken : token.isFault = false) :
    Keeps (state.flowStart token) :=
  (keeps_saveCandidate h).bind fun state hstate =>
    have hinside : ({ state with flowLevel := state.flowLevel + 1, keyAllowed := true } :
      TokenState).IsSound := hstate
    hinside.indicator htoken

theorem keeps_flowEnd (h : state.IsSound) {token : Token} (htoken : token.isFault = false) :
    Keeps (state.flowEnd token) :=
  (keeps_dropCandidate h).bind fun state hstate =>
    have houtside : ({ state with flowLevel := state.flowLevel - 1, keyAllowed := false } :
      TokenState).IsSound := hstate
    houtside.indicator htoken

theorem keeps_flowEntry (h : state.IsSound) : Keeps state.flowEntry :=
  have hallowed : ({ state with keyAllowed := true } : TokenState).IsSound := h
  (keeps_dropCandidate hallowed).bind fun _ hafter => hafter.indicator rfl

/-- An indicator of a block collection, which opens the collection if it is the first one. -/
theorem keeps_opening (h : state.IsSound) {opening token : Token} (hopening : opening.isFault = false)
    (htoken : token.isFault = false) (allowed : TokenState → Bool) : Keeps (do
      if !state.inFlow && !state.keyAllowed then throw .malformed
      let state := if state.inFlow then state else state.openBlock opening
      let state ← { state with keyAllowed := allowed state }.dropCandidate
      pure (state.indicator token)) := by
  have hopened : (if state.inFlow then state else state.openBlock opening).IsSound := by
    split_ifs
    · exact h
    · exact h.openBlock hopening
  dsimp only
  by_cases hmisplaced : (!state.inFlow && !state.keyAllowed) = true
  · rw [if_pos hmisplaced]
    exact .malformed
  · rw [if_neg hmisplaced]
    refine (keeps_dropCandidate (hopened.of_slots ?_)).bind fun _ hafter => hafter.indicator htoken
    rfl

theorem keeps_blockEntry (h : state.IsSound) : Keeps state.blockEntry :=
  keeps_opening h rfl rfl fun _ => true

theorem keeps_key (h : state.IsSound) : Keeps state.key :=
  keeps_opening h rfl rfl fun state => !state.inFlow

theorem IsSound.declareKey (h : state.IsSound) (index : Nat) (opens : Bool) :
    ({ state with slots := state.slots.modify index fun slot =>
        { slot with isKey := true, opensMapping := opens } } : TokenState).IsSound := by
  intro slot hmem
  simp only [Array.mem_toList_iff, Array.mem_iff_getElem, Array.size_modify, Array.getElem_modify] at hmem
  obtain ⟨i, hi, rfl⟩ := hmem
  have hslot := h state.slots[i] (by simp)
  split_ifs
  · exact hslot
  · exact hslot

theorem keeps_value (h : state.IsSound) : Keeps state.value := by
  unfold value
  cases state.candidate? with
  | none => exact keeps_opening h rfl rfl fun state => !state.inFlow
  | some candidate =>
      have hdeclared : ∀ after : TokenState, after.slots = state.slots → ∀ opens : Bool,
          Keeps (.ok ({ after with
            slots := after.slots.modify candidate.slot fun slot =>
              { slot with isKey := true, opensMapping := opens }
            keyAllowed := false }.indicator .value)) := fun after hslots opens =>
        (((h.of_slots hslots).declareKey candidate.slot opens).of_slots rfl).indicator rfl
      by_cases hflow : state.forgetCandidate.inFlow = true
      · simp only [hflow, if_true]
        exact hdeclared _ rfl _
      · simp only [hflow]
        unfold indentTo?
        by_cases hindent : state.forgetCandidate.indent < candidate.column
        · simp only [hindent, if_true]
          exact hdeclared _ rfl _
        · simp only [hindent, if_false]
          exact hdeclared _ rfl _

theorem keeps_property (h : state.IsSound) {read : Cursor → Except Fault (Token × Cursor)}
    (hread : ∀ cursor, Ends Fault.OfToken (fun result => result.1.isFault = false) (read cursor)) :
    Keeps (state.property read) :=
  (keeps_saveCandidate h).bind fun state hstate => (hread state.cursor).bind fun result hresult =>
    have hafter : ({ state with keyAllowed := false, cursor := result.2 } : TokenState).IsSound := hstate
    hafter.push hresult

theorem keeps_blockScalar (h : state.IsSound) (folded : Bool) : Keeps (state.blockScalar folded) :=
  have hallowed : ({ state with keyAllowed := true } : TokenState).IsSound := h
  (keeps_dropCandidate hallowed).bind fun state hstate => (Block.lexes_read _ _ _).bind fun result _ =>
    have hafter : ({ state with cursor := result.2 } : TokenState).IsSound := hstate
    hafter.push rfl

theorem keeps_quoted (h : state.IsSound) (double : Bool) : Keeps (state.quoted double) :=
  keeps_property h fun cursor => (Quoted.lexes_read double cursor).bind fun _ _ => rfl

theorem keeps_plain (h : state.IsSound) : Keeps state.plain :=
  (keeps_saveCandidate h).bind fun state hstate =>
    have hafter : ({ state with
      keyAllowed := (Plain.read state.inFlow state.indent state.cursor).endsLine
      cursor := (Plain.read state.inFlow state.indent state.cursor).cursor } : TokenState).IsSound :=
      hstate
    hafter.push rfl

theorem keeps_readToken (h : state.IsSound) (c : Char) : Keeps (state.readToken c) := by
  have hseparator : (if c == '-' then Token.documentStart else Token.documentEnd).isFault = false := by
    split_ifs <;> rfl
  have hname : ∀ token : Text → Token, (∀ name, (token name).isFault = false) → ∀ cursor : Cursor,
      Ends Fault.OfToken (fun result : Token × Cursor => result.1.isFault = false)
        (Property.anchorName cursor.next >>= fun result => pure (token result.1, result.2)) :=
    fun token htoken cursor => (Property.lexes_anchorName _).bind fun _ _ => htoken _
  have htag : ∀ cursor : Cursor,
      Ends Fault.OfToken (fun result : Token × Cursor => result.1.isFault = false)
        (Property.tag cursor >>= fun result => pure (.tag result.1, result.2)) := fun cursor =>
    (Property.lexes_tag cursor).bind fun _ _ => rfl
  unfold readToken
  refine (keeps_directive h).ite ?_
  refine (keeps_separator h hseparator).ite ?_
  refine (keeps_flowStart h rfl).ite ?_
  refine (keeps_flowStart h rfl).ite ?_
  refine (keeps_flowEnd h rfl).ite ?_
  refine (keeps_flowEnd h rfl).ite ?_
  refine (keeps_flowEntry h).ite ?_
  refine (keeps_blockEntry h).ite ?_
  refine (keeps_key h).ite ?_
  refine (keeps_value h).ite ?_
  refine (keeps_property h (hname .alias fun _ => rfl)).ite ?_
  refine (keeps_property h (hname .anchor fun _ => rfl)).ite ?_
  refine (keeps_property h htag).ite ?_
  refine (keeps_blockScalar h _).ite ?_
  refine (keeps_blockScalar h _).ite ?_
  refine (keeps_quoted h _).ite ?_
  refine (keeps_quoted h _).ite ?_
  exact (keeps_plain h).ite .malformed

section

-- Otherwise a step and its first part are unfolded as far as they go.
attribute [local irreducible] TokenState.step TokenState.dropStale

/-- A step reads sound tokens or comes to a fault of tokens. -/
theorem keeps_step (h : state.IsSound) : Keeps state.step := by
  have hnext : state.toNextToken.IsSound := h.of_slots (slots_toNextToken state)
  rw [Keeps, step]
  refine (keeps_dropStale hnext).bind fun state hstate => ?_
  have hunwound := hstate.unwind state.cursor.column
  dsimp only
  split
  · exact keeps_streamEnd hunwound
  · exact keeps_readToken hunwound _

theorem isFault_of_mem_tokens {slot : Slot} (hslot : slot.token.isFault = false) :
    ∀ token ∈ slot.tokens, token.isFault = false := by
  intro token hmem
  unfold Slot.tokens at hmem
  simp only [List.mem_append, List.mem_singleton] at hmem
  rcases hmem with (hopening | hkey) | rfl
  · split_ifs at hopening
    · rw [List.mem_singleton.mp hopening]
      rfl
    · cases hopening
  · split_ifs at hkey
    · rw [List.mem_singleton.mp hkey]
      rfl
    · cases hkey
  · exact hslot

/-- Sound slots stand for tokens that are no faults. -/
theorem IsSound.flatMap_tokens (h : state.IsSound) {slots : List Slot}
    (hslots : slots ⊆ state.slots.toList) {fault : Fault} :
    .fault fault ∉ slots.flatMap Slot.tokens := by
  intro hmem
  obtain ⟨slot, hslot, htoken⟩ := List.mem_flatMap.mp hmem
  have hfalse := isFault_of_mem_tokens (h slot (hslots hslot)) _ htoken
  cases hfalse

theorem run_succ (fuel : Nat) (state : TokenState) : run (fuel + 1) state =
    match state.step with
    | .error fault => state.settledTokens ++ [.fault fault]
    | .ok after =>
      match after.slots.back? with
      | some ⟨.streamEnd, _, _⟩ => after.tokens
      | _ => run fuel after := rfl

/-- The tokens that are read hold no fault but one of tokens. -/
theorem ofToken_of_mem_run (fuel : Nat) (h : state.IsSound) {fault : Fault}
    (hmem : .fault fault ∈ run fuel state) : fault.OfToken := by
  induction fuel generalizing state with
  | zero => exact absurd hmem (h.flatMap_tokens (List.Subset.refl _))
  | succ fuel ih =>
      have hkeeps := keeps_step h
      rw [run_succ] at hmem
      cases hstep : state.step with
      | error other =>
          rw [hstep] at hmem hkeeps
          rcases List.mem_append.mp hmem with hread | hlast
          · exact absurd hread (h.flatMap_tokens (List.take_subset _ _))
          · rw [Token.fault.inj (List.mem_singleton.mp hlast)]
            exact hkeeps
      | ok after =>
          rw [hstep] at hmem hkeeps
          dsimp only at hmem
          split at hmem
          · exact absurd hmem (IsSound.flatMap_tokens hkeeps (List.Subset.refl _))
          · exact ih hkeeps hmem

end

end TokenState

theorem Token.ofToken_of_mem_all {text : Text} {fault : Fault} (hmem : .fault fault ∈ Token.all text) :
    fault.OfToken := by
  unfold Token.all at hmem
  split_ifs at hmem
  · exact TokenState.ofToken_of_mem_run _ (by simp [TokenState.IsSound]) hmem
  · simp only [List.mem_singleton, Token.fault.injEq] at hmem
    exact hmem ▸ .malformed

end FormFill.Yaml

import FormFill.Proofs.Yaml.Token
import FormFill.Yaml.Node.Reader

/-!
# Faults of nodes

A list of tokens that makes up no document breaks the rules, unless the reading comes to a token that is a
fault. Each function of the reader takes tokens off the front and hands back the others, so a fault that
it comes to is one of the tokens it was given.
-/

namespace FormFill.Yaml

variable {tokens rest : Rest}

/-- A fault that comes of reading tokens: a breach of the rules, or one of the tokens. -/
def Fault.FromTokens (tokens : Rest) (fault : Fault) : Prop :=
  fault = .malformed ∨ .fault fault ∈ tokens

@[simp]
theorem fromTokens_malformed : Fault.FromTokens tokens .malformed := Or.inl rfl

theorem fromTokens_unexpected (h : rest <:+ tokens) : (unexpected rest).FromTokens tokens := by
  unfold unexpected
  split
  · exact Or.inr (h.subset List.mem_cons_self)
  · exact Or.inl rfl

/-- A reading that comes to a fault that comes of the tokens, or hands back an end of them. -/
abbrev Reads (tokens : Rest) (reading : Reading) : Prop :=
  Ends (Fault.FromTokens tokens) (fun result => result.2.2 <:+ tokens) reading

theorem suffix_of_cons {token : Token} (h : token :: rest <:+ tokens) : rest <:+ tokens :=
  (List.suffix_cons token rest).trans h

theorem ends_add (draft : Draft) (anchor : Option Text) (node : Node) :
    Ends (Fault.FromTokens tokens) (fun _ => True) (draft.add anchor node) := by
  unfold Draft.add
  dsimp only
  split
  · trivial
  · simp

theorem ends_tagText (draft : Draft) (tag : WrittenTag) :
    Ends (Fault.FromTokens tokens) (fun _ => True) (draft.tagText tag) := by
  unfold Draft.tagText
  split
  · trivial
  · split <;> simp

theorem ends_properties (draft : Draft) (h : rest <:+ tokens) :
    Ends (Fault.FromTokens tokens) (fun result => result.2 <:+ tokens) (Properties.read draft rest) := by
  unfold Properties.read
  split
  · exact (ends_tagText _ _).bind fun _ _ => suffix_of_cons (suffix_of_cons h)
  · exact (ends_tagText _ _).bind fun _ _ => suffix_of_cons (suffix_of_cons h)
  · exact Or.inr (h.subset (by simp))
  · exact suffix_of_cons h
  · exact (ends_tagText _ _).bind fun _ _ => suffix_of_cons h
  · exact h

theorem reads_absentNode (properties : Properties) (draft : Draft) (h : rest <:+ tokens) :
    Reads tokens (absentNode properties draft rest) := by
  unfold absentNode
  dsimp only
  split
  · exact Or.inr (h.subset List.mem_cons_self)
  · refine Ends.ite fromTokens_malformed ?_
    exact (ends_add _ _ _).bind fun _ _ => h

/-- The functions of the reader keep to the tokens, however deep they read. -/
structure KeepTo (tokens : Rest) (fuel : Nat) : Prop where
  node : ∀ {rest}, rest <:+ tokens → ∀ block loose draft,
    Reads tokens (readNode fuel block loose draft rest)
  optional : ∀ {rest}, rest <:+ tokens → ∀ block loose ends draft,
    Reads tokens (readOptional fuel block loose ends draft rest)
  value : ∀ {rest}, rest <:+ tokens → ∀ block ends draft,
    Reads tokens (readValue fuel block ends draft rest)
  blockItems : ∀ {rest}, rest <:+ tokens → ∀ id done draft,
    Reads tokens (blockItems fuel id done draft rest)
  looseItems : ∀ {rest}, rest <:+ tokens → ∀ id done draft,
    Reads tokens (looseItems fuel id done draft rest)
  blockEntries : ∀ {rest}, rest <:+ tokens → ∀ id done draft,
    Reads tokens (blockEntries fuel id done draft rest)
  flowItems : ∀ {rest}, rest <:+ tokens → ∀ id first done draft,
    Reads tokens (flowItems fuel id first done draft rest)
  flowEntries : ∀ {rest}, rest <:+ tokens → ∀ id first done draft,
    Reads tokens (flowEntries fuel id first done draft rest)

theorem keepTo_zero (tokens : Rest) : KeepTo tokens 0 where
  node h _ _ _ := by
    rw [readNode]
    exact fromTokens_unexpected h
  optional h _ _ _ _ := by
    rw [readOptional]
    exact fromTokens_unexpected h
  value h _ _ _ := by
    rw [readValue]
    exact fromTokens_unexpected h
  blockItems h _ _ _ := by
    rw [FormFill.Yaml.blockItems]
    exact fromTokens_unexpected h
  looseItems h _ _ _ := by
    rw [FormFill.Yaml.looseItems]
    exact fromTokens_unexpected h
  blockEntries h _ _ _ := by
    rw [FormFill.Yaml.blockEntries]
    exact fromTokens_unexpected h
  flowItems h _ _ _ _ := by
    rw [FormFill.Yaml.flowItems]
    exact fromTokens_unexpected h
  flowEntries h _ _ _ _ := by
    rw [FormFill.Yaml.flowEntries]
    exact fromTokens_unexpected h

/-- After an item of a flow collection comes a comma, and before the first one nothing. -/
theorem reads_afterComma {next : Rest → Reading}
    (hnext : ∀ rest, rest <:+ tokens → Reads tokens (next rest)) (first : Bool) :
    rest <:+ tokens → Reads tokens
      (match first, rest with
      | true, rest => do next (← pure rest)
      | false, .flowEntry :: rest => do next (← pure rest)
      | false, rest => do next (← throw (unexpected rest))) := by
  intro h
  split
  · exact hnext _ h
  · exact hnext _ (suffix_of_cons h)
  · exact fromTokens_unexpected h

section

variable {fuel : Nat} (keep : KeepTo tokens fuel)

include keep

theorem reads_node (h : rest <:+ tokens) (block loose : Bool) (draft : Draft) :
    Reads tokens (readNode (fuel + 1) block loose draft rest) := by
  unfold readNode
  split
  · split
    · exact suffix_of_cons h
    · exact fromTokens_malformed
  · refine (ends_properties draft h).bind fun result hrest => ?_
    obtain ⟨properties, rest⟩ := result
    dsimp only at hrest ⊢
    split
    · exact (ends_add _ _ _).bind fun _ _ => suffix_of_cons hrest
    · exact (ends_add _ _ _).bind fun _ _ => keep.flowItems (suffix_of_cons hrest) _ _ _ _
    · exact (ends_add _ _ _).bind fun _ _ => keep.flowEntries (suffix_of_cons hrest) _ _ _ _
    · exact ((ends_add _ _ _).bind fun _ _ => keep.looseItems hrest _ _ _).ite
        (reads_absentNode _ _ hrest)
    · exact ((ends_add _ _ _).bind fun _ _ => keep.blockItems (suffix_of_cons hrest) _ _ _).ite
        (reads_absentNode _ _ hrest)
    · exact ((ends_add _ _ _).bind fun _ _ => keep.blockEntries (suffix_of_cons hrest) _ _ _).ite
        (reads_absentNode _ _ hrest)
    · exact reads_absentNode _ _ hrest

theorem reads_optional (h : rest <:+ tokens) (block loose : Bool) (ends : List Token) (draft : Draft) :
    Reads tokens (readOptional (fuel + 1) block loose ends draft rest) := by
  unfold readOptional
  split
  · exact h
  · exact keep.node h block loose draft

theorem reads_value (h : rest <:+ tokens) (block : Bool) (ends : List Token) (draft : Draft) :
    Reads tokens (readValue (fuel + 1) block ends draft rest) := by
  unfold readValue
  split
  · exact keep.optional (suffix_of_cons h) block block ends draft
  · exact h

theorem reads_blockItems (h : rest <:+ tokens) (id : Nat) (done : List Nat) (draft : Draft) :
    Reads tokens (blockItems (fuel + 1) id done draft rest) := by
  unfold blockItems
  split
  · exact (keep.optional (suffix_of_cons h) _ _ _ _).bind fun _ hrest => keep.blockItems hrest _ _ _
  · exact suffix_of_cons h
  · exact fromTokens_unexpected h

theorem reads_looseItems (h : rest <:+ tokens) (id : Nat) (done : List Nat) (draft : Draft) :
    Reads tokens (looseItems (fuel + 1) id done draft rest) := by
  unfold looseItems
  split
  · exact (keep.optional (suffix_of_cons h) _ _ _ _).bind fun _ hrest => keep.looseItems hrest _ _ _
  · exact h

theorem reads_blockEntries (h : rest <:+ tokens) (id : Nat) (done : List (Nat × Nat)) (draft : Draft) :
    Reads tokens (blockEntries (fuel + 1) id done draft rest) := by
  unfold blockEntries
  split
  · exact (keep.optional (suffix_of_cons h) _ _ _ _).bind fun _ hkey =>
      (keep.value hkey _ _ _).bind fun _ hvalue => keep.blockEntries hvalue _ _ _
  · exact suffix_of_cons h
  · exact fromTokens_unexpected h

theorem reads_flowItems (h : rest <:+ tokens) (id : Nat) (first : Bool) (done : List Nat)
    (draft : Draft) : Reads tokens (flowItems (fuel + 1) id first done draft rest) := by
  unfold flowItems
  split
  · exact suffix_of_cons h
  · refine reads_afterComma (fun rest hrest => ?_) first h
    dsimp only
    split
    · exact (keep.optional (suffix_of_cons hrest) _ _ _ _).bind fun _ hkey =>
        (keep.value hkey _ _ _).bind fun _ hvalue => keep.flowItems hvalue _ _ _ _
    · exact suffix_of_cons hrest
    · exact (keep.node hrest _ _ _).bind fun _ hitem => keep.flowItems hitem _ _ _ _

theorem reads_flowEntries (h : rest <:+ tokens) (id : Nat) (first : Bool) (done : List (Nat × Nat))
    (draft : Draft) : Reads tokens (flowEntries (fuel + 1) id first done draft rest) := by
  unfold flowEntries
  split
  · exact suffix_of_cons h
  · refine reads_afterComma (fun rest hrest => ?_) first h
    dsimp only
    split
    · exact (keep.optional (suffix_of_cons hrest) _ _ _ _).bind fun _ hkey =>
        (keep.value hkey _ _ _).bind fun _ hvalue => keep.flowEntries hvalue _ _ _ _
    · exact suffix_of_cons hrest
    · exact (keep.node hrest _ _ _).bind fun _ hkey => keep.flowEntries hkey _ _ _ _

theorem KeepTo.succ : KeepTo tokens (fuel + 1) where
  node h := reads_node keep h
  optional h := reads_optional keep h
  value h := reads_value keep h
  blockItems h := reads_blockItems keep h
  looseItems h := reads_looseItems keep h
  blockEntries h := reads_blockEntries keep h
  flowItems h := reads_flowItems keep h
  flowEntries h := reads_flowEntries keep h

end

theorem keepTo (tokens : Rest) (fuel : Nat) : KeepTo tokens fuel := by
  -- Each reader calls the others with less fuel, so one induction serves all eight.
  induction fuel with
  | zero => exact keepTo_zero tokens
  | succ fuel ih => exact ih.succ

namespace Document

theorem ends_directives (version : Bool) (handles : Table Text) (h : rest <:+ tokens) :
    Ends (Fault.FromTokens tokens) (fun result => result.2 <:+ tokens)
      (directives version handles rest) := by
  induction rest generalizing version handles with
  | nil => exact h
  | cons token rest ih =>
      have hrest := suffix_of_cons h
      unfold directives
      split
      next hcons =>
        obtain ⟨-, rfl⟩ := List.cons.inj hcons
        exact Ends.ite fromTokens_malformed (ih _ _ hrest)
      next hcons =>
        obtain ⟨-, rfl⟩ := List.cons.inj hcons
        exact Ends.ite fromTokens_malformed (ih _ _ hrest)
      next hcons =>
        obtain ⟨-, rfl⟩ := List.cons.inj hcons
        exact ih _ _ hrest
      next => exact h

theorem ends_finish (root : Nat) (draft : Draft) (h : rest <:+ tokens) :
    Ends (Fault.FromTokens tokens) (fun _ => True) (finish root draft rest) := by
  have hlater := (List.dropWhile_suffix (· == Token.documentEnd)).trans h
  unfold finish
  split
  · trivial
  · exact (ends_directives _ _ hlater).bind fun _ hrest => fromTokens_unexpected hrest

/-- Tokens that make up no document break the rules, or one of them is a fault. -/
theorem ends_ofTokens (tokens : List Token) :
    Ends (Fault.FromTokens tokens) (fun _ => True) (ofTokens tokens) := by
  have hall := List.suffix_refl tokens
  unfold ofTokens
  dsimp only
  split
  case h_1 => trivial
  case h_4 =>
    exact ((keepTo _ _).node hall _ _ _).bind fun _ hrest =>
      (ends_finish _ _ hrest).bind fun _ _ => trivial
  -- The start of the document comes after directives or at once.
  all_goals
    refine (ends_directives _ _ hall).bind fun result hrest => ?_
    obtain ⟨handles, rest⟩ := result
    dsimp only at hrest ⊢
    split
    · have hnode := suffix_of_cons hrest
      refine Ends.ite ((ends_finish _ _ hnode).bind fun _ _ => trivial) ?_
      exact ((keepTo _ _).node hnode _ _ _).bind fun _ hlater =>
        (ends_finish _ _ hlater).bind fun _ _ => trivial
    · exact fromTokens_unexpected hrest

end Document

end FormFill.Yaml

import FormFill.Proofs.Document.Basic

/-!
# Codes of documents

A document numbers its inputs by their raw codes, and lays their fields out afterwards. Extraction enters one
item after the other into a ledger that is handed on, and records aliases on the way. The ledger issues the
numbers that the document gives, since no alias has a say in them; so the fields and the aliases are those of
the document.
-/

namespace FormFill

theorem Parameter.length_enterAll (dictionary : Dictionary) (parameters : List Parameter)
    (ledger : Ledger) : (enterAll dictionary parameters ledger).1.length = parameters.length := by
  induction parameters generalizing ledger with
  | nil => rfl
  | cons parameter rest ih => exact congrArg (· + 1) (ih _)

namespace Document

namespace Input

/-- A parameter makes the field of its input. -/
theorem field_parameter (dictionary : Dictionary) (input : Input) (code : Text) :
    input.parameter.field dictionary code = input.field dictionary code := by
  cases input with
  | plain entry => rfl
  | choosing selector =>
      have hoptions : (selector.dictionary.map (·.text)).bind dictionary.get? =
          selector.options? dictionary := Option.bind_map ..
      simp only [parameter, field, Selector.field, Selector.parameter, Parameter.field, hoptions]

theorem rawCode_parameter (input : Input) : input.parameter.rawCode = input.rawCode := by
  cases input <;> rfl

theorem markerKey_parameter (input : Input) : input.parameter.markerKey = some input.key := by
  cases input <;> rfl

/-- Entering an input issues a code as any ledger does that knows of the same codes. -/
theorem enter_parameter (dictionary : Dictionary) (input : Input) {ledger other : Ledger}
    (hissued : ledger.issued = other.issued) (hcounters : ledger.counters = other.counters) :
    (input.parameter.issue ledger).number = (other.issue input.rawCode).1 ∧
      (input.parameter.enter dictionary ledger).2.issued = (other.issue input.rawCode).2.issued ∧
      (input.parameter.enter dictionary ledger).2.counters =
        (other.issue input.rawCode).2.counters := by
  have hnumber : ledger.nextNumber input.rawCode = other.nextNumber input.rawCode := by
    rw [Ledger.nextNumber, Ledger.nextNumber, hissued, hcounters]
  rw [Parameter.issue, Parameter.enter, markerKey_parameter, rawCode_parameter, Ledger.issue,
    Ledger.issue, hnumber, hissued, hcounters]
  exact ⟨rfl, rfl, rfl⟩

end Input

/-- Enters the parameters of inputs one after the other. -/
def enterInputs (dictionary : Dictionary) (inputs : List Input) (ledger : Ledger) :
    List Field × Ledger :=
  Parameter.enterAll dictionary (inputs.map (·.parameter)) ledger

theorem enterInputs_cons (dictionary : Dictionary) (input : Input) (rest : List Input)
    (ledger : Ledger) : enterInputs dictionary (input :: rest) ledger =
      ((input.parameter.enter dictionary ledger).1 ::
          (enterInputs dictionary rest (input.parameter.enter dictionary ledger).2).1,
        (enterInputs dictionary rest (input.parameter.enter dictionary ledger).2).2) := rfl

theorem enterInputs_append (dictionary : Dictionary) (first second : List Input) (ledger : Ledger) :
    enterInputs dictionary (first ++ second) ledger =
      ((enterInputs dictionary first ledger).1 ++
          (enterInputs dictionary second (enterInputs dictionary first ledger).2).1,
        (enterInputs dictionary second (enterInputs dictionary first ledger).2).2) := by
  rw [enterInputs, List.map_append, Parameter.enterAll_append]
  rfl

theorem length_enterInputs (dictionary : Dictionary) (inputs : List Input) (ledger : Ledger) :
    (enterInputs dictionary inputs ledger).1.length = inputs.length := by
  rw [enterInputs, Parameter.length_enterAll, List.length_map]

/-- An entering step that lays out the fields of inputs as nodes, whatever fields stand behind them. -/
def LaysOut (dictionary : Dictionary) (inputs : List Input) (nodes : List Field → List Node)
    (enter : Ledger → List Node × Ledger) : Prop :=
  ∀ ledger more, enter ledger =
    (nodes ((enterInputs dictionary inputs ledger).1 ++ more),
      (enterInputs dictionary inputs ledger).2)

/-- Of two steps one after the other the second lays out the fields behind those of the first. -/
theorem LaysOut.append {dictionary : Dictionary} {inputs others : List Input}
    {nodes otherNodes : List Field → List Node} {enter enterOthers : Ledger → List Node × Ledger}
    (h : LaysOut dictionary inputs nodes enter)
    (hothers : LaysOut dictionary others otherNodes enterOthers) :
    LaysOut dictionary (inputs ++ others)
      (fun fields => nodes fields ++ otherNodes (fields.drop inputs.length))
      (fun ledger => ((enter ledger).1 ++ (enterOthers (enter ledger).2).1,
        (enterOthers (enter ledger).2).2)) := by
  intro ledger more
  have hfirst := h ledger
    ((enterInputs dictionary others (enterInputs dictionary inputs ledger).2).1 ++ more)
  have hsecond := hothers (enterInputs dictionary inputs ledger).2 more
  rw [enterInputs_append, List.append_assoc]
  dsimp only
  rw [List.drop_left' (length_enterInputs dictionary inputs ledger), hfirst, hsecond]

/-- What is done with the nodes alone does not change which fields they hold. -/
theorem LaysOut.map {dictionary : Dictionary} {inputs : List Input} {nodes : List Field → List Node}
    {enter : Ledger → List Node × Ledger} (h : LaysOut dictionary inputs nodes enter)
    (f : List Node → List Node) :
    LaysOut dictionary inputs (f ∘ nodes) (fun ledger => (f (enter ledger).1, (enter ledger).2)) := by
  intro ledger more
  dsimp only
  rw [h ledger more]
  rfl

/-- Entering inputs gives the fields and the aliases of the codes that are issued for their raw codes, by any
ledger that knows of the same codes. -/
theorem enterInputs_eq (dictionary : Dictionary) (inputs : List Input) {ledger other : Ledger}
    (hissued : ledger.issued = other.issued) (hcounters : ledger.counters = other.counters)
    (hkeys : ∀ code ∈ ledger.aliases.keys, code ∈ ledger.issued) :
    (enterInputs dictionary inputs ledger).1 =
        List.zipWith (fun input issued => input.field dictionary issued.code) inputs
          (Ledger.issueAll (inputs.map (·.rawCode)) other).1 ∧
      (enterInputs dictionary inputs ledger).2.aliases = ledger.aliases ++
        List.zipWith (fun input issued => (issued.code, input.key ++ Ledger.suffix issued.number))
          inputs (Ledger.issueAll (inputs.map (·.rawCode)) other).1 := by
  induction inputs generalizing ledger other with
  | nil => exact ⟨rfl, (List.append_nil _).symm⟩
  | cons input rest ih =>
      obtain ⟨hnumber, hissued', hcounters'⟩ := input.enter_parameter dictionary hissued hcounters
      obtain ⟨-, -, hfield, haliases, -⟩ :=
        Parameter.enter_eq dictionary input.parameter ledger hkeys
      obtain ⟨hfields, htable⟩ :=
        ih hissued' hcounters' (Parameter.keys_enter dictionary input.parameter ledger hkeys)
      have hcode : (input.parameter.issue ledger).code =
          NumberedCode.code ⟨input.rawCode, (other.issue input.rawCode).1⟩ := by
        rw [Issue.code, hnumber, NumberedCode.code, ← input.rawCode_parameter]
        rfl
      have halias : (input.parameter.issue ledger).alias? =
          some (NumberedCode.code ⟨input.rawCode, (other.issue input.rawCode).1⟩,
            input.key ++ Ledger.suffix (other.issue input.rawCode).1) := by
        have hkey : (input.parameter.issue ledger).parameter.markerKey = some input.key :=
          input.markerKey_parameter
        rw [Issue.alias?, hkey, hcode, hnumber]
        rfl
      rw [enterInputs_cons, hfields, htable, hfield, haliases, hcode, halias, input.field_parameter,
        List.append_assoc]
      exact ⟨rfl, rfl⟩

end Document

end FormFill

import FormFill.Fill
import FormFill.Proofs.Form.Source

/-!
# What a fill owes to the dictionary

A dictionary document gives the options of selectors and nothing else. Codes, patterns and aliases come
from the template alone, so two fills that differ in the dictionary document end alike: with the same fault,
the same messages, or the same document and report.
-/

namespace FormFill

/-- Two fills that end alike but for the options of their forms. -/
inductive Fill.Alike : Except FillFault Filled → Except FillFault Filled → Prop where
  | pattern (fault : Pattern.Fault) : Alike (.error (.pattern fault)) (.error (.pattern fault))
  | rejected (errors : Table Text) (first second : Form) :
    Alike (.error (.rejected errors first)) (.error (.rejected errors second))
  | filled {first second : Filled} (output : first.output = second.output)
    (errors : first.errors = second.errors) : Alike (.ok first) (.ok second)

variable (first second : Dictionary)

namespace Parameter

/-- A dictionary has no say in what is issued. -/
theorem enterAll_ledger (parameters : List Parameter) (ledger : Ledger) :
    (enterAll first parameters ledger).2 = (enterAll second parameters ledger).2 := by
  induction parameters generalizing ledger with
  | nil => rfl
  | cons parameter rest ih => exact ih (parameter.enter first ledger).2

/-- A dictionary has no say in what is found about values: the check of a field looks at its code, its
pattern and its message. -/
theorem checkAll_enterAll (release : Pattern.Release) (values : Values) (parameters : List Parameter)
    (ledger : Ledger) (findings : Validation.Findings) :
    Validation.checkAll release values (enterAll first parameters ledger).1 findings =
      Validation.checkAll release values (enterAll second parameters ledger).1 findings := by
  induction parameters generalizing ledger findings with
  | nil => rfl
  | cons parameter rest ih =>
      have hrest := ih (parameter.enter first ledger).2
      -- The options, in which the fields differ, are not looked at.
      have hcheck : ∀ code value, Validation.check (parameter.field first code) value release =
          Validation.check (parameter.field second code) value release := fun _ _ => rfl
      rw [enterAll, enterAll, Validation.checkAll, Validation.checkAll]
      simp only [enter, field_code, hcheck] at hrest ⊢
      congr 1
      funext verdict
      cases verdict with
      | accepted => exact hrest findings
      | unchecked => exact hrest _
      | rejected message => exact hrest _

end Parameter

namespace Form

theorem aliases_ofBlocks (blocks : List Block) :
    (ofBlocks first blocks).aliases = (ofBlocks second blocks).aliases := by
  have hfirst := congrArg Prod.snd (enterBlocks_eq_enterAll first blocks {})
  have hsecond := congrArg Prod.snd (enterBlocks_eq_enterAll second blocks {})
  have hledger := Parameter.enterAll_ledger first second (Block.leaves blocks) {}
  rw [← hfirst, ← hsecond] at hledger
  exact congrArg Ledger.aliases hledger

theorem checkForm_ofBlocks (blocks : List Block) (values : Values) (release : Pattern.Release) :
    Validation.checkForm (ofBlocks first blocks).nodes values release =
      Validation.checkForm (ofBlocks second blocks).nodes values release := by
  have hfirst := congrArg Prod.fst (enterBlocks_eq_enterAll first blocks {})
  have hsecond := congrArg Prod.fst (enterBlocks_eq_enterAll second blocks {})
  have hcheck := Parameter.checkAll_enterAll first second release values (Block.leaves blocks) {} {}
  rw [← hfirst, ← hsecond] at hcheck
  exact hcheck

end Form

/-- Fills that differ in the dictionary document end alike. -/
theorem Fill.run_alike (template dictionary other : Text) (entered : Values) (config : Config)
    (profile : Option Profile) (release : Pattern.Release) :
    Fill.Alike (Fill.run template dictionary entered config profile release)
      (Fill.run template other entered config profile release) := by
  have haliases := Form.aliases_ofBlocks (Dictionary.read dictionary) (Dictionary.read other)
    (Block.retained config.excluded (Block.all config.roles template))
  have hcheck := Form.checkForm_ofBlocks (Dictionary.read dictionary) (Dictionary.read other)
    (Block.retained config.excluded (Block.all config.roles template))
    (Fill.present (Fill.merge profile entered)) release
  simp only [Fill.run, Form.read, Form.extract, haliases, hcheck]
  cases Validation.checkForm _ _ _ with
  | error fault => exact Alike.pattern fault
  | ok findings =>
      dsimp only
      split
      next => exact Alike.rejected _ _ _
      next => exact Alike.filled rfl rfl

end FormFill

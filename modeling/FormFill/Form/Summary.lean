import FormFill.Form.Tree

/-!
# Summaries of forms

The few lines that describe a form: its counts, and the fields that no marker can take.
-/

namespace FormFill

/-- The summary of a form. -/
def Form.summary (form : Form) : Text :=
  let fields := fieldsOf form.nodes
  let counts : Text :=
    "blocks=".toList ++ Text.ofNat form.nodes.length ++
      " sections=".toList ++ Text.ofNat (sectionsOf [] form.nodes).length ++
      " fields=".toList ++ Text.ofNat fields.length ++
      " aliases=".toList ++ Text.ofNat form.aliases.length
  let unaliased := (fields.map (·.code)).filter fun code => (form.aliases.get? code).isNone
  Text.ofLines (["structure_summary:".toList, counts] ++
    if unaliased.isEmpty then []
    else ["not_substitutable: ".toList ++ Text.joined [',', ' '] unaliased])

end FormFill

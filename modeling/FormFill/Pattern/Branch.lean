import FormFill.Pattern.Syntax

/-!
# Branches

A choice is read as a list of branches, each a list of items. What all branches begin with is taken
out of the choice, and a choice between single characters is one set. Both matter to what matches: a
set compares letters in its own way, and what stands before a choice is not tried again for the next
branch.
-/

namespace FormFill.Pattern

/-- The items of a sequence. -/
abbrev Branch := List Node

/-- Whether two items are alike. Only items without parts are compared; any other item is unlike all
others. -/
def Node.isLike : Node → Node → Bool
  | .one a, .one b => a == b
  | .anchor a, .anchor b => a == b
  | .reference a foldingA, .reference b foldingB => a == b && foldingA == foldingB
  | _, _ => false

namespace Branch

/-- Takes out what the first branch and all others begin with. -/
def commonStart : Branch → List Branch → Branch × List Branch
  | item :: rest, others =>
    if others.all fun branch => branch.head?.any item.isLike then
      let (common, left) := commonStart rest (others.map List.tail)
      (item :: common, left)
    else ([], (item :: rest) :: others)
  | [], others => ([], [] :: others)

/-- The members of the set that a branch amounts to, with the folding of the set and whether its
classes are restricted to ASCII. -/
def members? : Branch → Option (List SetItem × Folding × Bool)
  | [.one (.literal code false folding)] => some ([.point code], folding, false)
  | [.one (.set items false folding ascii)] => some (items, folding, ascii)
  | _ => none

/-- The set that a list of branches amounts to, if each is a single character or a set. -/
def merged? (branches : List Branch) : Option Node := do
  let sets ← branches.mapM members?
  let (_, folding, _) ← sets.head?
  let items := (sets.flatMap (·.1)).eraseDups
  pure (.one (.set items false folding (sets.any (·.2.2))))

/-- The choice between branches. -/
def choice : List Branch → Node
  | [] => .empty
  | [branch] => .ofItems branch
  | branch :: others => .either (.ofItems branch) (choice others)

/-- The items of a choice between branches. -/
def alternatives : List Branch → Branch
  | [] => []
  | [branch] => branch
  | branch :: others =>
    let (common, left) := commonStart branch others
    common ++ [(merged? left).getD (choice left)]

end Branch

end FormFill.Pattern

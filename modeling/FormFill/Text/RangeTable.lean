/-!
# Sorted tables of code point ranges

A property of characters is stored as the increasing list of the closed ranges that have it, and
looked up by halving.
-/

namespace FormFill.Text

/-- Closed ranges of code points, increasing and disjoint. -/
abbrev RangeTable := Array (Nat × Nat)

namespace RangeTable

/-- Looks for a range holding `code` among the entries from `low` up to, not including, `high`. -/
def search (table : RangeTable) (code low high : Nat) : Bool :=
  if _hlt : low < high then
    let middle := (low + high) / 2
    match table[middle]? with
    | none => false
    | some (first, last) =>
      if code < first then table.search code low middle
      else if last < code then table.search code (middle + 1) high
      else true
  else false
termination_by high - low

/-- Whether `code` lies in one of the ranges. -/
def contains (table : RangeTable) (code : Nat) : Bool :=
  table.search code 0 table.size

end RangeTable

end FormFill.Text

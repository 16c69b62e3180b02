import FormFill.Text.Basic

/-!
# Tables

A table holds values under text keys in the order in which the keys first came. Setting a key that is
present changes its value and keeps its place.
-/

namespace FormFill

/-- Values under text keys, in the order of the keys' first appearance. -/
abbrev Table (α : Type) := List (Text × α)

namespace Table

variable {α : Type}

/-- Sets the value of a key. -/
def set (key : Text) (value : α) : Table α → Table α
  | [] => [(key, value)]
  | (other, old) :: rest =>
    if other = key then (other, value) :: rest else (other, old) :: set key value rest

/-- The value of a key. -/
def get? (key : Text) (table : Table α) : Option α := table.lookup key

/-- A key that has been set has the value it was set to. -/
@[simp]
theorem get?_set_self (key : Text) (value : α) (table : Table α) :
    get? key (set key value table) = some value := by
  induction table with
  | nil => simp [set, get?]
  | cons entry rest ih =>
    obtain ⟨first, old⟩ := entry
    by_cases hfirst : first = key
    · simp [set, get?, hfirst]
    · have hne : (key == first) = false := beq_eq_false_iff_ne.mpr (Ne.symm hfirst)
      simpa [set, get?, hfirst, List.lookup_cons, hne] using ih

/-- Setting a key leaves the other keys as they are. -/
theorem get?_set_of_ne {key other : Text} (hne : other ≠ key) (value : α) (table : Table α) :
    get? other (set key value table) = get? other table := by
  induction table with
  | nil => simp [set, get?, List.lookup_cons, beq_eq_false_iff_ne.mpr hne]
  | cons entry rest ih =>
    obtain ⟨first, old⟩ := entry
    by_cases hfirst : first = key
    · subst hfirst
      simp [set, get?, List.lookup_cons, beq_eq_false_iff_ne.mpr hne]
    · unfold get? at ih ⊢
      rw [set, if_neg hfirst, List.lookup_cons, List.lookup_cons, ih]

/-- The keys in order. -/
def keys (table : Table α) : List Text := table.map (·.1)

/-- Sets every entry of a list in turn. -/
def setAll (entries : List (Text × α)) (table : Table α) : Table α :=
  entries.foldl (fun table entry => table.set entry.1 entry.2) table

end Table

end FormFill

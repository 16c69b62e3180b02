import FormFill.Table
import Mathlib.Data.List.Basic
import Mathlib.Data.List.Induction
import Mathlib.Data.List.Nodup

/-!
# Laws of tables

A key that is new goes to the end of a table, and the entries before it keep their values. Entries that
are set one after the other give a table with each key at its first place and under it the last value.
-/

namespace FormFill.Table

variable {α : Type}

/-- The entries before the first one with a key. -/
def before (key : Text) (table : Table α) : Table α := table.takeWhile (·.1 ≠ key)

theorem before_cons (key : Text) (entry : Text × α) (table : Table α) :
    before key (entry :: table) = if entry.1 = key then [] else entry :: before key table := by
  rw [before, List.takeWhile_cons]
  by_cases h : entry.1 = key
  · simp [h]
  · simp [h, before]

/-- Setting a new key appends its entry. -/
theorem set_of_not_mem {key : Text} {value : α} {table : Table α} (hnew : key ∉ keys table) :
    set key value table = table ++ [(key, value)] := by
  induction table with
  | nil => rfl
  | cons entry rest ih =>
      obtain ⟨first, old⟩ := entry
      rw [keys, List.map_cons, List.mem_cons, not_or] at hnew
      rw [set, if_neg (Ne.symm hnew.1), ih hnew.2, List.cons_append]

theorem get?_append (key : Text) (first second : Table α) :
    get? key (first ++ second) = (get? key first).or (get? key second) := by
  rw [get?, List.lookup_append, get?, get?]

theorem mem_of_get?_eq_some {key : Text} {value : α} {table : Table α}
    (h : get? key table = some value) : (key, value) ∈ table := by
  obtain ⟨before, after, rfl, -⟩ := List.lookup_eq_some_iff.mp h
  exact List.mem_append_right before List.mem_cons_self

theorem get?_eq_none_iff {key : Text} {table : Table α} :
    get? key table = none ↔ key ∉ keys table := by
  rw [get?, List.lookup_eq_none_iff, keys, List.mem_map]
  constructor
  · rintro hne ⟨entry, hentry, rfl⟩
    simpa using hne entry hentry
  · intro hnew entry hentry
    rw [bne_iff_ne]
    rintro rfl
    exact hnew ⟨entry, hentry, rfl⟩

/-- Values that are changed one by one keep their keys. -/
theorem get?_map {β : Type} (f : α → β) (key : Text) (table : Table α) :
    get? key (table.map fun entry => (entry.1, f entry.2)) = (get? key table).map f := by
  induction table with
  | nil => rfl
  | cons entry rest ih =>
      rw [List.map_cons, get?, get?, List.lookup_cons, List.lookup_cons]
      cases key == entry.1 with
      | true => rfl
      | false => exact ih

/-- In a table made of items the first item with the key counts. -/
theorem get?_map_eq_find? {β : Type} (key : Text) (keyOf : β → Text) (value : β → α)
    (items : List β) : get? key (items.map fun item => (keyOf item, value item)) =
      (items.find? fun item => keyOf item = key).map value := by
  induction items with
  | nil => rfl
  | cons item rest ih =>
      rw [get?] at ih
      rw [List.map_cons, get?, List.lookup_cons, List.find?_cons, ih]
      by_cases h : keyOf item = key
      · simp [h]
      · simp [h, beq_eq_false_iff_ne.mpr (Ne.symm h)]

/-- Of the entries that are set for a key the last one counts. -/
theorem get?_setAll (key : Text) (entries : List (Text × α)) (table : Table α) :
    get? key (setAll entries table) = (get? key entries.reverse).or (get? key table) := by
  induction entries generalizing table with
  | nil => rfl
  | cons entry rest ih =>
      have hset : get? key (set entry.1 entry.2 table) = (get? key [entry]).or (get? key table) := by
        by_cases hkey : key = entry.1
        · subst hkey
          rw [get?_set_self, get?, List.lookup_cons_self, Option.some_or]
        · have hnone : get? key [entry] = none := by
            simpa [get?] using hkey
          rw [get?_set_of_ne hkey, hnone, Option.none_or]
      have hcons : setAll (entry :: rest) table = setAll rest (table.set entry.1 entry.2) := rfl
      rw [hcons, ih, hset, List.reverse_cons, get?_append, Option.or_assoc]

theorem keys_set (key : Text) (value : α) (table : Table α) : keys (set key value table) =
    if key ∈ keys table then keys table else keys table ++ [key] := by
  induction table with
  | nil => rfl
  | cons entry rest ih =>
      obtain ⟨first, old⟩ := entry
      have hkeys : ∀ table : Table α, keys ((first, old) :: table) = first :: keys table := fun _ => rfl
      rw [set, hkeys]
      by_cases h : first = key
      · subst h
        rw [if_pos rfl, if_pos List.mem_cons_self]
        rfl
      · rw [if_neg h, hkeys, ih]
        by_cases hmem : key ∈ keys rest
        · rw [if_pos hmem, if_pos (List.mem_cons_of_mem first hmem)]
        · rw [if_neg hmem, if_neg (List.not_mem_cons_of_ne_of_not_mem (Ne.symm h) hmem),
            List.cons_append]

theorem setAll_append_singleton (entries : List (Text × α)) (entry : Text × α) (table : Table α) :
    setAll (entries ++ [entry]) table = (setAll entries table).set entry.1 entry.2 := by
  rw [setAll, List.foldl_append]
  rfl

/-- Keys stand at the places where they are set first. -/
theorem keys_setAll (entries : List (Text × α)) :
    keys (setAll entries []) = (keys entries).eraseDups := by
  induction entries using List.reverseRecOn with
  | nil => rfl
  | append_singleton entries entry ih =>
      have hkeys : keys (entries ++ [entry]) = keys entries ++ [entry.1] := by
        rw [keys, List.map_append]
        rfl
      rw [setAll_append_singleton, keys_set, ih, hkeys, List.eraseDups_append]
      simp only [List.mem_eraseDups]
      by_cases hmem : entry.1 ∈ keys entries
      · simp [List.removeAll, hmem]
      · simp [List.removeAll, hmem, List.eraseDups_cons]

theorem nodup_keys_setAll (entries : List (Text × α)) : (keys (setAll entries [])).Nodup := by
  induction entries using List.reverseRecOn with
  | nil => exact List.nodup_nil
  | append_singleton entries entry ih =>
      rw [setAll_append_singleton, keys_set]
      split
      next => exact ih
      next hnew => exact List.concat_eq_append ▸ ih.concat hnew

/-- A table with distinct keys is its keys with their values. -/
theorem eq_filterMap_keys {table : Table α} (hnodup : (keys table).Nodup) :
    table = (keys table).filterMap fun key => (get? key table).map (key, ·) := by
  induction table with
  | nil => rfl
  | cons entry rest ih =>
      obtain ⟨hnew, hrest⟩ := List.nodup_cons.mp hnodup
      have hother : ∀ key ∈ keys rest, (get? key (entry :: rest)).map (key, ·) =
          (get? key rest).map (key, ·) := by
        intro key hkey
        have hne : (key == entry.1) = false := by
          rw [beq_eq_false_iff_ne]
          rintro rfl
          exact hnew hkey
        rw [get?, List.lookup_cons, hne]
        rfl
      rw [keys, List.map_cons, ← keys, List.filterMap_cons, List.filterMap_congr hother,
        ← ih hrest, get?, List.lookup_cons_self]
      rfl

/-- Each key that is set gets its first place and its last value. -/
theorem setAll_eq (entries : List (Text × α)) : setAll entries [] =
    (keys entries).eraseDups.filterMap fun key => (get? key entries.reverse).map (key, ·) := by
  rw [eq_filterMap_keys (nodup_keys_setAll entries), keys_setAll]
  refine List.filterMap_congr fun key _ => ?_
  rw [get?_setAll, get?, get?, List.lookup_nil, Option.or_none]

/-- Entries with distinct keys are the table that they give. -/
theorem setAll_of_nodup {entries : List (Text × α)} (hnodup : (keys entries).Nodup) :
    setAll entries [] = entries := by
  induction entries using List.reverseRecOn with
  | nil => rfl
  | append_singleton entries entry ih =>
      rw [keys, List.map_append, ← keys, List.map_singleton, ← List.concat_eq_append,
        List.nodup_concat] at hnodup
      rw [setAll_append_singleton, ih hnodup.2, set_of_not_mem hnodup.1]

end FormFill.Table

import FormFill.Template.Ledger
import Mathlib.Data.List.Nodup
import Mathlib.Data.List.Perm.Subperm

/-!
# Issued codes are new

Numbers give distinct candidates for one raw code, so among one more candidate than there are issued
codes at least one is free. The search for a free number stops at the first one.
-/

namespace FormFill.Ledger

theorem ofNat_injective : Function.Injective Text.ofNat := by
  intro m n h
  have hread := congrArg (fun digits => Nat.ofDigitChars 10 digits 0) h
  simpa only [Text.ofNat, Nat.ofDigitChars_ten_toDigits] using hread

theorem suffix_of_two_le {number : Nat} (h : 2 ≤ number) :
    suffix number = '_' :: Text.ofNat number := if_neg (by omega)

theorem suffix_injective : Function.Injective suffix := by
  intro m n h
  unfold suffix at h
  split at h <;> split at h
  · omega
  · cases h
  · cases h
  · exact ofNat_injective (List.cons.inj h).2

/-- Candidates of one raw code are distinct. -/
theorem candidate_injective (raw : Text) : Function.Injective (candidate raw) :=
  fun _ _ h => suffix_injective (List.append_cancel_left h)

theorem le_firstFree (issued : List Text) (raw : Text) (fuel number : Nat) :
    number ≤ firstFree issued raw fuel number := by
  induction fuel generalizing number with
  | zero => exact Nat.le_refl number
  | succ fuel ih =>
      rw [firstFree]
      split
      · exact Nat.le_trans (Nat.le_succ number) (ih _)
      · exact Nat.le_refl number

/-- Every number that the search passes over has an issued candidate. -/
theorem mem_of_lt_firstFree {issued : List Text} {raw : Text} {fuel number passed : Nat}
    (hle : number ≤ passed) (hlt : passed < firstFree issued raw fuel number) :
    candidate raw passed ∈ issued := by
  induction fuel generalizing number with
  | zero =>
      rw [firstFree] at hlt
      omega
  | succ fuel ih =>
      rw [firstFree] at hlt
      split at hlt
      next hmem =>
        rcases Nat.eq_or_lt_of_le hle with rfl | hlater
        · exact hmem
        · exact ih hlater hlt
      next => omega

theorem firstFree_free_or_eq (issued : List Text) (raw : Text) (fuel number : Nat) :
    candidate raw (firstFree issued raw fuel number) ∉ issued ∨
      firstFree issued raw fuel number = number + fuel := by
  induction fuel generalizing number with
  | zero => exact Or.inr rfl
  | succ fuel ih =>
      rw [firstFree]
      split
      · refine (ih (number + 1)).imp_right fun h => ?_
        omega
      next hfree => exact Or.inl hfree

/-- The search ends at a free number if its fuel covers the issued codes. -/
theorem candidate_firstFree_not_mem {issued : List Text} {fuel : Nat}
    (hfuel : issued.length ≤ fuel) (raw : Text) (number : Nat) :
    candidate raw (firstFree issued raw fuel number) ∉ issued := by
  rcases firstFree_free_or_eq issued raw fuel number with hfree | hend
  · exact hfree
  · intro hmem
    -- All of `number, ..., number + fuel` have issued candidates: one too many.
    let candidates := (List.range (fuel + 1)).map fun i => candidate raw (number + i)
    have hnodup : candidates.Nodup := List.nodup_range.map fun i j h => by
      have := candidate_injective raw h
      omega
    have hsubset : candidates ⊆ issued := by
      intro code hcode
      obtain ⟨i, hi, rfl⟩ := List.mem_map.mp hcode
      rw [List.mem_range] at hi
      rcases Nat.lt_or_ge (number + i) (firstFree issued raw fuel number) with hlt | hge
      · exact mem_of_lt_firstFree (Nat.le_add_right number i) hlt
      · have hlast : number + i = firstFree issued raw fuel number := by omega
        rw [hlast]
        exact hmem
    have hlength := (hnodup.subperm hsubset).length_le
    rw [List.length_map, List.length_range] at hlength
    omega

/-- The code issued for a raw code is new. -/
theorem candidate_nextNumber_not_mem (ledger : Ledger) (raw : Text) :
    candidate raw (ledger.nextNumber raw) ∉ ledger.issued :=
  candidate_firstFree_not_mem (Nat.le_refl _) raw _

theorem nextNumber_pos (ledger : Ledger) (raw : Text) : 1 ≤ ledger.nextNumber raw :=
  Nat.le_trans (Nat.le_add_left 1 _) (le_firstFree _ raw _ _)

/-- The first field with a raw code that is no issued code keeps it. -/
theorem nextNumber_eq_one {ledger : Ledger} {raw : Text} (hissued : raw ∉ ledger.issued)
    (hcounter : ledger.counters.get? raw = none) : ledger.nextNumber raw = 1 := by
  have hfree : candidate raw 1 ∉ ledger.issued := by simpa [candidate, suffix] using hissued
  rw [nextNumber, hcounter]
  cases ledger.issued.length with
  | zero => rfl
  | succ fuel => exact if_neg hfree

/-- A raw code is kept by the first field with it and by no other. -/
theorem candidate_eq_raw_iff {raw : Text} {number : Nat} : candidate raw number = raw ↔ number = 1 := by
  rw [candidate, List.append_right_eq_self, suffix]
  split
  next hone => simp [hone]
  next hother => simp [hother]

end FormFill.Ledger

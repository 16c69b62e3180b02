import FormFill.Proofs.Ledger.Issue
import FormFill.Proofs.Text
import Mathlib.Data.List.Induction
import Mathlib.Order.Bounds.Defs

/-!
# The numbers of raw codes

Raw codes come one after the other, and each gets the least number above its last one whose code has not
been issued yet. The search for it ends, since there is one more candidate than there are issued codes.
So the raw codes alone determine the numbers. If no raw code looks like another one with a suffix, no number
is passed over: the occurrences of a raw code are numbered from one on.
-/

namespace FormFill

/-- A raw code with the number under which it was issued. -/
structure NumberedCode where
  raw : Text
  number : Nat
  deriving DecidableEq, Repr

namespace NumberedCode

/-- The code that was issued. -/
def code (issued : NumberedCode) : Text := Ledger.candidate issued.raw issued.number

/-- The number last used for a raw code, or zero. -/
def lastNumber (raw : Text) (issued : List NumberedCode) : Nat :=
  ((issued.filter (·.raw = raw)).getLast?.map number).getD 0

/-- A raw code is issued next after some: under the least number above its last one whose code is new.
At most as many numbers are passed over as codes have been issued. -/
structure IsNext (issued : List NumberedCode) (next : NumberedCode) : Prop where
  least : IsLeast {number | lastNumber next.raw issued < number ∧
    Ledger.candidate next.raw number ∉ issued.map code} next.number
  bound : next.number ≤ lastNumber next.raw issued + 1 + issued.length

/-- Codes each of which is the next one after those before it. -/
def InTurn (issued : List NumberedCode) : Prop :=
  ∀ before next after, issued = before ++ next :: after → IsNext before next

/-- The least number above the last one of a raw code whose code is new. It is looked for among one more
number than codes have been issued. -/
def freeNumber (issued : List NumberedCode) (raw : Text) : Nat :=
  ((List.range' (lastNumber raw issued + 1) (issued.length + 1)).find? fun number =>
    Ledger.candidate raw number ∉ issued.map code).getD 0

/-- Raw codes with the numbers that they get one after the other. -/
def numberAll (raws : List Text) : List NumberedCode :=
  raws.foldl (fun issued raw => issued ++ [⟨raw, freeNumber issued raw⟩]) []

theorem IsNext.eq_freeNumber {issued : List NumberedCode} {next : NumberedCode}
    (h : IsNext issued next) : next.number = freeNumber issued next.raw := by
  obtain ⟨hlast, hnew⟩ := h.least.1
  have hfind : (List.range' (lastNumber next.raw issued + 1) (issued.length + 1)).find?
      (fun number => Ledger.candidate next.raw number ∉ issued.map code) = some next.number := by
    have hbound := h.bound
    rw [List.find?_range'_eq_some]
    refine ⟨decide_eq_true hnew, List.mem_range'_1.mpr ⟨hlast, by omega⟩, fun number hle hlt => ?_⟩
    rw [Bool.not_eq_true', decide_eq_false_iff_not]
    exact fun hfree => absurd (h.least.2 ⟨hle, hfree⟩) (Nat.not_le.mpr hlt)
  rw [freeNumber, hfind, Option.getD_some]

theorem numberAll_append_singleton (raws : List Text) (raw : Text) :
    numberAll (raws ++ [raw]) = numberAll raws ++ [⟨raw, freeNumber (numberAll raws) raw⟩] := by
  rw [numberAll, List.foldl_append]
  rfl

theorem lastNumber_append_singleton (raw : Text) (issued : List NumberedCode)
    (next : NumberedCode) : lastNumber raw (issued ++ [next]) =
      if next.raw = raw then next.number else lastNumber raw issued := by
  unfold lastNumber
  rw [List.filter_append]
  by_cases h : next.raw = raw
  · simp [h]
  · simp [h]

namespace InTurn

variable {issued : List NumberedCode}

theorem nil : InTurn [] := by
  intro before next after h
  simp at h

theorem of_append {more : List NumberedCode} (h : InTurn (issued ++ more)) : InTurn issued := by
  rintro before next after rfl
  exact h before next (after ++ more) (by simp)

theorem isNext {next : NumberedCode} (h : InTurn (issued ++ [next])) : IsNext issued next :=
  h issued next [] rfl

theorem append_singleton {next : NumberedCode} (h : InTurn issued) (hnext : IsNext issued next) :
    InTurn (issued ++ [next]) := by
  intro before other after heq
  rcases List.eq_nil_or_concat after with rfl | ⟨after, last, rfl⟩
  · obtain ⟨rfl, hlast⟩ := List.append_inj' heq rfl
    cases hlast
    exact hnext
  · rw [List.concat_eq_append, ← List.cons_append, ← List.append_assoc] at heq
    exact h before other after (List.append_inj_left' heq rfl)

/-- No code is issued twice. -/
theorem nodup_code (h : InTurn issued) : (issued.map code).Nodup := by
  induction issued using List.reverseRecOn with
  | nil => exact List.nodup_nil
  | append_singleton issued next ih =>
      rw [List.map_append, List.map_singleton, ← List.concat_eq_append, List.nodup_concat]
      exact ⟨h.isNext.least.1.2, ih h.of_append⟩

theorem le_lastNumber (h : InTurn issued) :
    ∀ entry ∈ issued, entry.number ≤ lastNumber entry.raw issued := by
  induction issued using List.reverseRecOn with
  | nil => exact List.forall_mem_nil _
  | append_singleton issued next ih =>
      intro entry hentry
      rw [lastNumber_append_singleton]
      rcases List.mem_append.mp hentry with hold | hnew
      · have hle := ih h.of_append entry hold
        split
        next hraw =>
          have hlast := h.isNext.least.1.1
          rw [hraw] at hlast
          omega
        next => exact hle
      · obtain rfl := List.mem_singleton.mp hnew
        exact Nat.le_of_eq (if_pos rfl).symm

/-- The numbers of one raw code increase. -/
theorem pairwise_number (h : InTurn issued) : issued.Pairwise fun first second =>
    first.raw = second.raw → first.number < second.number := by
  induction issued using List.reverseRecOn with
  | nil => exact List.Pairwise.nil
  | append_singleton issued next ih =>
      rw [List.pairwise_append]
      refine ⟨ih h.of_append, List.pairwise_singleton _ _, fun entry hentry last hlast hraw => ?_⟩
      obtain rfl := List.mem_singleton.mp hlast
      have hle := h.of_append.le_lastNumber entry hentry
      rw [hraw] at hle
      exact Nat.lt_of_le_of_lt hle h.isNext.least.1.1

theorem number_pos (h : InTurn issued) : ∀ entry ∈ issued, 1 ≤ entry.number := by
  intro entry hentry
  obtain ⟨before, after, rfl⟩ := List.append_of_mem hentry
  exact Nat.lt_of_le_of_lt (Nat.zero_le _) (h before entry after rfl).least.1.1

/-- The raw codes determine the numbers. -/
theorem eq_numberAll (h : InTurn issued) : issued = numberAll (issued.map raw) := by
  induction issued using List.reverseRecOn with
  | nil => rfl
  | append_singleton issued next ih =>
      rw [List.map_append, List.map_singleton, numberAll_append_singleton, ← ih h.of_append,
        ← h.isNext.eq_freeNumber]

end InTurn

end NumberedCode

namespace Ledger

open NumberedCode

theorem underscore_not_mem_ofNat (number : Nat) : '_' ∉ Text.ofNat number := by
  intro hmem
  have hdigit := Nat.isDigit_of_mem_toDigits (by decide) (by decide) hmem
  exact absurd hdigit (by decide)

/-- The number in a suffix and the text in front of it are determined. -/
theorem append_underscore_inj {first second : Text} {m n : Nat}
    (h : first ++ '_' :: Text.ofNat m = second ++ '_' :: Text.ofNat n) : first = second ∧ m = n := by
  have hreverse := congrArg List.reverse h
  simp only [List.reverse_append, List.reverse_cons, List.append_assoc] at hreverse
  have hdigits : ∀ number, ∀ c ∈ (Text.ofNat number).reverse, (c != '_') = true := by
    intro number c hc
    rw [bne_iff_ne]
    rintro rfl
    exact underscore_not_mem_ofNat number (List.mem_reverse.mp hc)
  obtain ⟨hnumber, hrest⟩ := Text.eq_of_append_eq (hdigits m) (hdigits n) (by simp) (by simp) hreverse
  exact ⟨List.reverse_injective (List.append_cancel_left hrest),
    ofNat_injective (List.reverse_injective hnumber)⟩

theorem candidate_of_two_le {number : Nat} (h : 2 ≤ number) (raw : Text) :
    candidate raw number = raw ++ '_' :: Text.ofNat number := by
  rw [candidate, suffix_of_two_le h]

@[simp]
theorem candidate_one (raw : Text) : candidate raw 1 = raw := candidate_eq_raw_iff.mpr rfl

/-- Two raw codes have a code in common only if one of them looks like the other with a suffix. -/
theorem eq_of_candidate_eq {first second : Text} {m n : Nat} (hm : 1 ≤ m) (hn : 1 ≤ n)
    (h : candidate first m = candidate second n)
    (hfirst : 2 ≤ n → first ≠ candidate second n) (hsecond : 2 ≤ m → second ≠ candidate first m) :
    first = second ∧ m = n := by
  rcases Nat.eq_or_lt_of_le hm with rfl | hm
  · rcases Nat.eq_or_lt_of_le hn with rfl | hn
    · rw [candidate_one, candidate_one] at h
      exact ⟨h, rfl⟩
    · rw [candidate_one] at h
      exact absurd h (hfirst hn)
  · rcases Nat.eq_or_lt_of_le hn with rfl | hn
    · rw [candidate_one] at h
      exact absurd h.symm (hsecond hm)
    · rw [candidate_of_two_le hm, candidate_of_two_le hn] at h
      exact append_underscore_inj h

theorem firstFree_le (issued : List Text) (raw : Text) (fuel number : Nat) :
    firstFree issued raw fuel number ≤ number + fuel := by
  induction fuel generalizing number with
  | zero => exact Nat.le_refl number
  | succ fuel ih =>
      rw [firstFree]
      split
      · have := ih (number + 1)
        omega
      · exact Nat.le_add_right _ _

/-- What a ledger knows of the codes that were issued: the codes and the number last used for each
raw code. -/
structure Records (ledger : Ledger) (issued : List NumberedCode) : Prop where
  issued_eq : ledger.issued = (issued.map code).reverse
  counter : ∀ raw, (ledger.counters.get? raw).getD 0 = lastNumber raw issued

namespace Records

variable {ledger : Ledger} {issued : List NumberedCode}

theorem empty : Records {} [] := ⟨rfl, fun _ => rfl⟩

theorem isNext (h : Records ledger issued) (raw : Text) : IsNext issued ⟨raw, (ledger.issue raw).1⟩ := by
  have hfree := ledger.candidate_nextNumber_not_mem raw
  have hle := le_firstFree ledger.issued raw ledger.issued.length
    ((ledger.counters.get? raw).getD 0 + 1)
  have hbound := firstFree_le ledger.issued raw ledger.issued.length
    ((ledger.counters.get? raw).getD 0 + 1)
  have hmem : ∀ code, code ∈ ledger.issued ↔ code ∈ issued.map NumberedCode.code := fun code => by
    rw [h.issued_eq, List.mem_reverse]
  have hlength : ledger.issued.length = issued.length := by
    rw [h.issued_eq, List.length_reverse, List.length_map]
  refine ⟨⟨⟨?_, (hmem _).not.mp hfree⟩, ?_⟩, ?_⟩
  · rw [← h.counter]
    exact hle
  · -- A smaller free number would have ended the search.
    rintro number ⟨hlast, hnew⟩
    by_contra hlt
    rw [Nat.not_le] at hlt
    rw [← h.counter] at hlast
    exact hnew ((hmem _).mp (mem_of_lt_firstFree hlast hlt))
  · rw [← h.counter, ← hlength]
    exact hbound

theorem issue (h : Records ledger issued) (raw : Text) :
    Records (ledger.issue raw).2 (issued ++ [⟨raw, (ledger.issue raw).1⟩]) where
  issued_eq := by
    rw [List.map_append, List.reverse_append, ← h.issued_eq]
    rfl
  counter other := by
    rw [lastNumber_append_singleton]
    by_cases hraw : raw = other
    · subst hraw
      rw [if_pos rfl, Ledger.issue, Table.get?_set_self]
      rfl
    · rw [if_neg hraw, Ledger.issue, Table.get?_set_of_ne (Ne.symm hraw)]
      exact h.counter other

end Records

/-- Issues codes for raw codes one after the other: the codes with their numbers, and the ledger after
them. -/
def issueAll : List Text → Ledger → List NumberedCode × Ledger
  | [], ledger => ([], ledger)
  | raw :: rest, ledger =>
    let (number, ledger) := ledger.issue raw
    let (others, ledger) := issueAll rest ledger
    (⟨raw, number⟩ :: others, ledger)

theorem map_raw_issueAll (raws : List Text) (ledger : Ledger) :
    (issueAll raws ledger).1.map NumberedCode.raw = raws := by
  induction raws generalizing ledger with
  | nil => rfl
  | cons raw rest ih => exact congrArg (raw :: ·) (ih _)

/-- Codes that are issued after others in turn continue them in turn. -/
theorem Records.issueAll {ledger : Ledger} {issued : List NumberedCode} (h : Records ledger issued)
    (hturn : InTurn issued) (raws : List Text) :
    InTurn (issued ++ (issueAll raws ledger).1) ∧
      Records (issueAll raws ledger).2 (issued ++ (issueAll raws ledger).1) := by
  induction raws generalizing ledger issued with
  | nil =>
      rw [Ledger.issueAll, List.append_nil]
      exact ⟨hturn, h⟩
  | cons raw rest ih =>
      rw [Ledger.issueAll, List.append_cons]
      exact ih (h.issue raw) (hturn.append_singleton (h.isNext raw))

/-- A new ledger issues the codes that the raw codes determine. -/
theorem issueAll_eq_numberAll (raws : List Text) : (issueAll raws {}).1 = numberAll raws := by
  have hturn := (Records.issueAll Records.empty InTurn.nil raws).1
  rw [List.nil_append] at hturn
  rw [hturn.eq_numberAll, map_raw_issueAll]

/-- If no raw code looks like another one with a suffix, the last number of a raw code counts its
occurrences. -/
theorem lastNumber_eq_countP {issued : List NumberedCode} (hturn : InTurn issued)
    (hfree : ∀ entry ∈ issued, ∀ other ∈ issued, ∀ number, 2 ≤ number →
      entry.raw ≠ candidate other.raw number) (raw : Text) :
    lastNumber raw issued = issued.countP (·.raw = raw) := by
  induction issued using List.reverseRecOn generalizing raw with
  | nil => rfl
  | append_singleton issued next ih =>
      have hcount := ih hturn.of_append fun entry hentry other hother =>
        hfree entry (List.mem_append_left _ hentry) other (List.mem_append_left _ hother)
      have hnext := hturn.isNext
      have hlast : next ∈ issued ++ [next] := List.mem_append_right _ List.mem_cons_self
      -- The number after the last one is free, so the search does not go on.
      have hnew : candidate next.raw (lastNumber next.raw issued + 1) ∉ issued.map code := by
        intro hmem
        obtain ⟨entry, hentry, hcode⟩ := List.mem_map.mp hmem
        have hold : entry ∈ issued ++ [next] := List.mem_append_left _ hentry
        obtain ⟨hraw, hnumber⟩ := eq_of_candidate_eq (hturn.number_pos entry hold) (by omega) hcode
          (hfree entry hold next hlast _) (hfree next hlast entry hold _)
        have hle := hturn.of_append.le_lastNumber entry hentry
        rw [hraw] at hle
        omega
      have hnumber : next.number = lastNumber next.raw issued + 1 :=
        Nat.le_antisymm (hnext.least.2 ⟨Nat.lt_succ_self _, hnew⟩) hnext.least.1.1
      rw [lastNumber_append_singleton, List.countP_append, List.countP_singleton]
      by_cases hraw : next.raw = raw
      · rw [if_pos hraw, if_pos (by simpa using hraw), hnumber, hraw, hcount]
      · rw [if_neg hraw, if_neg (by simpa using hraw), hcount, Nat.add_zero]

/-- What issuing codes for a sequence of raw codes comes to. -/
structure IsNumbered (raws : List Text) (issued : List NumberedCode) (ledger : Ledger) : Prop where
  /-- Every raw code gets a number. -/
  raws_eq : issued.map NumberedCode.raw = raws
  distinct : (issued.map NumberedCode.code).Nodup
  /-- Each number is the least one above the last number of the raw code whose code is new. -/
  inTurn : InTurn issued
  increasing : issued.Pairwise fun first second =>
    first.raw = second.raw → first.number < second.number
  keeps_raw_iff : ∀ entry ∈ issued, entry.number = 1 ↔ entry.code = entry.raw
  /-- Nothing is passed over if no raw code looks like another one with a suffix. -/
  counted : (∀ raw ∈ raws, ∀ other ∈ raws, ∀ number, 2 ≤ number → raw ≠ candidate other number) →
    ∀ before entry after, issued = before ++ entry :: after →
      entry.number = before.countP (·.raw = entry.raw) + 1
  recorded : Records ledger issued

/-- Codes are issued for every sequence of raw codes, under numbers that depend only on the codes
issued before. -/
theorem issueAll_isNumbered (raws : List Text) :
    IsNumbered raws (issueAll raws {}).1 (issueAll raws {}).2 := by
  have hraws := map_raw_issueAll raws {}
  obtain ⟨hturn, hrecords⟩ := Records.issueAll Records.empty InTurn.nil raws
  rw [List.nil_append] at hturn hrecords
  exact {
    raws_eq := hraws
    distinct := hturn.nodup_code
    inTurn := hturn
    increasing := hturn.pairwise_number
    keeps_raw_iff := fun _ _ => candidate_eq_raw_iff.symm
    counted := fun hfree before entry after heq => by
      rw [heq, List.append_cons] at hturn
      have hmem : ∀ other ∈ before ++ [entry], other.raw ∈ raws := by
        intro other hother
        rw [← hraws, heq, List.append_cons]
        exact List.mem_map_of_mem (List.mem_append_left _ hother)
      have hcount := lastNumber_eq_countP hturn.of_append
        (fun first hfirst second hsecond => hfree _ (hmem first hfirst) _ (hmem second hsecond))
        entry.raw
      rwa [lastNumber_append_singleton, if_pos rfl, List.countP_append, List.countP_singleton,
        if_pos (by simp)] at hcount
    recorded := hrecords }

/-- The second code of `A` would be the raw code `A_2`, so it is passed over. -/
example : (issueAll ["A".toList, "A_2".toList, "A".toList, "A".toList] {}).1.map (·.number) =
    [1, 1, 3, 4] := by decide

end Ledger

end FormFill

import FormFill.Proofs.Marker.Split
import FormFill.Proofs.Table
import FormFill.Proofs.Text
import FormFill.Substitution
import Mathlib.Data.Set.Card

/-!
# What a substitution does

The report of a substitution lists every span of the template and nothing else, in order and without
overlaps. The output is the template with each span replaced by the text of its entry, and all that
stands outside the spans is kept.
-/

namespace FormFill

/-- The text from an offset on with some of its spans replaced. A span is given by its start, its end
and what comes in its place; spans are given in order. -/
def Text.splice (text : Text) : (offset : Nat) → List (Nat × Nat × Text) → Text
  | offset, [] => text.drop offset
  | offset, (start, stop, inserted) :: rest =>
    Text.slice offset start text ++ inserted ++ Text.splice text stop rest

namespace Substitution

variable (aliases : Table Text) (values : Values)

/-- The entries from an offset on are the places at which markers stand. -/
theorem mem_entriesFrom_iff (offset : Nat) (text : Text) (entry : Entry) :
    entry ∈ entriesFrom aliases values offset (Marker.split text) ↔
      ∃ before after, text = before ++ entry.marker.text ++ after ∧ Marker.IsKey entry.marker.key ∧
        entry.start = offset + before.length ∧
          entry.outcome = outcome aliases values entry.marker := by
  induction text using Marker.pieceInduction generalizing offset with
  | nil => simp [entriesFrom, Marker.text_ne_nil]
  | marker found rest hkey ih =>
      rw [Marker.split_marker hkey, entriesFrom, List.mem_cons, ih]
      constructor
      · rintro (rfl | ⟨before, after, rfl, hentry, hstart, houtcome⟩)
        · exact ⟨[], rest, rfl, hkey, rfl, rfl⟩
        · refine ⟨found.text ++ before, after, by simp, hentry, ?_, houtcome⟩
          rw [hstart, List.length_append, Nat.add_assoc]
      · rintro ⟨before, after, htext, hentry, hstart, houtcome⟩
        rcases Marker.eq_or_after_of_append_eq hkey hentry htext with
          ⟨rfl, hfound, -⟩ | ⟨gap, rfl, hrest⟩
        · left
          obtain ⟨marker, start, result⟩ := entry
          dsimp only at hfound hstart houtcome
          rw [hstart, houtcome, hfound, List.length_nil, Nat.add_zero]
        · right
          refine ⟨gap, after, hrest, hentry, ?_, houtcome⟩
          rw [hstart, List.length_append, Nat.add_assoc]
  | plain c rest hnone ih =>
      rw [Marker.split_plain hnone, entriesFrom, ih]
      constructor
      · rintro ⟨before, after, rfl, hentry, hstart, houtcome⟩
        refine ⟨c :: before, after, rfl, hentry, ?_, houtcome⟩
        rw [hstart, List.length_cons]
        omega
      · rintro ⟨before, after, htext, hentry, hstart, houtcome⟩
        cases before with
        | nil =>
            rw [Marker.read?_eq_some_iff.mpr ⟨hentry, htext⟩] at hnone
            cases hnone
        | cons d before =>
            obtain ⟨-, hrest⟩ := List.cons.inj htext
            refine ⟨before, after, hrest, hentry, ?_, houtcome⟩
            rw [hstart, List.length_cons]
            omega

variable {aliases values}

theorem start_le_of_mem_entriesFrom {offset : Nat} {text : Text} {entry : Entry}
    (h : entry ∈ entriesFrom aliases values offset (Marker.split text)) : offset ≤ entry.start := by
  obtain ⟨before, after, -, -, hstart, -⟩ := (mem_entriesFrom_iff aliases values ..).mp h
  omega

theorem Entry.start_lt_stop (entry : Entry) : entry.start < entry.stop := by
  have hpos := List.length_pos_of_ne_nil entry.marker.text_ne_nil
  rw [Entry.stop]
  omega

/-- Each entry ends before the next one begins. -/
theorem pairwise_entriesFrom (offset : Nat) (text : Text) :
    (entriesFrom aliases values offset (Marker.split text)).Pairwise fun earlier later =>
      earlier.stop ≤ later.start := by
  induction text using Marker.pieceInduction generalizing offset with
  | nil => simp [entriesFrom]
  | marker found rest hkey ih =>
      rw [Marker.split_marker hkey, entriesFrom, List.pairwise_cons]
      exact ⟨fun later hlater => start_le_of_mem_entriesFrom hlater, ih _⟩
  | plain c rest hnone ih =>
      rw [Marker.split_plain hnone, entriesFrom]
      exact ih _

/-- The replacement of each span, as a splice needs it. -/
def replacements (entries : List Entry) : List (Nat × Nat × Text) :=
  entries.map fun entry => (entry.start, entry.stop, entry.text)

/-- The text of a marker's piece is what its entry puts in its place. -/
theorem pieceText_marker (marker : Marker) (start : Nat) :
    pieceText aliases values (.marker marker) =
      Entry.text ⟨marker, start, outcome aliases values marker⟩ := rfl

/-- The pieces of the rest of a template, after the characters that stand between the last span and
the rest, are the template spliced from the end of the last span on. -/
theorem splice_entriesFrom (template rest : Text) (cursor offset : Nat) (hcursor : cursor ≤ offset)
    (hrest : template.drop offset = rest) :
    Text.splice template cursor
        (replacements (entriesFrom aliases values offset (Marker.split rest))) =
      Text.slice cursor offset template ++
        (Marker.split rest).flatMap (pieceText aliases values) := by
  induction rest using Marker.pieceInduction generalizing cursor offset with
  | nil =>
      have hall : template.length ≤ offset := List.drop_eq_nil_iff.mp hrest
      rw [Marker.split_nil, entriesFrom, replacements, List.map_nil, Text.splice, Text.slice,
        List.flatMap_nil, List.append_nil, List.take_of_length_le]
      rw [List.length_drop]
      omega
  | marker found rest hkey ih =>
      -- The cursor moves to the end of the marker, so no characters are left over for the rest.
      have hnext : template.drop (offset + found.text.length) = rest := Text.drop_of_drop_eq hrest
      have hself : Text.slice (offset + found.text.length) (offset + found.text.length) template
          = [] := by
        simp [Text.slice]
      rw [Marker.split_marker hkey, entriesFrom, replacements, List.map_cons, Text.splice,
        List.flatMap_cons, pieceText_marker found offset, List.append_assoc]
      congr 2
      rw [Entry.stop, ← replacements, ih _ _ (Nat.le_refl _) hnext, hself, List.nil_append]
  | plain c rest hnone ih =>
      -- The cursor stays, and the character is copied with the next span.
      have hnext : template.drop (offset + 1) = rest :=
        @Text.drop_of_drop_eq template [c] rest offset hrest
      have hslice : Text.slice cursor (offset + 1) template =
          Text.slice cursor offset template ++ [c] := by
        have hget : (template.drop cursor)[offset - cursor]? = some c := by
          rw [List.getElem?_drop, Nat.add_sub_cancel' hcursor, ← List.head?_drop, hrest]
          rfl
        rw [Text.slice, Text.slice, Nat.sub_add_comm hcursor, List.take_add_one, hget]
        rfl
      rw [Marker.split_plain hnone, entriesFrom, ih cursor (offset + 1) (by omega) hnext, hslice,
        List.flatMap_cons, List.append_assoc]
      rfl

/-- The code that counts for a key is the first one with that alias. -/
theorem codeOf?_append {before after : Table Text} {code key : Text}
    (hbefore : ∀ entry ∈ before, entry.2 ≠ key) :
    codeOf? (before ++ (code, key) :: after) key = some code := by
  have hnone : before.find? (fun entry => entry.2 == key) = none :=
    List.find?_eq_none.mpr fun entry hentry => by simpa using hbefore entry hentry
  simp [codeOf?, List.find?_append, hnone]

theorem codeOf?_eq_none {aliases : Table Text} {key : Text}
    (hnone : ∀ entry ∈ aliases, entry.2 ≠ key) : codeOf? aliases key = none := by
  rw [codeOf?, Option.map_eq_none_iff]
  exact List.find?_eq_none.mpr fun entry hentry => by simpa using hnone entry hentry

theorem codeOf?_eq_none_iff {aliases : Table Text} {key : Text} :
    codeOf? aliases key = none ↔ key ∉ aliases.map (·.2) := by
  simp only [codeOf?, Option.map_eq_none_iff, List.find?_eq_none, List.mem_map, not_exists,
    not_and, beq_iff_eq]

/-- The code that counts for a key is that of the first entry if this has the key. -/
theorem codeOf?_cons (entry : Text × Text) (rest : Table Text) (key : Text) :
    codeOf? (entry :: rest) key = if entry.2 = key then some entry.1 else codeOf? rest key := by
  rw [codeOf?, List.find?_cons]
  by_cases h : entry.2 = key
  · simp [h]
  · rw [beq_eq_false_iff_ne.mpr h, if_neg h]
    rfl

@[simp]
theorem codeOf?_nil (key : Text) : codeOf? [] key = none := rfl

theorem mem_keys_of_codeOf? {aliases : Table Text} {code key : Text}
    (h : codeOf? aliases key = some code) : code ∈ aliases.keys := by
  obtain ⟨entry, hentry, rfl⟩ := Option.map_eq_some_iff.mp h
  exact List.mem_map_of_mem (List.mem_of_find?_eq_some hentry)

/-- A code counts for a key if the key is its alias and no entry before its own has the same alias. -/
theorem codeOf?_eq_some_iff_of_get? {aliases : Table Text} {code used key : Text}
    (hnodup : aliases.keys.Nodup) (hget : aliases.get? code = some used) :
    codeOf? aliases key = some code ↔
      used = key ∧ ∀ entry ∈ aliases.before code, entry.2 ≠ key := by
  induction aliases with
  | nil => cases hget
  | cons entry rest ih =>
      obtain ⟨first, firstKey⟩ := entry
      rw [Table.keys, List.map_cons, List.nodup_cons] at hnodup
      rw [codeOf?_cons, Table.before_cons]
      by_cases hcode : first = code
      · subst hcode
        have hused : firstKey = used := by simpa [Table.get?] using hget
        have hrest : codeOf? rest key ≠ some first :=
          fun hlater => hnodup.1 (mem_keys_of_codeOf? hlater)
        simp [hused, hrest]
      · have hlater : Table.get? code rest = some used := by
          simpa [Table.get?, List.lookup_cons, beq_eq_false_iff_ne.mpr (Ne.symm hcode)] using hget
        rw [if_neg hcode, List.forall_mem_cons]
        by_cases hkey : firstKey = key
        · simp [hkey, hcode]
        · simp [hkey, ih hnodup.2 hlater]

/-- If no alias is shared, the code that counts for a key is the one that has it as its alias. -/
theorem codeOf?_eq_some_iff {aliases : Table Text} (hnodup : (aliases.map (·.2)).Nodup)
    {key code : Text} :
    codeOf? aliases key = some code ↔ (code, key) ∈ aliases := by
  induction aliases with
  | nil => simp
  | cons entry rest ih =>
      obtain ⟨first, used⟩ := entry
      rw [List.map_cons, List.nodup_cons] at hnodup
      rw [codeOf?_cons, List.mem_cons, Prod.mk.injEq]
      by_cases hkey : used = key
      · subst hkey
        have hrest : (code, used) ∉ rest := fun hmem => hnodup.1 (List.mem_map.mpr ⟨_, hmem, rfl⟩)
        simp [hrest, eq_comm]
      · simp [hkey, Ne.symm hkey, ih hnodup.2]

/-- A marker is filled apart from what comes before it and what comes after it. -/
theorem fill_append_marker {marker : Marker} (hkey : Marker.IsKey marker.key) (before after : Text) :
    fill (before ++ marker.text ++ after) aliases values =
      fill before aliases values ++ pieceText aliases values (.marker marker) ++
        fill after aliases values := by
  rw [fill, run, Marker.split_append_marker hkey, List.flatMap_append, List.flatMap_cons,
    ← List.append_assoc]
  rfl

/-- The spans of a text, each with its start and its end. -/
def spans (template : Text) : Set (Nat × Nat) :=
  {span | ∃ marker, Marker.IsSpan template span.1 span.2 marker}

/-- Whether an output is the exact result of a substitution: nothing is missed, nothing is made up
and nothing else is changed. -/
structure Exact (template : Text) (aliases : Table Text) (values : Values) (output : Output) :
    Prop where
  /-- The spans of the template, and no others, are reported. -/
  reported : ∀ start stop marker, Marker.IsSpan template start stop marker ↔
    ∃ entry ∈ output.report.entries,
      entry.start = start ∧ entry.stop = stop ∧ entry.marker = marker
  original : ∀ entry ∈ output.report.entries,
    Text.slice entry.start entry.stop template = entry.marker.text
  nonempty : ∀ entry ∈ output.report.entries, entry.start < entry.stop
  disjoint : output.report.entries.Pairwise fun earlier later => earlier.stop ≤ later.start
  /-- A marker whose key is an alias gets the value of the first code with that alias. -/
  replaced : ∀ entry ∈ output.report.entries, ∀ before code after,
    aliases = before ++ (code, entry.marker.key) :: after →
    (∀ other ∈ before, other.2 ≠ entry.marker.key) →
    entry.outcome = .replaced code ((values.valueOf? code).getD [])
  /-- A marker whose key is no alias stays as it is. -/
  unmatched : ∀ entry ∈ output.report.entries,
    (∀ other ∈ aliases, other.2 ≠ entry.marker.key) → entry.outcome = .unmatched
  text : output.text = Text.splice template 0 (replacements output.report.entries)
  total : output.report.total = (spans template).ncard
  counts : output.report.replaced + output.report.unmatched = output.report.total

/-- The entries of a run are the spans of the template with what becomes of their markers. -/
theorem mem_entries_run_iff {template : Text} {entry : Entry} :
    entry ∈ (run template aliases values).report.entries ↔
      Marker.IsSpan template entry.start entry.stop entry.marker ∧
        entry.outcome = outcome aliases values entry.marker := by
  rw [run, mem_entriesFrom_iff, Marker.isSpan_iff]
  constructor
  · rintro ⟨before, after, htext, hkey, hstart, houtcome⟩
    exact ⟨⟨before, after, htext, hkey, by omega, rfl⟩, houtcome⟩
  · rintro ⟨⟨before, after, htext, hkey, hstart, -⟩, houtcome⟩
    exact ⟨before, after, htext, hkey, by omega, houtcome⟩

/-- A span is reported with what becomes of its marker. -/
theorem exists_entry_iff {template : Text} {start stop : Nat} {marker : Marker} :
    Marker.IsSpan template start stop marker ↔
      ∃ entry ∈ (run template aliases values).report.entries,
        entry.start = start ∧ entry.stop = stop ∧ entry.marker = marker := by
  constructor
  · intro hspan
    obtain ⟨before, after, -, -, -, hstop⟩ := Marker.isSpan_iff.mp hspan
    refine ⟨⟨marker, start, outcome aliases values marker⟩, ?_, rfl, hstop.symm, rfl⟩
    rw [mem_entries_run_iff, Entry.stop, ← hstop]
    exact ⟨hspan, rfl⟩
  · rintro ⟨entry, hentry, rfl, rfl, rfl⟩
    exact (mem_entries_run_iff.mp hentry).1

/-- There are as many entries as spans. -/
theorem length_entries_run (template : Text) :
    (run template aliases values).report.entries.length = (spans template).ncard := by
  let entries := (run template aliases values).report.entries
  have hnodup : (entries.map fun entry => (entry.start, entry.stop)).Nodup := by
    rw [List.Nodup, List.pairwise_map]
    refine (pairwise_entriesFrom 0 template).imp fun {earlier later} hle heq => ?_
    have hlt := earlier.start_lt_stop
    have hstart : earlier.start = later.start := congrArg Prod.fst heq
    omega
  have hspans : spans template =
      ((entries.map fun entry => (entry.start, entry.stop)).toFinset : Set (Nat × Nat)) := by
    ext ⟨start, stop⟩
    simp only [spans, Set.mem_ofPred_eq, @exists_entry_iff aliases values,
      List.coe_toFinset, List.mem_map, Prod.mk.injEq]
    constructor
    · rintro ⟨_, entry, hentry, hstart, hstop, -⟩
      exact ⟨entry, hentry, hstart, hstop⟩
    · rintro ⟨entry, hentry, hstart, hstop⟩
      exact ⟨entry.marker, entry, hentry, hstart, hstop, rfl⟩
  rw [hspans, Set.ncard_coe_finset, List.toFinset_card_of_nodup hnodup, List.length_map]

/-- Every substitution is exact. -/
theorem run_exact (template : Text) (aliases : Table Text) (values : Values) :
    Exact template aliases values (run template aliases values) where
  reported _ _ _ := exists_entry_iff
  original _ hentry := (mem_entries_run_iff.mp hentry).1.slice_eq
  nonempty entry _ := entry.start_lt_stop
  disjoint := pairwise_entriesFrom 0 template
  replaced entry hentry before code after haliases hbefore := by
    rw [(mem_entries_run_iff.mp hentry).2, outcome, haliases, codeOf?_append hbefore]
  unmatched entry hentry hnone := by
    rw [(mem_entries_run_iff.mp hentry).2, outcome, codeOf?_eq_none hnone]
  text := by
    have hsplice := @splice_entriesFrom aliases values template template 0 0 (Nat.le_refl 0) rfl
    rw [run, hsplice]
    rfl
  total := length_entries_run template
  counts := Nat.add_sub_cancel' List.countP_le_length

end Substitution

end FormFill

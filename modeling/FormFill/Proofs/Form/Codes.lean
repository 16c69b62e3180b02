import FormFill.Proofs.Ledger.Issue
import FormFill.Proofs.Table
import FormFill.Template.Extraction

/-!
# Codes and aliases of a form

Entering the items of a template comes to the same as entering their parameters one after the other.
Each parameter gets a number; its field has the raw code with the suffix of that number, and its alias,
if it has one, is the marker key with the same suffix. No code is issued twice, so no alias is lost.
-/

namespace FormFill

mutual

/-- The parameters at and below an item, in order. -/
def Item.leaves : Item → List Parameter
  | .parameter parameter => [parameter]
  | .wrapper _ items => leavesOf items

/-- The parameters of a list of items, in order. -/
def leavesOf : List Item → List Parameter
  | [] => []
  | item :: rest => item.leaves ++ leavesOf rest

end

theorem fieldsOf_append (first second : List Node) :
    fieldsOf (first ++ second) = fieldsOf first ++ fieldsOf second := by
  induction first with
  | nil => rfl
  | cons node rest ih => rw [List.cons_append, fieldsOf, ih, fieldsOf, List.append_assoc]

namespace Parameter

theorem enterAll_append (dictionary : Dictionary) (first second : List Parameter)
    (ledger : Ledger) :
    enterAll dictionary (first ++ second) ledger =
      ((enterAll dictionary first ledger).1 ++
          (enterAll dictionary second (enterAll dictionary first ledger).2).1,
        (enterAll dictionary second (enterAll dictionary first ledger).2).2) := by
  induction first generalizing ledger with
  | nil => rfl
  | cons parameter rest ih =>
      simp only [List.cons_append, enterAll, ih]

end Parameter

mutual

/-- Entering an item enters its parameters in order. -/
theorem Item.enter_eq_enterAll (dictionary : Dictionary) (ledger : Ledger) : ∀ item : Item,
    (fieldsOf (item.enter dictionary ledger).1, (item.enter dictionary ledger).2) =
      Parameter.enterAll dictionary item.leaves ledger
  | .parameter parameter => rfl
  | .wrapper title items => by
      rw [Item.leaves, ← enterItems_eq_enterAll dictionary ledger items]
      cases title with
      | none => rfl
      | some name => simp [Item.enter, fieldsOf, Node.fields]

/-- Entering items enters their parameters in order. -/
theorem enterItems_eq_enterAll (dictionary : Dictionary) (ledger : Ledger) : ∀ items : List Item,
    (fieldsOf (enterItems dictionary items ledger).1, (enterItems dictionary items ledger).2) =
      Parameter.enterAll dictionary (leavesOf items) ledger
  | [] => rfl
  | item :: rest => by
      have hitem := Item.enter_eq_enterAll dictionary ledger item
      have hrest := enterItems_eq_enterAll dictionary (item.enter dictionary ledger).2 rest
      rw [leavesOf, Parameter.enterAll_append, ← hitem, ← hrest, enterItems, fieldsOf_append]

end

/-- The parameters of blocks, in order. -/
def Block.leaves (blocks : List Block) : List Parameter :=
  blocks.flatMap fun block => leavesOf block.items

theorem enterBlocks_eq_enterAll (dictionary : Dictionary) (blocks : List Block)
    (ledger : Ledger) :
    (fieldsOf (enterBlocks dictionary blocks ledger).1, (enterBlocks dictionary blocks ledger).2) =
      Parameter.enterAll dictionary (Block.leaves blocks) ledger := by
  induction blocks generalizing ledger with
  | nil => rfl
  | cons block rest ih =>
      have hitems := enterItems_eq_enterAll dictionary ledger block.items
      rw [Block.leaves, List.flatMap_cons, ← Block.leaves, Parameter.enterAll_append, ← hitems,
        ← ih, enterBlocks, fieldsOf, Node.fields]

/-- A parameter and the number under which it was entered. -/
structure Issue where
  parameter : Parameter
  number : Nat

namespace Issue

/-- The code of the field. -/
def code (issue : Issue) : Text := Ledger.candidate issue.parameter.rawCode issue.number

/-- The alias of the field under its code, if it has one. -/
def alias? (issue : Issue) : Option (Text × Text) :=
  issue.parameter.markerKey.map fun key => (issue.code, key ++ Ledger.suffix issue.number)

theorem fst_of_mem_alias? {issue : Issue} {entry : Text × Text} (h : issue.alias? = some entry) :
    entry.1 = issue.code := by
  obtain ⟨key, -, rfl⟩ := Option.map_eq_some_iff.mp h
  rfl

/-- The codes with an alias come in the order of the codes. -/
theorem keys_filterMap_sublist (issues : List Issue) :
    (Table.keys (issues.filterMap alias?)).Sublist (issues.map code) := by
  induction issues with
  | nil => exact List.Sublist.slnil
  | cons issue rest ih =>
      rw [List.map_cons, List.filterMap_cons]
      cases halias : issue.alias? with
      | none => exact ih.cons _
      | some entry =>
          rw [Table.keys, List.map_cons, fst_of_mem_alias? halias]
          exact ih.cons_cons _

theorem not_mem_keys_filterMap {issues : List Issue} {code : Text}
    (hnew : code ∉ issues.map Issue.code) : code ∉ Table.keys (issues.filterMap alias?) :=
  fun hmem => hnew ((keys_filterMap_sublist issues).subset hmem)

/-- If the codes are distinct, each alias is found under its code. -/
theorem get?_filterMap {issues : List Issue} (hnodup : (issues.map code).Nodup) {issue : Issue}
    (hmem : issue ∈ issues) :
    Table.get? issue.code (issues.filterMap alias?) = issue.alias?.map (·.2) := by
  induction issues with
  | nil => cases hmem
  | cons first rest ih =>
      rw [List.map_cons, List.nodup_cons] at hnodup
      have happend : List.filterMap alias? (first :: rest) =
          first.alias?.toList ++ rest.filterMap alias? := by
        rw [List.filterMap_cons]
        cases first.alias? <;> rfl
      rw [happend, Table.get?_append]
      rcases List.mem_cons.mp hmem with rfl | hrest
      · rw [Table.get?_eq_none_iff.mpr (not_mem_keys_filterMap hnodup.1), Option.or_none]
        cases halias : issue.alias? with
        | none => rfl
        | some entry =>
            obtain ⟨key, value⟩ := entry
            have hkey : key = issue.code := fst_of_mem_alias? halias
            simp [Table.get?, hkey]
      · have hne : first.code ≠ issue.code :=
          fun heq => hnodup.1 (heq ▸ List.mem_map_of_mem hrest)
        have hfirst : Table.get? issue.code first.alias?.toList = none := by
          rw [Table.get?_eq_none_iff]
          cases halias : first.alias? with
          | none => exact List.not_mem_nil
          | some entry =>
              rw [Option.toList_some, Table.keys, List.map_cons, List.map_nil, List.mem_singleton,
                fst_of_mem_alias? halias]
              exact hne.symm
        rw [hfirst, Option.none_or]
        exact ih hnodup.2 hrest

/-- The alias of the first field with a raw code is the marker key without a suffix. -/
theorem markerKey_of_get? {issues : List Issue} (hnodup : (issues.map code).Nodup) {issue : Issue}
    (hmem : issue ∈ issues) (hnumber : issue.number = 1) {key : Text}
    (h : Table.get? issue.code (issues.filterMap alias?) = some key) :
    issue.parameter.markerKey = some key := by
  rw [get?_filterMap hnodup hmem, alias?, Option.map_map] at h
  obtain ⟨marked, hmarked, hkey⟩ := Option.map_eq_some_iff.mp h
  have hsuffix : Ledger.suffix issue.number = [] := by rw [hnumber]; rfl
  obtain rfl : marked = key := by
    rw [← hkey, Function.comp, hsuffix, List.append_nil]
  exact hmarked

end Issue

namespace Parameter

@[simp]
theorem field_code (dictionary : Dictionary) (parameter : Parameter) (code : Text) :
    (parameter.field dictionary code).code = code := rfl

/-- The issue made when a parameter is entered. -/
def issue (parameter : Parameter) (ledger : Ledger) : Issue :=
  ⟨parameter, ledger.nextNumber parameter.rawCode⟩

/-- The issues made when parameters are entered one after the other. -/
def issues (dictionary : Dictionary) : List Parameter → Ledger → List Issue
  | [], _ => []
  | parameter :: rest, ledger =>
    parameter.issue ledger :: issues dictionary rest (parameter.enter dictionary ledger).2

/-- Entering a parameter makes its issue: the code is new, and the alias goes to the end. -/
theorem enter_eq (dictionary : Dictionary) (parameter : Parameter) (ledger : Ledger)
    (hkeys : ∀ code ∈ ledger.aliases.keys, code ∈ ledger.issued) :
    1 ≤ (parameter.issue ledger).number ∧ (parameter.issue ledger).code ∉ ledger.issued ∧
      (parameter.enter dictionary ledger).1 =
        parameter.field dictionary (parameter.issue ledger).code ∧
      (parameter.enter dictionary ledger).2.aliases =
        ledger.aliases ++ (parameter.issue ledger).alias?.toList ∧
      (parameter.enter dictionary ledger).2.issued =
        (parameter.issue ledger).code :: ledger.issued := by
  have hnew := ledger.candidate_nextNumber_not_mem parameter.rawCode
  refine ⟨ledger.nextNumber_pos parameter.rawCode, hnew, rfl, ?_, ?_⟩
  · rw [enter, issue, Issue.alias?, Issue.code]
    cases parameter.markerKey with
    | none => exact (List.append_nil _).symm
    | some key => exact Table.set_of_not_mem fun hmem => hnew (hkeys _ hmem)
  · rw [enter]
    cases parameter.markerKey <;> rfl

/-- Aliases are recorded for issued codes only. -/
theorem keys_enter (dictionary : Dictionary) (parameter : Parameter) (ledger : Ledger)
    (hkeys : ∀ code ∈ ledger.aliases.keys, code ∈ ledger.issued) :
    ∀ code ∈ (parameter.enter dictionary ledger).2.aliases.keys,
      code ∈ (parameter.enter dictionary ledger).2.issued := by
  obtain ⟨-, -, -, haliases, hissued⟩ := enter_eq dictionary parameter ledger hkeys
  intro code hcode
  rw [haliases, Table.keys, List.map_append, List.mem_append] at hcode
  rw [hissued, List.mem_cons]
  rcases hcode with hold | hlast
  · exact Or.inr (hkeys code hold)
  · obtain ⟨entry, hentry, rfl⟩ := List.mem_map.mp hlast
    exact Or.inl (Issue.fst_of_mem_alias? (Option.mem_toList.mp hentry))

/-- The first parameter of all keeps its raw code, and its alias is its marker key. -/
theorem enter_empty (dictionary : Dictionary) (parameter : Parameter) :
    parameter.enter dictionary {} = (parameter.field dictionary parameter.rawCode,
      { aliases := (parameter.markerKey.map fun key => (parameter.rawCode, key)).toList
        counters := [(parameter.rawCode, 1)]
        issued := [parameter.rawCode] }) := by
  have hnumber : ({} : Ledger).nextNumber parameter.rawCode = 1 := rfl
  have hcode : Ledger.candidate parameter.rawCode 1 = parameter.rawCode :=
    Ledger.candidate_eq_raw_iff.mpr rfl
  rw [enter, Ledger.issue, hnumber]
  dsimp only
  rw [hcode]
  cases parameter.markerKey with
  | none => rfl
  | some key =>
      have hkey : key ++ Ledger.suffix 1 = key := List.append_nil key
      simp only [hkey]
      rfl

/-- Entering parameters makes one issue for each of them. The codes are distinct and new, and the
aliases are appended in order. -/
theorem enterAll_eq (dictionary : Dictionary) (parameters : List Parameter) (ledger : Ledger)
    (hkeys : ∀ code ∈ ledger.aliases.keys, code ∈ ledger.issued) :
    (issues dictionary parameters ledger).map (·.parameter) = parameters ∧
      (∀ issue ∈ issues dictionary parameters ledger, 1 ≤ issue.number) ∧
      (∀ issue ∈ issues dictionary parameters ledger, issue.code ∉ ledger.issued) ∧
      ((issues dictionary parameters ledger).map Issue.code).Nodup ∧
      (enterAll dictionary parameters ledger).1 = (issues dictionary parameters ledger).map
        (fun issue => issue.parameter.field dictionary issue.code) ∧
      (enterAll dictionary parameters ledger).2.aliases =
        ledger.aliases ++ (issues dictionary parameters ledger).filterMap Issue.alias? := by
  induction parameters generalizing ledger with
  | nil => exact ⟨rfl, by simp [issues], by simp [issues], List.nodup_nil, rfl,
      (List.append_nil _).symm⟩
  | cons parameter rest ih =>
      obtain ⟨hnumber, hnew, hfield, haliases, hissued⟩ :=
        enter_eq dictionary parameter ledger hkeys
      obtain ⟨hparameters, hnumbers, hcodes, hnodup, hfields, htable⟩ :=
        ih _ (keys_enter dictionary parameter ledger hkeys)
      -- Later codes are new to a ledger that has already issued this one.
      have hlater : ∀ later ∈ issues dictionary rest (parameter.enter dictionary ledger).2,
          later.code ≠ (parameter.issue ledger).code ∧ later.code ∉ ledger.issued := by
        intro later hmem
        have := hcodes later hmem
        rwa [hissued, List.mem_cons, not_or] at this
      rw [issues]
      refine ⟨?_, ?_, ?_, ?_, ?_, ?_⟩
      · rw [List.map_cons, hparameters]
        rfl
      · exact List.forall_mem_cons.mpr ⟨hnumber, hnumbers⟩
      · exact List.forall_mem_cons.mpr ⟨hnew, fun later hmem => (hlater later hmem).2⟩
      · rw [List.map_cons, List.nodup_cons]
        refine ⟨fun hmem => ?_, hnodup⟩
        obtain ⟨later, hlatermem, heq⟩ := List.mem_map.mp hmem
        exact (hlater later hlatermem).1 heq
      · rw [List.map_cons, ← hfields]
        rfl
      · rw [List.filterMap_cons]
        change (enterAll dictionary rest (parameter.enter dictionary ledger).2).2.aliases = _
        rw [htable, haliases, List.append_assoc]
        cases (parameter.issue ledger).alias? <;> rfl

/-- Parameters whose raw codes are distinct and new keep them. -/
theorem number_eq_one_of_mem_issues {dictionary : Dictionary} {parameters : List Parameter}
    {ledger : Ledger} (hnodup : (parameters.map (·.rawCode)).Nodup)
    (hnew : ∀ parameter ∈ parameters, parameter.rawCode ∉ ledger.issued ∧
      ledger.counters.get? parameter.rawCode = none) :
    ∀ issue ∈ issues dictionary parameters ledger, issue.number = 1 := by
  induction parameters generalizing ledger with
  | nil => simp [issues]
  | cons parameter rest ih =>
      rw [List.map_cons, List.nodup_cons] at hnodup
      obtain ⟨⟨hissued, hcounter⟩, hlater⟩ := List.forall_mem_cons.mp hnew
      have hone : ledger.nextNumber parameter.rawCode = 1 :=
        Ledger.nextNumber_eq_one hissued hcounter
      rw [issues]
      refine List.forall_mem_cons.mpr ⟨hone, ih hnodup.2 fun later hmem => ?_⟩
      obtain ⟨hfree, hnone⟩ := hlater later hmem
      have hne : later.rawCode ≠ parameter.rawCode :=
        fun heq => hnodup.1 (heq ▸ List.mem_map_of_mem hmem)
      -- The code of this parameter is its raw code, which differs from the later one.
      have hcode : Ledger.candidate parameter.rawCode 1 = parameter.rawCode :=
        Ledger.candidate_eq_raw_iff.mpr rfl
      have hledger : (parameter.enter dictionary ledger).2.issued =
          parameter.rawCode :: ledger.issued ∧
          (parameter.enter dictionary ledger).2.counters =
            ledger.counters.set parameter.rawCode 1 := by
        rw [enter, Ledger.issue, hone]
        dsimp only
        rw [hcode]
        cases parameter.markerKey <;> exact ⟨rfl, rfl⟩
      rw [hledger.1, hledger.2, Table.get?_set_of_ne hne, List.mem_cons, not_or]
      exact ⟨⟨hne, hfree⟩, hnone⟩

/-- Extracts the parameters of texts one after the other with one ledger. -/
def extractEach (dictionary : Dictionary) : List Text → Ledger → List Field × Ledger
  | [], ledger => ([], ledger)
  | text :: rest, ledger =>
    let (fields, ledger) := extract dictionary text ledger
    let (others, ledger) := extractEach dictionary rest ledger
    (fields ++ others, ledger)

theorem extractEach_eq_enterAll (dictionary : Dictionary) (texts : List Text) (ledger : Ledger) :
    extractEach dictionary texts ledger =
      enterAll dictionary (texts.flatMap all) ledger := by
  induction texts generalizing ledger with
  | nil => rfl
  | cons text rest ih => rw [List.flatMap_cons, enterAll_append, extractEach, ← ih, extract]

end Parameter

/-- What the codes of fields and their aliases have to do with the parameters of the fields. -/
structure Coded (parameters : List Parameter) (fields : List Field) (aliases : Table Text) :
    Prop where
  codes_nodup : (fields.map (·.code)).Nodup
  keys_sublist : aliases.keys.Sublist (fields.map (·.code))
  length_eq : fields.length =
    aliases.length + fields.countP fun field => (aliases.get? field.code).isNone
  /-- The code and the alias of a field have one suffix. -/
  suffixed : List.Forall₂ (fun parameter field => ∃ suffix : Text,
    (suffix = [] ∨ ∃ number, 2 ≤ number ∧ suffix = '_' :: Text.ofNat number) ∧
    field.code = parameter.rawCode ++ suffix ∧
    aliases.get? field.code = parameter.markerKey.map (· ++ suffix)) parameters fields

theorem Ledger.suffix_shape {number : Nat} (h : 1 ≤ number) :
    suffix number = [] ∨ ∃ later, 2 ≤ later ∧ suffix number = '_' :: Text.ofNat later := by
  rcases Nat.eq_or_lt_of_le h with rfl | htwo
  · exact Or.inl rfl
  · exact Or.inr ⟨number, htwo, suffix_of_two_le htwo⟩

/-- Parameters entered into an empty ledger are coded. -/
theorem Parameter.enterAll_coded (dictionary : Dictionary) (parameters : List Parameter) :
    Coded parameters (enterAll dictionary parameters {}).1
      (enterAll dictionary parameters {}).2.aliases := by
  obtain ⟨hparameters, hnumbers, -, hnodup, hfields, haliases⟩ :=
    enterAll_eq dictionary parameters {} (by simp [Table.keys])
  generalize issues dictionary parameters {} = issues at *
  subst hparameters
  rw [List.nil_append] at haliases
  rw [hfields, haliases]
  have hcodes : (issues.map fun issue => issue.parameter.field dictionary issue.code).map
      (·.code) = issues.map Issue.code := by
    rw [List.map_map]
    rfl
  refine ⟨hcodes ▸ hnodup, hcodes ▸ Issue.keys_filterMap_sublist issues, ?_, ?_⟩
  · have hnone : issues.countP (fun issue =>
        (Table.get? issue.code (issues.filterMap Issue.alias?)).isNone) =
        issues.countP fun issue => ¬ issue.alias?.isSome := by
      refine List.countP_congr fun issue hissue => ?_
      rw [Issue.get?_filterMap hnodup hissue]
      simp
    rw [List.length_map, List.length_filterMap_eq_countP, List.countP_map]
    change _ = _ + issues.countP fun issue =>
      (Table.get? issue.code (issues.filterMap Issue.alias?)).isNone
    rw [hnone]
    exact List.length_eq_countP_add_countP _
  · rw [List.forall₂_map_left_iff, List.forall₂_map_right_iff, List.forall₂_same]
    intro issue hissue
    refine ⟨Ledger.suffix issue.number, Ledger.suffix_shape (hnumbers issue hissue), rfl, ?_⟩
    change Table.get? issue.code _ = _
    rw [Issue.get?_filterMap hnodup hissue, Issue.alias?, Option.map_map]
    rfl

/-- The fields of a form are coded by the parameters of the retained blocks, and the fields of any
texts that are extracted with one new ledger by the parameters of these texts. -/
theorem extraction_coded :
    (∀ template dictionary : Text, ∀ excluded roles : List Text,
      Coded (Block.leaves (Block.retained excluded (Block.all roles template)))
        (fieldsOf (Form.extract template dictionary excluded roles).nodes)
        (Form.extract template dictionary excluded roles).aliases) ∧
    ∀ (dictionary : Dictionary) (texts : List Text),
      Coded (texts.flatMap Parameter.all) (Parameter.extractEach dictionary texts {}).1
        (Parameter.extractEach dictionary texts {}).2.aliases := by
  constructor
  · intro template dictionary excluded roles
    have hblocks := enterBlocks_eq_enterAll (Dictionary.read dictionary)
      (Block.retained excluded (Block.all roles template)) {}
    have hcoded := Parameter.enterAll_coded (Dictionary.read dictionary)
      (Block.leaves (Block.retained excluded (Block.all roles template)))
    rw [← hblocks] at hcoded
    exact hcoded
  · intro dictionary texts
    rw [Parameter.extractEach_eq_enterAll]
    exact Parameter.enterAll_coded dictionary _

end FormFill

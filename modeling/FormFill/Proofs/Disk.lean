import FormFill.Disk
import FormFill.Proofs.Text

/-!
# Changes to a disk

Writing or removing a file changes what stands at one path, which is not the path of a folder. So all
folders stay, every location leads where it led, and what stands at the other paths is read as before.
Making folders puts folders where nothing was, and changes nothing else.
-/

namespace FormFill

/-- The text of a location begins the text of a member. -/
theorem Location.text_prefix_child {folder : Location} (hparts : folder.parts ≠ []) (name : Text) :
    folder.text <+: (folder.child name).text := by
  obtain ⟨parts⟩ := folder
  cases parts with
  | nil => exact absurd rfl hparts
  | cons first rest =>
      cases hfirst : isRoot first with
      | true =>
          simp only [text, child, List.cons_append, hfirst, if_true]
          exact (List.prefix_append_right_inj first).mpr (Text.joined_prefix _ rest name)
      | false =>
          simp only [text, child, List.cons_append, hfirst, Bool.false_eq_true, if_false]
          exact Text.joined_prefix _ (first :: rest) name

namespace Disk

variable {disk before after : Disk} {path other : List Text} {location : Location}

/-! ## Entries -/

theorem lookup_filter_of_ne (hne : other ≠ path) (entries : List (List Text × DiskEntry)) :
    (entries.filter (·.1 != path)).lookup other = entries.lookup other := by
  induction entries with
  | nil => rfl
  | cons first rest ih =>
      obtain ⟨here, entry⟩ := first
      by_cases hhere : here = path
      · subst hhere
        simp [ih, List.lookup_cons, beq_eq_false_iff_ne.mpr hne]
      · simp [ih, hhere, List.lookup_cons]

theorem lookup_filter_self (path : List Text) (entries : List (List Text × DiskEntry)) :
    (entries.filter (·.1 != path)).lookup path = none := by
  induction entries with
  | nil => rfl
  | cons first rest ih =>
      obtain ⟨here, entry⟩ := first
      by_cases hhere : here = path
      · simp [hhere, ih]
      · simp [hhere, ih, List.lookup_cons, beq_eq_false_iff_ne.mpr (Ne.symm hhere)]

/-- Unless a folder is given there, nothing stands where something has been removed. -/
theorem get?_erase_self (hpath : isGiven path = false) (disk : Disk) :
    (disk.erase path).get? path = none := by
  simp [erase, get?, hpath, lookup_filter_self]

/-- Removing what stands at a path leaves the other paths as they are. -/
theorem get?_erase_of_ne (hne : other ≠ path) (disk : Disk) :
    (disk.erase path).get? other = disk.get? other := by
  simp [erase, get?, lookup_filter_of_ne hne]

theorem isGiven_eq_false (hpath : disk.get? path ≠ some .folder) : isGiven path = false := by
  cases hgiven : isGiven path with
  | false => rfl
  | true => simp [get?, hgiven] at hpath

/-! ## Changes -/

/-- A change of what stands at one path, where no folder was. -/
structure ChangesOnly (path : List Text) (before after : Disk) : Prop where
  wasNoFolder : before.get? path ≠ some .folder
  elsewhere : ∀ other, other ≠ path → after.get? other = before.get? other

theorem changesOnly_refl (hpath : disk.get? path ≠ some .folder) : ChangesOnly path disk disk :=
  ⟨hpath, fun _ _ => rfl⟩

theorem changesOnly_set (hpath : disk.get? path ≠ some .folder) (entry : DiskEntry) :
    ChangesOnly path disk (disk.set path entry) :=
  ⟨hpath, fun _ hne => get?_set_of_ne hne disk entry⟩

theorem changesOnly_erase (hpath : disk.get? path ≠ some .folder) :
    ChangesOnly path disk (disk.erase path) :=
  ⟨hpath, fun _ hne => get?_erase_of_ne hne disk⟩

namespace ChangesOnly

theorem folder (h : ChangesOnly path before after) (hother : before.get? other = some .folder) :
    after.get? other = some .folder := by
  have hne : other ≠ path := by
    rintro rfl
    exact h.wasNoFolder hother
  rw [h.elsewhere other hne, hother]

/-- All on the way are folders, so the way is the same. -/
theorem walk (h : ChangesOnly path before after) {start target : List Text} {parts : List Text}
    (hwalk : before.walk start parts = .ok target) : after.walk start parts = .ok target := by
  induction parts generalizing start with
  | nil => exact hwalk
  | cons part rest ih =>
      rw [Disk.walk] at hwalk ⊢
      split at hwalk
      next hfolder =>
        rw [h.folder hfolder]
        split at hwalk
        next => cases hwalk
        next hlength =>
          simp only [if_neg hlength]
          exact ih hwalk
      next => cases hwalk
      next => cases hwalk

/-- A location leads where it led before. -/
theorem resolve (h : ChangesOnly path before after) {target : List Text}
    (hresolve : before.resolve location = .ok target) : after.resolve location = .ok target := by
  unfold Disk.resolve at hresolve ⊢
  split at hresolve
  next => cases hresolve
  next hname =>
    split at hresolve
    next => cases hresolve
    next hlength =>
      rw [if_neg hname, if_neg hlength]
      exact h.walk hresolve

end ChangesOnly

/-! ## Reading and writing -/

theorem read_eq_ok (hpath : disk.resolve location = .ok path) {bytes : List UInt8}
    (hfile : disk.get? path = some (.file bytes)) : disk.read location = .ok bytes := by
  simp [read, hpath, hfile]

theorem read_eq_missing (hpath : disk.resolve location = .ok path)
    (hnone : disk.get? path = none) :
    disk.read location = .error { problem := .missing, location } := by
  simp [read, hpath, hnone]

/-- A change at another path is not seen at a location. -/
theorem ChangesOnly.read_eq_of_ne (h : ChangesOnly path before after)
    (hresolve : before.resolve location = .ok other) (hne : other ≠ path) :
    after.read location = before.read location := by
  simp only [read, hresolve, h.resolve hresolve, h.elsewhere other hne]

/-- Replacing a file writes the new content, unless a folder is in the way. -/
theorem replace_eq {draft : List Text} (hdraft : disk.resolve (temporary location) = .ok draft)
    (hpath : disk.resolve location = .ok path) (hfile : disk.get? path ≠ some .folder)
    (bytes : List UInt8) :
    disk.replace location bytes = (disk.set path (.file bytes), none) := by
  unfold replace
  simp only [hdraft, hpath]

/-- Removing a file leaves nothing where it was, and goes through without one. -/
theorem exists_remove (hpath : disk.resolve location = .ok path)
    (hfile : disk.get? path ≠ some .folder) :
    ∃ after, disk.remove location = (after, none) ∧ after.get? path = none ∧
      ChangesOnly path disk after := by
  unfold remove
  simp only [hpath]
  split
  next hnone => exact ⟨disk, rfl, hnone, changesOnly_refl hfile⟩
  next hfolder => exact absurd hfolder hfile
  next =>
    exact ⟨disk.erase path, rfl, get?_erase_self (isGiven_eq_false hfile) disk,
      changesOnly_erase hfile⟩

/-! ## Members of a folder -/

/-- A way that ends with a part enters that part last, from a folder. -/
theorem exists_enter_of_walk {start : List Text} {parts : List Text} {last : Text}
    (hwalk : disk.walk start (parts ++ [last]) = .ok path) :
    ∃ around, disk.walk start parts = .ok around ∧ disk.get? around = some .folder ∧
      path = enter around last := by
  induction parts generalizing start with
  | nil =>
      rw [List.nil_append, walk] at hwalk
      split at hwalk
      next hfolder =>
        split at hwalk
        next => cases hwalk
        next => exact ⟨start, rfl, hfolder, (Except.ok.inj hwalk).symm⟩
      next => cases hwalk
      next => cases hwalk
  | cons part rest ih =>
      rw [List.cons_append, walk] at hwalk
      rw [walk]
      split at hwalk
      next =>
        split at hwalk
        next => cases hwalk
        next hlength =>
          simp only [if_neg hlength]
          exact ih hwalk
      next => cases hwalk
      next => cases hwalk

theorem origin_child (folder : Location) {name : Text} (hname : Location.isRoot name = false) :
    (folder.child name).origin = (folder.origin.1, folder.origin.2 ++ [name]) := by
  obtain ⟨parts⟩ := folder
  cases parts with
  | nil => simp [Location.origin, Location.child, hname]
  | cons first rest =>
      cases hfirst : Location.isRoot first <;> simp [Location.origin, Location.child, hfirst]

/-- A location leads on from its origin. -/
theorem walk_of_resolve (hresolve : disk.resolve location = .ok path) :
    location.text.contains '\x00' = false ∧ (Utf8.encode location.text).length ≤ textLimit ∧
      disk.walk location.origin.1 location.origin.2 = .ok path := by
  unfold resolve at hresolve
  split at hresolve
  next => cases hresolve
  next hnull =>
    split at hresolve
    next => cases hresolve
    next hlength => exact ⟨Bool.eq_false_iff.mpr hnull, Nat.not_lt.mp hlength, hresolve⟩

/-- The location of a member of a folder leads to a path that ends with the name of the member. -/
theorem exists_resolve_child {folder : Location} {name : Text}
    (hroot : Location.isRoot name = false) (hup : name ≠ upward)
    (hresolve : disk.resolve (folder.child name) = .ok path) : ∃ around, path = around ++ [name] := by
  obtain ⟨-, -, hwalk⟩ := walk_of_resolve hresolve
  rw [origin_child folder hroot] at hwalk
  obtain ⟨around, -, -, rfl⟩ := exists_enter_of_walk hwalk
  exact ⟨around, by simp [enter, hup]⟩

/-- If the location of a member leads anywhere, the location of the folder leads to a folder. -/
theorem exists_folder_of_resolve_child {folder : Location} {name : Text}
    (hroot : Location.isRoot name = false)
    (hresolve : disk.resolve (folder.child name) = .ok path) :
    ∃ around, disk.resolve folder = .ok around ∧ disk.get? around = some .folder := by
  obtain ⟨hnull, hlength, hwalk⟩ := walk_of_resolve hresolve
  rw [origin_child folder hroot] at hwalk
  obtain ⟨around, haround, hfolder, -⟩ := exists_enter_of_walk hwalk
  refine ⟨around, ?_, hfolder⟩
  by_cases hparts : folder.parts = []
  · obtain ⟨parts⟩ := folder
    subst hparts
    exact haround
  · obtain ⟨more, hmore⟩ := Location.text_prefix_child hparts name
    have hshort : (Utf8.encode folder.text).length ≤ textLimit := by
      rw [← hmore, Utf8.encode, List.flatMap_append, List.length_append] at hlength
      exact Nat.le_of_add_right_le hlength
    have hname : folder.text.contains '\x00' = false := by
      rw [← hmore] at hnull
      simp only [List.contains_eq_mem, decide_eq_false_iff_not, List.mem_append, not_or] at hnull ⊢
      exact hnull.1
    rw [resolve, hname, if_neg Bool.false_ne_true, if_neg (Nat.not_lt.mpr hshort), haround]

/-- A name in the working folder leads to what has that name there. -/
theorem resolve_name (disk : Disk) {name : Text} (hroot : Location.isRoot name = false)
    (hup : name ≠ upward) (hnull : name.contains '\x00' = false)
    (hlength : (Utf8.encode name).length ≤ nameLimit) : disk.resolve ⟨[name]⟩ = .ok [name] := by
  have htext : (⟨[name]⟩ : Location).text = name := by simp [Location.text, hroot, Text.joined]
  have horigin : (⟨[name]⟩ : Location).origin = ([], [name]) := by simp [Location.origin, hroot]
  have hshort : ¬ textLimit < (Utf8.encode name).length := by
    simp only [nameLimit, textLimit] at hlength ⊢
    omega
  have hfolder : disk.get? [] = some .folder := by simp [get?, isGiven]
  rw [resolve, htext, hnull, if_neg Bool.false_ne_true, if_neg hshort, horigin, walk, hfolder]
  simp only [if_neg (Nat.not_lt.mpr hlength)]
  simp [walk, enter, hup]

/-! ## Making folders -/

section

variable {middle : Disk}

/-- A change that does no more than to put folders where nothing was. -/
def AddsFolders (before after : Disk) : Prop :=
  ∀ path, after.get? path = before.get? path ∨
    before.get? path = none ∧ after.get? path = some .folder

theorem AddsFolders.trans (hfirst : AddsFolders before middle) (hsecond : AddsFolders middle after) :
    AddsFolders before after := by
  intro path
  rcases hsecond path with hsame | ⟨hnone, hfolder⟩
  · rw [hsame]
    exact hfirst path
  · rcases hfirst path with hsame | ⟨-, hmade⟩
    · exact Or.inr ⟨hsame ▸ hnone, hfolder⟩
    · rw [hmade] at hnone
      cases hnone

theorem addsFolders_makeOne {location : Location} (h : before.makeOne location = .ok after) :
    AddsFolders before after := by
  unfold makeOne at h
  split at h
  next => cases h
  next path _ =>
    split at h
    next => cases h
    next hnone =>
      obtain rfl := Except.ok.inj h
      intro other
      by_cases heq : other = path
      · subst heq
        have hfree : before.get? other ≠ some .folder := by simp [hnone]
        exact Or.inr ⟨hnone, get?_set_self (isGiven_eq_false hfree) before .folder⟩
      · exact Or.inl (get?_set_of_ne heq before .folder)

theorem addsFolders_makeOrKeep {location : Location} (h : before.makeOrKeep location = .ok after) :
    AddsFolders before after := by
  unfold makeOrKeep at h
  split at h
  next hmade =>
    obtain rfl := Except.ok.inj h
    exact addsFolders_makeOne hmade
  next =>
    split at h
    next =>
      obtain rfl := Except.ok.inj h
      exact fun _ => Or.inl rfl
    next => cases h

theorem addsFolders_makeAll {fuel : Nat} {location : Location}
    (h : makeAll fuel before location = .ok after) : AddsFolders before after := by
  induction fuel generalizing after location with
  | zero => exact addsFolders_makeOrKeep h
  | succ fuel ih =>
      rw [makeAll] at h
      split at h
      next =>
        cases haround : makeAll fuel before location.parent with
        | error fault => simp [haround, bind, Except.bind] at h
        | ok middle =>
            simp only [haround, bind, Except.bind] at h
            exact (ih haround).trans (addsFolders_makeOrKeep h)
      next => exact addsFolders_makeOrKeep h

end

end Disk

end FormFill

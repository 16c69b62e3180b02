import FormFill.Proofs.Yaml.Node
import FormFill.Proofs.Yaml.StandIn

/-!
# Faults of data

A document whose tokens make up nodes is at fault if it breaks the rules, if the text of a scalar does not
denote what the tag of a node says, or if what a mapping stands for leads back to the mapping. Merging keys
are resolved before the scalars are looked at; that fills mappings anew with entries that other mappings have,
and leaves the texts and the tags of scalars as they are. So a fault that reading comes to is a breach of the
rules, or a token, a text or a mapping that stands in the document.
-/

namespace FormFill.Yaml

open Relation

section

variable {α β : Type} {faults : Fault → Prop}

theorem Ends.foldlM {results : β → Prop} {step : β → α → Except Fault β} {items : List α}
    (hstep : ∀ item state, results state → Ends faults results (step state item)) {state : β}
    (hstate : results state) : Ends faults results (items.foldlM step state) := by
  induction items generalizing state with
  | nil => exact hstate
  | cons item items ih => exact (hstep item state hstate).bind fun _ hnext => ih hnext

theorem Ends.mapM {step : α → Except Fault β} {items : List α}
    (hstep : ∀ item, Ends faults (fun _ => True) (step item)) :
    Ends faults (fun _ => True) (items.mapM step) := by
  induction items with
  | nil => trivial
  | cons item items ih =>
      rw [List.mapM_cons]
      exact (hstep item).bind fun _ _ => ih.bind fun _ _ => trivial

theorem error_of_bind_pure {step : Except Fault α} {next : α → β} {fault : Fault}
    (h : (step >>= fun result => pure (next result)) = .error fault) : step = .error fault := by
  cases step with
  | ok result => cases h
  | error other =>
      cases h
      rfl

end

/-! ## Scalars -/

/-- A text that does not denote what its tag says, and the fault that says so. -/
inductive Misdenotes : Tag → Text → Fault → Prop where
  | bool {text : Text} (h : Graph.bool? text = none) :
    Misdenotes .bool text (.notABool (Text.lowered text))
  | integer {text : Text} {fault : Fault} (h : Number.integer text = .error fault) :
    Misdenotes .integer text fault
  | real {text : Text} {fault : Fault} (h : Number.real text = .error fault) :
    Misdenotes .real text fault
  | moment {text : Text} {fault : Fault} (h : Graph.moment text = .error fault) :
    Misdenotes .moment text fault

namespace Graph

variable {graph : Graph}

/-- A scalar of a graph that does not denote what the tag of a node says, or a mapping that denotes no text. A
mapping may stand for one of the scalars in it. -/
inductive Misreads (graph : Graph) : Fault → Prop where
  | scalar {id : Nat} {text : Text} {fault : Fault} (hcontent : graph.contentOf id = .scalar text)
    (h : Misdenotes (graph.tagOf id) text fault) : Misreads graph fault
  | standIn {id value : Nat} {entries : List (Nat × Nat)} {text : Text} {fault : Fault}
    (hcontent : graph.contentOf id = .mapping entries) (hvalue : graph.contentOf value = .scalar text)
    (h : Misdenotes (graph.tagOf id) text fault) : Misreads graph fault
  | notAText {id : Nat} {entries : List (Nat × Nat)} (hcontent : graph.contentOf id = .mapping entries)
    (htag : graph.tagOf id = .moment) : Misreads graph .notAText
  | endless {id value : Nat} (hvalue : graph.StandsFor id value)
    (hback : ReflTransGen graph.LeadsTo value id) : Misreads graph .endlessText

/-- Whether a node is a mapping. -/
def IsMapping (graph : Graph) (id : Nat) : Prop := ∃ entries, graph.contentOf id = .mapping entries

/-- A fault that comes of a graph: a breach of the rules, or a scalar that does not denote what it
should. -/
def Explains (graph : Graph) (fault : Fault) : Prop := fault = .malformed ∨ graph.Misreads fault

/-- The text of a node that has to be a scalar stands in a scalar, which the node is unless it is a
mapping. -/
theorem ends_search (fuel id : Nat) :
    Ends (fun fault => fault = .malformed ∨ fault = .endlessText)
      (fun text => ∃ value, graph.contentOf value = .scalar text ∧
        (value = id ∨ graph.IsMapping id)) (graph.scalarText fuel id) := by
  induction fuel generalizing id with
  | zero => exact Or.inr rfl
  | succ fuel ih =>
      unfold scalarText
      cases hcontent : graph.contentOf id with
      | scalar text => exact ⟨id, hcontent, Or.inl rfl⟩
      | sequence items => exact Or.inl rfl
      | mapping entries =>
          dsimp only
          split
          · refine (ih _).imp fun text htext => ?_
            obtain ⟨value, hvalue, -⟩ := htext
            exact ⟨value, hvalue, Or.inr ⟨entries, hcontent⟩⟩
          · exact Or.inl rfl

/-- A search that is given more steps than there are nodes is without end only if a mapping leads back to
itself. -/
theorem ends_scalarText (graph : Graph) (id : Nat) :
    Ends graph.Explains (fun text => ∃ value, graph.contentOf value = .scalar text ∧
      (value = id ∨ graph.IsMapping id)) (graph.scalarText (graph.size + 1) id) := by
  have hsearch := @ends_search graph (graph.size + 1) id
  cases htext : graph.scalarText (graph.size + 1) id with
  | ok text =>
      rw [htext] at hsearch
      exact hsearch
  | error fault =>
      rcases hsearch.fault htext with rfl | rfl
      · exact Or.inl rfl
      · obtain ⟨node, hloop⟩ := exists_loop_of_scalarText List.nodup_nil (by simp) (by simp) htext
        obtain ⟨value, hvalue, hback⟩ := exists_leadsTo_back hloop
        exact Or.inr (.endless hvalue hback)

/-- A text that does not denote what the tag of its node says explains a fault. -/
theorem Explains.of_text {id value : Nat} {text : Text} {fault : Fault}
    (hvalue : graph.contentOf value = .scalar text)
    (hid : value = id ∨ graph.IsMapping id)
    (h : Misdenotes (graph.tagOf id) text fault) : graph.Explains fault := by
  rcases hid with rfl | ⟨entries, hentries⟩
  · exact Or.inr (.scalar hvalue h)
  · exact Or.inr (.standIn hentries hvalue h)

/-- What is done with the text of a node comes to a fault only if it does not denote what the tag of the
node says. -/
theorem ends_denoting {α : Type} {id : Nat} {denote : Text → Except Fault α}
    (h : ∀ text fault, denote text = .error fault →
      fault = .malformed ∨ Misdenotes (graph.tagOf id) text fault) :
    Ends graph.Explains (fun _ => True) (graph.scalarText (graph.size + 1) id >>= denote) := by
  refine (ends_scalarText graph id).bind fun text htext => ?_
  obtain ⟨value, hvalue, hid⟩ := htext
  cases hdenote : denote text with
  | ok result => trivial
  | error fault =>
      rcases h text fault hdenote with hmalformed | hmisdenotes
      · exact Or.inl hmalformed
      · exact .of_text hvalue hid hmisdenotes

/-- A node with the tag of a scalar denotes a datum, or its text explains why it does not. -/
theorem ends_scalarDatum (graph : Graph) (id : Nat) :
    Ends graph.Explains (fun _ => True) (graph.scalarDatum id) := by
  unfold scalarDatum
  dsimp only
  split
  next => exact ends_denoting fun text fault hfault => by cases hfault
  next htag =>
    refine ends_denoting fun text fault hfault => Or.inr ?_
    rw [htag]
    split at hfault
    · cases hfault
    next hbool =>
      cases hfault
      exact .bool hbool
  next htag =>
    exact ends_denoting fun text fault hfault => Or.inr (htag ▸ .integer (error_of_bind_pure hfault))
  next htag =>
    exact ends_denoting fun text fault hfault => Or.inr (htag ▸ .real (error_of_bind_pure hfault))
  next =>
    refine ends_denoting fun text fault hfault => Or.inl ?_
    split at hfault <;> cases hfault
    rfl
  next htag =>
    split
    next hcontent =>
      exact (ends_scalarText _ _).bind fun _ _ => Or.inr (.notAText hcontent htag)
    next =>
      exact ends_denoting fun text fault hfault => Or.inr (htag ▸ .moment (error_of_bind_pure hfault))
  next => exact ends_denoting fun text fault hfault => by cases hfault
  next => exact Or.inl rfl

/-! ## Merging -/

/-- One graph comes of another by resolving merging keys: scalars and their tags stay, and so do sequences.
What was a mapping is one, with entries that it had or took over. -/
structure Resolves (start graph : Graph) : Prop where
  scalar : ∀ id text, graph.contentOf id = .scalar text ↔ start.contentOf id = .scalar text
  sequence : ∀ id items, graph.contentOf id = .sequence items ↔ start.contentOf id = .sequence items
  mapping : ∀ id, graph.IsMapping id ↔ start.IsMapping id
  entries : ∀ id, ∀ entry ∈ graph.entriesOf id, start.Stems id entry
  tag : ∀ id, graph.tagOf id = start.tagOf id ∨ start.tagOf id = .defaultKey ∧ graph.tagOf id = .text

theorem Resolves.refl (graph : Graph) : Resolves graph graph :=
  ⟨fun _ _ => Iff.rfl, fun _ _ => Iff.rfl, fun _ => Iff.rfl, fun _ _ => .of_mem, fun _ => Or.inl rfl⟩

variable {start : Graph}

/-- The tags of keys that are looked for have not changed. -/
theorem Resolves.tag_eq (h : Resolves start graph) {key : Nat} {tag : Tag} (hkey : graph.tagOf key = tag)
    (htag : tag ≠ .text) : start.tagOf key = tag := by
  rcases h.tag key with hsame | ⟨-, htext⟩
  · rw [← hsame, hkey]
  · exact absurd (hkey.symm.trans htext) htag

/-- What a mapping stands for is the value of a default key that it had or took over. -/
theorem Resolves.standsFor (h : Resolves start graph) {id value : Nat} (hvalue : graph.StandsFor id value) :
    ∃ source, ReflTransGen start.TakesOver id source ∧ start.StandsFor source value := by
  obtain ⟨key, hmem, hkey⟩ := hvalue
  obtain ⟨source, hsource, hentry⟩ := h.entries id _ hmem
  exact ⟨source, hsource, key, hentry, h.tag_eq hkey nofun⟩

/-- So is what it takes over the value of a merging key. -/
theorem Resolves.takesOver (h : Resolves start graph) {id other : Nat} (hother : graph.TakesOver id other) :
    ReflTransGen start.TakesOver id other := by
  obtain ⟨key, value, hmem, hkey, hvalue⟩ := hother
  obtain ⟨source, hsource, hentry⟩ := h.entries id _ hmem
  refine hsource.tail ⟨key, value, hentry, h.tag_eq hkey nofun, hvalue.imp_right ?_⟩
  rintro ⟨items, hitems, hitem⟩
  exact ⟨items, (h.sequence value items).mp hitems, hitem⟩

theorem Resolves.leadsTo (h : Resolves start graph) {id other : Nat}
    (hother : ReflTransGen graph.LeadsTo id other) : ReflTransGen start.LeadsTo id other := by
  induction hother with
  | refl => exact .refl
  | tail _ hlast ih =>
      refine ih.trans ?_
      rcases hlast with hstands | htakes
      · obtain ⟨source, hsource, hvalue⟩ := h.standsFor hstands
        exact (TakesOver.leadsTo hsource).tail (Or.inl hvalue)
      · exact TakesOver.leadsTo (h.takesOver htakes)

/-- A text that does not denote what it should stood in the graph from the beginning. -/
theorem Resolves.misdenotes (h : Resolves start graph) {id : Nat} {text : Text} {fault : Fault}
    (hfault : Misdenotes (graph.tagOf id) text fault) : Misdenotes (start.tagOf id) text fault := by
  rcases h.tag id with htag | ⟨-, htag⟩
  · rwa [← htag]
  · rw [htag] at hfault
    cases hfault

theorem Resolves.explains (h : Resolves start graph) {fault : Fault} (hfault : graph.Explains fault) :
    start.Explains fault := by
  rcases hfault with hmalformed | hmisreads
  · exact Or.inl hmalformed
  · refine Or.inr ?_
    cases hmisreads with
    | @scalar id text _ hcontent hdenotes =>
        exact .scalar ((h.scalar id text).mp hcontent) (h.misdenotes hdenotes)
    | @standIn id value entries text _ hcontent hvalue hdenotes =>
        obtain ⟨entries', hentries⟩ := (h.mapping id).mp ⟨entries, hcontent⟩
        exact .standIn hentries ((h.scalar value text).mp hvalue) (h.misdenotes hdenotes)
    | @notAText id entries hcontent htag =>
        obtain ⟨entries', hentries⟩ := (h.mapping id).mp ⟨entries, hcontent⟩
        rcases h.tag id with hsame | ⟨-, hother⟩
        · exact .notAText hentries (hsame ▸ htag)
        · rw [hother] at htag
          cases htag
    | endless hvalue hback =>
        -- The circle goes through the mapping from which the default key was taken over.
        obtain ⟨source, hsource, hstands⟩ := h.standsFor hvalue
        exact .endless hstands ((h.leadsTo hback).trans (TakesOver.leadsTo hsource))

theorem contentOf_fill (graph : Graph) (id other : Nat) (content : Content) :
    (graph.fill id content).contentOf other =
      if id = other ∧ other < graph.size then content else graph.contentOf other := by
  simp only [contentOf, fill, Array.getElem?_modify]
  by_cases hid : id = other
  · by_cases hsize : other < graph.size
    · simp [hid, hsize]
    · simp [hid, hsize]
  · simp [hid]

theorem tagOf_fill (graph : Graph) (id other : Nat) (content : Content) :
    (graph.fill id content).tagOf other = graph.tagOf other := by
  simp only [tagOf, fill, Array.getElem?_modify]
  split_ifs
  · cases graph[other]? <;> rfl
  · rfl

theorem contentOf_retag (graph : Graph) (id other : Nat) (tag : Tag) :
    (graph.retag id tag).contentOf other = graph.contentOf other := by
  simp only [contentOf, retag, Array.getElem?_modify]
  split_ifs
  · cases graph[other]? <;> rfl
  · rfl

theorem tagOf_retag (graph : Graph) (id other : Nat) (tag : Tag) :
    (graph.retag id tag).tagOf other =
      if id = other ∧ other < graph.size then tag else graph.tagOf other := by
  simp only [tagOf, retag, Array.getElem?_modify]
  by_cases hid : id = other
  · by_cases hsize : other < graph.size
    · simp [hid, hsize]
    · simp [hid, hsize]
  · simp [hid]

theorem Resolves.fill (h : Resolves start graph) {id : Nat} (hid : start.IsMapping id)
    {entries : List (Nat × Nat)} (hentries : ∀ entry ∈ entries, start.Stems id entry) :
    Resolves start (graph.fill id (.mapping entries)) := by
  obtain ⟨others, hothers⟩ := (h.mapping id).mpr hid
  refine ⟨fun other text => ?_, fun other items => ?_, fun other => ?_, fun other => ?_, fun other => ?_⟩
  · rw [← h.scalar, contentOf_fill]
    split_ifs with hother
    · simp [← hother.1, hothers]
    · rfl
  · rw [← h.sequence, contentOf_fill]
    split_ifs with hother
    · simp [← hother.1, hothers]
    · rfl
  · rw [← h.mapping, IsMapping, IsMapping, contentOf_fill]
    split_ifs with hother
    · simp [← hother.1, hothers]
    · rfl
  · rw [entriesOf, contentOf_fill]
    split_ifs with hother
    · exact hother.1 ▸ hentries
    · exact h.entries other
  · rw [tagOf_fill]
    exact h.tag other

/-- A default key that is no longer looked for is a text. -/
theorem Resolves.retag (h : Resolves start graph) {id : Nat} (hid : graph.tagOf id = .defaultKey) :
    Resolves start (graph.retag id .text) := by
  refine ⟨fun other text => ?_, fun other items => ?_, fun other => ?_, fun other => ?_, fun other => ?_⟩
  · rw [contentOf_retag]
    exact h.scalar other text
  · rw [contentOf_retag]
    exact h.sequence other items
  · rw [IsMapping, contentOf_retag]
    exact h.mapping other
  · rw [entriesOf, contentOf_retag]
    exact h.entries other
  · rw [tagOf_retag]
    split_ifs with hother
    · rcases h.tag other with hsame | ⟨hkey, -⟩
      · exact Or.inr ⟨by rw [← hsame, ← hother.1, hid], rfl⟩
      · exact Or.inr ⟨hkey, rfl⟩
    · exact h.tag other

theorem Resolves.passOver (h : Resolves start graph) (entries : List (Nat × Nat)) :
    Resolves start (graph.passOver entries) := by
  unfold Graph.passOver
  induction entries generalizing graph with
  | nil => exact h
  | cons entry rest ih =>
      rw [List.foldl_cons]
      split_ifs with hkey
      · exact ih (h.retag (beq_iff_eq.mp hkey))
      · exact ih h

/-- The entry at which passing over ends has a merging key. -/
theorem tagOf_eq_merge {id position : Nat} {entry : Nat × Nat}
    (h : (graph.entriesOf id)[position + (graph.entriesToMerge id position).length]? = some entry) :
    graph.tagOf entry.1 = .merge := by
  rw [← List.getElem?_drop, entriesToMerge] at h
  generalize (graph.entriesOf id).drop position = entries at h
  induction entries with
  | nil => cases h
  | cons first rest ih =>
      rw [List.takeWhile_cons] at h
      split at h
      next => exact ih h
      next hfirst =>
        obtain rfl := Option.some.inj h
        simpa using hfirst

/-- The functions that merge mappings resolve keys, however deep they go. What they bring to a mapping are
entries that it takes over. -/
structure ResolveTo (start : Graph) (fuel : Nat) : Prop where
  mergeFrom : ∀ {graph id}, Resolves start graph → start.IsMapping id → ∀ position {merged},
    (∀ entry ∈ merged, start.Stems id entry) →
      Ends start.Explains (Resolves start) (mergeFrom fuel id position merged graph)
  mergeAll : ∀ {graph}, Resolves start graph → ∀ {id items brought},
    (∀ item ∈ items, ReflTransGen start.TakesOver id item) →
      (∀ entry ∈ brought, start.Stems id entry) →
        Ends start.Explains (fun result => (∀ entry ∈ result.1, start.Stems id entry) ∧
          Resolves start result.2) (mergeAll fuel items brought graph)

theorem resolveTo_zero (start : Graph) : ResolveTo start 0 where
  mergeFrom h _ _ _ _ := by
    unfold Graph.mergeFrom
    exact h
  mergeAll h _ _ _ _ hbrought := by
    unfold Graph.mergeAll
    exact ⟨hbrought, h⟩

/-- The entries of a mapping that another takes over. -/
theorem Resolves.stems (h : Resolves start graph) {id other : Nat}
    (hid : ReflTransGen start.TakesOver id other) :
    ∀ entry ∈ graph.entriesOf other, start.Stems id entry :=
  fun entry hmem => (h.entries other entry hmem).of_takesOver hid

section

variable {fuel : Nat} (resolve : ResolveTo start fuel)

include resolve

theorem ends_mergeAll (h : Resolves start graph) {id : Nat} {items : List Nat}
    {brought : List (Nat × Nat)} (hitems : ∀ item ∈ items, ReflTransGen start.TakesOver id item)
    (hbrought : ∀ entry ∈ brought, start.Stems id entry) :
    Ends start.Explains (fun result => (∀ entry ∈ result.1, start.Stems id entry) ∧
      Resolves start result.2) (mergeAll (fuel + 1) items brought graph) := by
  cases items with
  | nil =>
      unfold mergeAll
      exact ⟨hbrought, h⟩
  | cons item rest =>
      obtain ⟨hitem, hrest⟩ := List.forall_mem_cons.mp hitems
      unfold mergeAll
      split
      next entries hcontent =>
        have hmapping := (h.mapping item).mp ⟨entries, hcontent⟩
        refine (resolve.mergeFrom h hmapping _ (List.forall_mem_nil _)).bind fun next hnext => ?_
        exact resolve.mergeAll hnext hrest
          (List.forall_mem_append.mpr ⟨hnext.stems hitem, hbrought⟩)
      next => exact Or.inl rfl

theorem ends_mergeFrom (h : Resolves start graph) {id : Nat} (hid : start.IsMapping id)
    (position : Nat) {merged : List (Nat × Nat)} (hmerged : ∀ entry ∈ merged, start.Stems id entry) :
    Ends start.Explains (Resolves start) (mergeFrom (fuel + 1) id position merged graph) := by
  unfold mergeFrom
  dsimp only
  have hpassed := h.passOver (graph.entriesToMerge id position)
  split
  next => exact hpassed.fill hid (List.forall_mem_append.mpr ⟨hmerged, h.entries id⟩)
  next key value hentry =>
    have hmem : (key, value) ∈ graph.entriesOf id := List.mem_of_getElem? hentry
    have htag := tagOf_eq_merge hentry
    -- The merging key is taken out first; what its value brings is looked up in the graph without it.
    have hwithout := hpassed.fill hid fun entry hmem => h.entries id entry
      (List.mem_of_mem_eraseIdx (i := position + (graph.entriesToMerge id position).length) hmem)
    split
    next entries hcontent =>
      have hvalue := (hwithout.mapping value).mp ⟨entries, hcontent⟩
      have hother := h.takesOver ⟨key, value, hmem, htag, Or.inl rfl⟩
      refine (resolve.mergeFrom hwithout hvalue _ (List.forall_mem_nil _)).bind fun next hnext => ?_
      exact resolve.mergeFrom hnext hid _
        (List.forall_mem_append.mpr ⟨hmerged, hnext.stems hother⟩)
    next items hcontent =>
      have hsequence := (h.sequence value items).mpr ((hwithout.sequence value items).mp hcontent)
      have hitems : ∀ item ∈ items, ReflTransGen start.TakesOver id item := fun item hitem =>
        h.takesOver ⟨key, value, hmem, htag, Or.inr ⟨items, hsequence, hitem⟩⟩
      refine (resolve.mergeAll hwithout hitems (List.forall_mem_nil _)).bind fun result hresult => ?_
      exact resolve.mergeFrom hresult.2 hid _ (List.forall_mem_append.mpr ⟨hmerged, hresult.1⟩)
    next => exact Or.inl rfl

theorem ResolveTo.succ : ResolveTo start (fuel + 1) where
  mergeFrom h hid position _ hmerged := ends_mergeFrom resolve h hid position hmerged
  mergeAll h _ _ _ hitems hbrought := ends_mergeAll resolve h hitems hbrought

end

theorem resolveTo (start : Graph) (fuel : Nat) : ResolveTo start fuel := by
  -- The two functions call each other with less fuel, so they are treated together.
  induction fuel with
  | zero => exact resolveTo_zero start
  | succ fuel ih => exact ih.succ

/-! ## Documents -/

theorem Resolves.ends_scalarDatum (h : Resolves start graph) (id : Nat) :
    Ends start.Explains (fun _ => True) (graph.scalarDatum id) := by
  have hdatum := Graph.ends_scalarDatum graph id
  cases hresult : graph.scalarDatum id with
  | ok datum => trivial
  | error fault => exact h.explains (hdatum.fault hresult)

/-- A step through the nodes that resolves keys of the graph it began with, or comes to a fault that this
graph explains. -/
abbrev Visits (start : Graph) (step : Except Fault Visit) : Prop :=
  Ends start.Explains (fun visit => Resolves start visit.graph) step

section

variable {visit : Visit}

theorem visits_reach (h : Resolves start visit.graph) (id : Nat) : Visits start (reach visit id) := by
  unfold reach
  exact Ends.ite h (Ends.ite h ((h.ends_scalarDatum id).bind fun _ _ => h))

theorem visits_reachEntries (h : Resolves start visit.graph) (entries : List (Nat × Nat)) :
    Visits start (reachEntries entries visit) := by
  refine Ends.foldlM (fun entry visit hvisit => ?_) h
  refine (visits_reach hvisit _).bind fun visit hkey => ?_
  dsimp only
  exact Ends.ite (Or.inl rfl) (visits_reach hkey _)

theorem visits_pairs (h : Resolves start visit.graph) (items : List Nat) :
    Visits start (items.foldlM (fun visit item => do
      let (key, value) ← singleEntry visit.graph item
      let visit ← reach visit key
      reach visit value) visit) := by
  refine Ends.foldlM (fun item visit hvisit => ?_) h
  have hentry : Ends start.Explains (fun _ => True) (singleEntry visit.graph item) := by
    unfold singleEntry
    split
    · trivial
    · exact Or.inl rfl
  exact hentry.bind fun _ _ => (visits_reach hvisit _).bind fun _ hkey => visits_reach hkey _

theorem visits_mapping (h : Resolves start visit.graph) {id : Nat} {entries : List (Nat × Nat)}
    (hid : visit.graph.contentOf id = .mapping entries) : Visits start (do
      let graph ← visit.graph.merge id
      reachEntries (graph.entriesOf id) { visit with graph }) := by
  have hmapping := (h.mapping id).mp ⟨entries, hid⟩
  refine ((resolveTo start _).mergeFrom h hmapping _ (List.forall_mem_nil _)).bind fun graph hgraph => ?_
  have hnext : Resolves start ({ visit with graph } : Visit).graph := hgraph
  exact visits_reachEntries hnext _

theorem visits_expand (h : Resolves start visit.graph) (id : Nat) : Visits start (expand visit id) := by
  unfold expand
  split
  next items _ hcontent => exact Ends.foldlM (fun item visit hvisit => visits_reach hvisit item) h
  next items _ hcontent => exact visits_pairs h items
  next items _ hcontent => exact visits_pairs h items
  next entries _ hcontent => exact visits_mapping h hcontent
  next entries _ hcontent => exact visits_mapping h hcontent
  next => exact Or.inl rfl

theorem visits_expandAll (h : Resolves start visit.graph) (fuel : Nat) :
    Visits start (expandAll fuel visit) := by
  induction fuel generalizing visit with
  | zero => exact h
  | succ fuel ih =>
      unfold expandAll
      split
      · exact h
      · refine Ends.bind (Ends.foldlM (fun id visit hvisit => visits_expand hvisit id) ?_)
          fun _ hlater => ih hlater
        exact h

end

theorem Resolves.ends_datum (h : Resolves start graph) (depth id : Nat) :
    Ends start.Explains (fun _ => True) (graph.datum depth id) := by
  have hother : ∀ (tag : Tag) (id : Nat), Ends start.Explains (fun _ => True)
      (if tag.isCollection then .ok (.list []) else graph.scalarDatum id) := fun tag id =>
    Ends.ite trivial (h.ends_scalarDatum id)
  -- Below the greatest depth no collection is entered, which leaves the scalars.
  induction depth generalizing id with
  | zero =>
      unfold datum
      split
      next hdepth => cases hdepth
      next => trivial
      next => trivial
      next hdepth => cases hdepth
      next hdepth => cases hdepth
      next => exact hother _ _
  | succ depth ih =>
      unfold datum
      split
      next hdepth =>
        obtain rfl := Nat.succ.inj hdepth
        exact (Ends.mapM ih).bind fun _ _ => trivial
      next => trivial
      next => trivial
      next hdepth =>
        obtain rfl := Nat.succ.inj hdepth
        have hentry : ∀ entry : Nat × Nat, Ends start.Explains (fun _ => True) (do
            pure (entry.1, ← graph.datum depth entry.1)) := fun entry =>
          (ih entry.1).bind fun _ _ => trivial
        exact (Ends.mapM hentry).bind fun _ _ => trivial
      next hdepth =>
        obtain rfl := Nat.succ.inj hdepth
        have hentry : ∀ entry : Nat × Nat, Ends start.Explains (fun _ => True) (do
            pure ((entry.1, ← graph.datum depth entry.1), (← graph.datum depth entry.2))) := fun entry =>
          (ih entry.1).bind fun _ _ => (ih entry.2).bind fun _ _ => trivial
        exact (Ends.mapM hentry).bind fun _ _ => trivial
      next => exact hother _ _

end Graph

/-- What stands in a text that explains a fault of reading it: a token, a scalar that does not denote what it
should, or a mapping that denotes no text, among them those whose default key leads back to them. -/
inductive StandsIn (text : Text) : Fault → Prop where
  | token {fault : Fault} (hmem : .fault fault ∈ Token.all text) (h : fault.OfToken) : StandsIn text fault
  | node {document : Document} {fault : Fault}
    (hdocument : Document.ofTokens (Token.all text) = .ok (some document))
    (h : document.graph.Misreads fault) : StandsIn text fault

/-- A text that is not read breaks the rules, or what its fault comes from stands in it. -/
theorem standsIn_of_read {text : Text} {fault : Fault} (h : read text = .error fault) :
    fault = .malformed ∨ StandsIn text fault := by
  unfold read at h
  cases hdocument : Document.ofTokens (Token.all text) with
  | error other =>
      rw [hdocument] at h
      cases h
      rcases (Document.ends_ofTokens _).fault hdocument with hmalformed | hmem
      · exact Or.inl hmalformed
      · exact Or.inr (.token hmem (Token.ofToken_of_mem_all hmem))
  | ok document? =>
      rw [hdocument] at h
      cases document? with
      | none => cases h
      | some document =>
          have hstart : document.graph.Resolves ({ graph := document.graph } : Graph.Visit).graph :=
            Graph.Resolves.refl _
          have hread : Ends document.graph.Explains (fun _ => True) (do
              let start ← Graph.reach { graph := document.graph } document.root
              let visit ← Graph.expandAll (document.graph.size + 1) start
              visit.graph.datum datumDepth document.root) :=
            (Graph.visits_reach hstart _).bind fun _ hnext =>
              (Graph.visits_expandAll hnext _).bind fun _ hlast => hlast.ends_datum _ _
          rcases hread.fault h with hmalformed | hmisreads
          · exact Or.inl hmalformed
          · exact Or.inr (.node hdocument hmisreads)

end FormFill.Yaml

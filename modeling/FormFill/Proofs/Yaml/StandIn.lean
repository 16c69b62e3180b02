import FormFill.Yaml.Reader
import Mathlib.Data.List.Perm.Subperm
import Mathlib.Logic.Relation

/-!
# Mappings that stand for others

A mapping in the place of a scalar stands for the value of its default key, and a merging key makes it take
over the entries of other mappings. The search for the text of a mapping goes from one mapping to the next. It
passes no node twice unless a mapping stands for itself in the end, and there are no more nodes to pass than
it is given steps.
-/

namespace FormFill.Yaml.Graph

open Relation

variable {graph : Graph}

/-- A mapping stands for the value of its default key. -/
def StandsFor (graph : Graph) (id value : Nat) : Prop :=
  ∃ key, (key, value) ∈ graph.entriesOf id ∧ graph.tagOf key = .defaultKey

/-- A mapping takes over the entries of another: the value of a merging key, or an item of that value. -/
def TakesOver (graph : Graph) (id other : Nat) : Prop :=
  ∃ key value, (key, value) ∈ graph.entriesOf id ∧ graph.tagOf key = .merge ∧
    (other = value ∨ ∃ items, graph.contentOf value = .sequence items ∧ other ∈ items)

/-- A mapping leads to what it stands for and to those whose entries it takes over. -/
def LeadsTo (graph : Graph) (id other : Nat) : Prop :=
  graph.StandsFor id other ∨ graph.TakesOver id other

/-- An entry that a mapping has or takes over. -/
def Stems (graph : Graph) (id : Nat) (entry : Nat × Nat) : Prop :=
  ∃ source, ReflTransGen graph.TakesOver id source ∧ entry ∈ graph.entriesOf source

theorem Stems.of_mem {id : Nat} {entry : Nat × Nat} (h : entry ∈ graph.entriesOf id) :
    graph.Stems id entry := ⟨id, .refl, h⟩

theorem Stems.of_takesOver {id other : Nat} {entry : Nat × Nat} (h : graph.Stems other entry)
    (hid : ReflTransGen graph.TakesOver id other) : graph.Stems id entry := by
  obtain ⟨source, hsource, hmem⟩ := h
  exact ⟨source, hid.trans hsource, hmem⟩

theorem TakesOver.leadsTo {id other : Nat} (h : ReflTransGen graph.TakesOver id other) :
    ReflTransGen graph.LeadsTo id other :=
  ReflTransGen.mono (r := graph.TakesOver) (fun _ _ => Or.inr) _ _ h

theorem entriesOf_eq {id : Nat} {entries : List (Nat × Nat)}
    (h : graph.contentOf id = .mapping entries) : graph.entriesOf id = entries := by
  rw [entriesOf, h]

/-- Only nodes of the graph have entries. -/
theorem lt_size_of_mem_entriesOf {id : Nat} {entry : Nat × Nat} (h : entry ∈ graph.entriesOf id) :
    id < graph.size := by
  by_contra hsize
  have hnone : graph[id]? = none := Array.getElem?_eq_none (Nat.le_of_not_lt hsize)
  rw [entriesOf, contentOf, hnone] at h
  exact absurd h List.not_mem_nil

/-- The search for a text stops unless mappings stand for one another in a circle. -/
theorem exists_loop_of_scalarText {fuel id : Nat} {path : List Nat} (hnodup : path.Nodup)
    (hpath : ∀ node ∈ path, node < graph.size ∧ TransGen graph.StandsFor node id)
    (hfuel : graph.size < path.length + fuel) (h : graph.scalarText fuel id = .error .endlessText) :
    ∃ node, TransGen graph.StandsFor node node := by
  induction fuel generalizing id path with
  | zero =>
      -- The path has more nodes than the graph, though no node comes twice.
      have hsub : path ⊆ List.range graph.size := fun node hmem =>
        List.mem_range.mpr (hpath node hmem).1
      have hle := (hnodup.subperm hsub).length_le
      rw [List.length_range] at hle
      omega
  | succ fuel ih =>
      unfold scalarText at h
      split at h
      next => cases h
      next entries hcontent =>
        split at h
        next key value hfind =>
          have hmem : (key, value) ∈ graph.entriesOf id := by
            rw [entriesOf_eq hcontent]
            exact List.mem_of_find?_eq_some hfind
          have hstands : graph.StandsFor id value :=
            ⟨key, hmem, by simpa using List.find?_some hfind⟩
          by_cases hseen : id ∈ path
          · exact ⟨id, (hpath id hseen).2⟩
          · refine ih (List.nodup_cons.mpr ⟨hseen, hnodup⟩) ?_ (by simp only [List.length_cons]; omega) h
            intro node hnode
            rcases List.mem_cons.mp hnode with rfl | hnode
            · exact ⟨lt_size_of_mem_entriesOf hmem, .single hstands⟩
            · exact ⟨(hpath node hnode).1, (hpath node hnode).2.tail hstands⟩
        next => cases h
      next => cases h

/-- In a circle of mappings that stand for one another, what one of them stands for leads back to it. -/
theorem exists_leadsTo_back {node : Nat} (h : TransGen graph.StandsFor node node) :
    ∃ value, graph.StandsFor node value ∧ ReflTransGen graph.LeadsTo value node := by
  obtain ⟨value, hvalue, hback⟩ := TransGen.head'_iff.mp h
  exact ⟨value, hvalue, ReflTransGen.mono (r := graph.StandsFor) (fun _ _ => Or.inl) _ _ hback⟩

end FormFill.Yaml.Graph

import FormFill.Form.Payload
import Mathlib.Algebra.Ring.Parity
import Mathlib.Data.List.Induction

/-!
# Collapsing and expanding

What a state says of a path after any operations depends on two things: what the last operation that set all
paths said of it, or the state at the start if there was none, and how often the path has been flipped since
then. A state is told apart from others only by what it says of paths, so operations that agree in this agree
in their answers and in every payload.
-/

namespace FormFill

namespace CollapseState

namespace Operation

/-- The paths that an operation leaves collapsed, if it sets all of them. -/
def sets? : Operation → Option (List Path)
  | toggle _ => none
  | collapseAll nodes => some ((sectionsOf [] nodes).map (·.1))
  | expandAll => some []

/-- Whether an operation flips a path. -/
def flips (path : Path) : Operation → Bool
  | toggle other => other == path
  | collapseAll _ | expandAll => false

end Operation

/-- The paths that were collapsed after the last operation that set all of them, or at the start. -/
def lastSet (state : CollapseState) (operations : List Operation) : List Path :=
  (operations.reverse.findSome? (·.sets?)).getD state.paths

/-- How often a path has been flipped since the last operation that set all paths. -/
def flipCount (operations : List Operation) (path : Path) : Nat :=
  (operations.reverse.takeWhile (·.sets?.isNone)).countP (·.flips path)

variable {state other : CollapseState}

/-! ## Runs -/

theorem run_append (state : CollapseState) (first second : List Operation) :
    state.run (first ++ second) = (state.run first).run second :=
  List.foldl_append

theorem answers_append (state : CollapseState) (first second : List Operation) :
    state.answers (first ++ second) = state.answers first ++ (state.run first).answers second := by
  induction first generalizing state with
  | nil => rfl
  | cons operation rest ih => exact congrArg (_ :: ·) (ih (operation.perform state).2)

theorem length_answers (state : CollapseState) (operations : List Operation) :
    (state.answers operations).length = operations.length := by
  induction operations generalizing state with
  | nil => rfl
  | cons operation rest ih => exact congrArg (· + 1) (ih (operation.perform state).2)

theorem answers_toggle (state : CollapseState) (path : Path) (rest : List Operation) :
    state.answers (.toggle path :: rest) =
      some (state.flip path).1 :: (state.toggle path).answers rest :=
  rfl

theorem flip_fst (state : CollapseState) (path : Path) :
    (state.flip path).1 = !state.isCollapsed path := by
  unfold flip
  split
  next h => rw [h, Bool.not_true]
  next h => rw [Bool.eq_false_iff.mpr h, Bool.not_false]

/-- The answer to a flip is what the state says afterwards. -/
theorem flip_fst_eq (state : CollapseState) (path : Path) :
    (state.flip path).1 = (state.toggle path).isCollapsed path := by
  rw [flip_fst, isCollapsed_toggle, if_pos rfl]

/-- What one more operation does to a path. -/
theorem isCollapsed_run_concat (state : CollapseState) (operations : List Operation)
    (operation : Operation) (path : Path) :
    (state.run (operations ++ [operation])).isCollapsed path =
      match operation.sets? with
      | some paths => paths.contains path
      | none => (state.run operations).isCollapsed path ^^ operation.flips path := by
  rw [run_append]
  cases operation with
  | toggle other =>
      change ((state.run operations).toggle other).isCollapsed path = (_ ^^ other == path)
      rw [isCollapsed_toggle]
      by_cases heq : path = other
      · subst heq
        rw [if_pos rfl, beq_self_eq_true, Bool.xor_true]
      · rw [if_neg heq, beq_eq_false_iff_ne.mpr (Ne.symm heq), Bool.xor_false]
  | collapseAll nodes => rfl
  | expandAll => rfl

/-- After a run a path is as the last operation that set all paths left it, or as it was at the start, but
for the flips since then. By induction on the run, whose last operation decides. -/
theorem isCollapsed_run (state : CollapseState) (operations : List Operation) (path : Path) :
    (state.run operations).isCollapsed path =
      ((state.lastSet operations).contains path ^^ decide (Odd (flipCount operations path))) := by
  induction operations using List.reverseRecOn with
  | nil => exact (Bool.xor_false _).symm
  | append_singleton operations operation ih =>
      rw [isCollapsed_run_concat, lastSet, flipCount, List.reverse_append, List.reverse_singleton,
        List.singleton_append, List.findSome?_cons, List.takeWhile_cons]
      cases hsets : operation.sets? with
      | some paths => simp
      | none =>
          have hcount : (operation :: operations.reverse.takeWhile (·.sets?.isNone)).countP
              (·.flips path) = flipCount operations path + if operation.flips path then 1 else 0 :=
            List.countP_cons
          dsimp only
          rw [ih, Option.isNone_none, if_pos rfl, hcount, Bool.xor_assoc]
          congr 1
          cases operation.flips path with
          | false => rw [Bool.xor_false, if_neg Bool.false_ne_true, Nat.add_zero]
          | true =>
              rw [Bool.xor_true, if_pos rfl, ← decide_not]
              exact decide_eq_decide.mpr Nat.odd_add_one.symm

/-! ## States that say the same -/

theorem isCollapsed_run_congr (h : state.isCollapsed = other.isCollapsed)
    (operations : List Operation) :
    (state.run operations).isCollapsed = (other.run operations).isCollapsed := by
  induction operations using List.reverseRecOn with
  | nil => exact h
  | append_singleton operations operation ih =>
      funext path
      rw [isCollapsed_run_concat, isCollapsed_run_concat, ih]

theorem answers_congr (h : state.isCollapsed = other.isCollapsed) (operations : List Operation) :
    state.answers operations = other.answers operations := by
  induction operations using List.reverseRecOn with
  | nil => rfl
  | append_singleton operations operation ih =>
      have hrun := isCollapsed_run_congr h operations
      rw [answers_append, answers_append, ih]
      congr 1
      cases operation with
      | toggle path =>
          change [some ((state.run operations).flip path).1] =
            [some ((other.run operations).flip path).1]
          rw [flip_fst, flip_fst, hrun]
      | collapseAll nodes => rfl
      | expandAll => rfl

mutual

/-- What a node shows depends on what the state says of the sections at and below it. -/
theorem Node.payload_congr (path : Path) : ∀ node : Node,
    (∀ entry ∈ node.sections path, state.isCollapsed entry.1 = other.isCollapsed entry.1) →
      node.payload (some state) path = node.payload (some other) path
  | .leaf field, _ => rfl
  | .branch name children, h => by
      rw [Node.sections, List.forall_mem_cons] at h
      rw [Node.payload, Node.payload, payloadsFrom_congr path 0 children h.2, Option.any_some,
        Option.any_some, h.1]

/-- What nodes show depends on what the state says of the sections at and below them. -/
theorem payloadsFrom_congr (parent : Path) (position : Nat) : ∀ nodes : List Node,
    (∀ entry ∈ sectionsFrom parent position nodes,
        state.isCollapsed entry.1 = other.isCollapsed entry.1) →
      payloadsFrom (some state) parent position nodes = payloadsFrom (some other) parent position nodes
  | [], _ => rfl
  | node :: rest, h => by
      rw [sectionsFrom, List.forall_mem_append] at h
      rw [payloadsFrom, payloadsFrom, Node.payload_congr _ node h.1,
        payloadsFrom_congr parent _ rest h.2]

end

/-- The payload of a form depends on what the state says of its sections. -/
theorem form_payload_congr (form : Form)
    (h : ∀ path ∈ (sectionsOf [] form.nodes).map (·.1),
      state.isCollapsed path = other.isCollapsed path) :
    form.payload (some state) = form.payload (some other) := by
  have hnodes := payloadsFrom_congr [] 0 form.nodes
    fun entry hentry => h entry.1 (List.mem_map_of_mem hentry)
  rw [Form.payload, Form.payload, hnodes]

/-! ## Flips -/

theorem isCollapsed_toggle_of_ne {path other : Path} (hne : other ≠ path) (state : CollapseState) :
    (state.toggle path).isCollapsed other = state.isCollapsed other := by
  rw [isCollapsed_toggle, if_neg hne]

/-- The answer to a flip does not depend on flips of other paths. -/
theorem flip_fst_toggle_of_ne {path other : Path} (hne : path ≠ other) (state : CollapseState) :
    ((state.toggle other).flip path).1 = (state.flip path).1 := by
  rw [flip_fst, flip_fst, isCollapsed_toggle_of_ne hne]

/-- Flips come to the same in either order. -/
theorem isCollapsed_toggle_comm (state : CollapseState) (first second : Path) :
    ((state.toggle first).toggle second).isCollapsed =
      ((state.toggle second).toggle first).isCollapsed := by
  by_cases heq : first = second
  · rw [heq]
  · funext path
    simp only [isCollapsed_toggle, if_neg heq, if_neg (Ne.symm heq)]
    by_cases hfirst : path = first
    · rw [if_pos hfirst, if_pos hfirst, if_neg (hfirst ▸ heq)]
    · rw [if_neg hfirst, if_neg hfirst]

/-- A flip that is left out changes nothing for other paths, then or later. -/
theorem isCollapsed_run_toggle_of_ne {path other : Path} (hne : other ≠ path)
    (state : CollapseState) (operations : List Operation) :
    ((state.toggle path).run operations).isCollapsed other =
      (state.run operations).isCollapsed other := by
  induction operations using List.reverseRecOn with
  | nil => exact isCollapsed_toggle_of_ne hne state
  | append_singleton operations operation ih =>
      rw [isCollapsed_run_concat, isCollapsed_run_concat, ih]

/-- A flip in a run has no say in other paths. -/
theorem isCollapsed_run_without {path other : Path} (hne : other ≠ path) (state : CollapseState)
    (before after : List Operation) :
    (state.run (before ++ .toggle path :: after)).isCollapsed other =
      (state.run (before ++ after)).isCollapsed other := by
  rw [run_append, run_append]
  exact isCollapsed_run_toggle_of_ne hne (state.run before) after

/-- What comes of a run of operations on a state. -/
structure Accounts (state : CollapseState) (operations : List Operation) : Prop where
  /-- A path is as the last operation that set all paths left it, or as it was at the start, if it has been
  flipped an even number of times since then, and else the other way round. -/
  isCollapsed_eq : ∀ path, (state.run operations).isCollapsed path =
    ((state.lastSet operations).contains path ^^ decide (Odd (flipCount operations path)))
  /-- The answer to a flip is the state in which it leaves the path. -/
  answer : ∀ before path after, operations = before ++ .toggle path :: after →
    (state.answers operations)[before.length]? =
      some (some ((state.run (before ++ [.toggle path])).isCollapsed path))
  /-- Two flips come to the same in either order, with the same answers if their paths differ. -/
  swapped : ∀ before first second after,
    operations = before ++ .toggle first :: .toggle second :: after →
      ((state.run (before ++ .toggle second :: .toggle first :: after)).isCollapsed =
        (state.run operations).isCollapsed) ∧
      (first ≠ second → ∃ earlier ofFirst ofSecond later, earlier.length = before.length ∧
        state.answers operations = earlier ++ ofFirst :: ofSecond :: later ∧
        state.answers (before ++ .toggle second :: .toggle first :: after) =
          earlier ++ ofSecond :: ofFirst :: later)
  /-- Flips of paths that lead to no section of a form have no say in its payload, then or later. -/
  unseen : ∀ before path after (form : Form), operations = before ++ .toggle path :: after →
    path ∉ (sectionsOf [] form.nodes).map (·.1) →
      form.payload (some (state.run operations)) =
        form.payload (some (state.run (before ++ after)))
  /-- Nor have they a say in what a node shows, at whatever path it stands, if they lead to no section at or
  below it. -/
  unseenBelow : ∀ before path after (start : Path) (node : Node),
    operations = before ++ .toggle path :: after → path ∉ (node.sections start).map (·.1) →
      node.payload (some (state.run operations)) start =
        node.payload (some (state.run (before ++ after))) start

theorem accounts (state : CollapseState) (operations : List Operation) :
    state.Accounts operations where
  isCollapsed_eq := isCollapsed_run state operations
  answer := by
    rintro before path after rfl
    have hlength := length_answers state before
    rw [answers_append, List.getElem?_append_right (Nat.le_of_eq hlength), hlength, Nat.sub_self,
      run_append, answers_toggle, flip_fst_eq]
    rfl
  swapped := by
    rintro before first second after rfl
    have hcomm := isCollapsed_toggle_comm (state.run before) second first
    refine ⟨?_, fun hne => ?_⟩
    · rw [run_append, run_append]
      exact isCollapsed_run_congr hcomm after
    · refine ⟨state.answers before, _, _, _, length_answers state before, answers_append _ _ _, ?_⟩
      rw [answers_append, answers_toggle, answers_toggle, answers_congr hcomm after,
        flip_fst_toggle_of_ne hne, ← flip_fst_toggle_of_ne hne.symm]
      rfl
  unseen := by
    rintro before path after form rfl hpath
    refine form_payload_congr form fun other hother => ?_
    have hne : other ≠ path := fun heq => hpath (heq ▸ hother)
    exact isCollapsed_run_without hne state before after
  unseenBelow := by
    rintro before path after start node rfl hpath
    refine Node.payload_congr start node fun entry hentry => ?_
    have hne : entry.1 ≠ path := fun heq => hpath (heq ▸ List.mem_map_of_mem hentry)
    exact isCollapsed_run_without hne state before after

end CollapseState

end FormFill

import ControlHarness.General.Machine

/-!
A reader that executes statements one after the other while a machine goes on.

A statement sees the state of the machine at the moment it is executed, and the
machine may take steps between two statements. `reading` is the machine of the
two together, and `answer q` is what the statement `q` returns on a state.

* `KeepsDone`, `KeepsTodo`: a step of the machine leaves unchanged what the
  statements executed so far returned, or what the statements to come return.
* `answers_at_moment`: where every step before some moment of the run keeps the
  statements executed and every step after it those to come, the answers are
  those on the one state of that moment.
* `state_exec`: that state is one the machine reaches by its own steps.
-/

/-- A turn of the run: the machine takes a step, or the reader executes its next
statement. -/
inductive Turn (I : Type*) where
  | commit (i : I)
  | select
  deriving DecidableEq, Repr

/-- The state of the machine, the statements executed and those to come, and the
state that an executed statement saw. -/
structure Reader (Q S : Type*) where
  state : S
  done : List Q
  todo : List Q
  seen : Q → S

namespace Reader

variable {S I O Q : Type*}

/-- The reader before its first statement. -/
def start (statements : List Q) (s : S) : Reader Q S := ⟨s, [], statements, fun _ => s⟩

variable [DecidableEq Q]

/-- The next statement is executed, if there is one. -/
def select (r : Reader Q S) : Reader Q S :=
  match r.todo with
  | [] => r
  | q :: todo => ⟨r.state, r.done ++ [q], todo, Function.update r.seen q r.state⟩

/-- The machine and the reader, taking turns. -/
def reading (M : Machine S I O) : Machine (Reader Q S) (Turn I) Unit where
  step
    | .commit i, r => ((), { r with state := M.next i r.state })
    | .select, r => ((), r.select)

/-- The steps that the machine takes in a run. -/
def commits (turns : List (Turn I)) : List I :=
  turns.filterMap fun
    | .commit i => some i
    | .select => none

variable {M : Machine S I O} {r : Reader Q S} {turns pre post : List (Turn I)}

@[simp] lemma next_commit (i : I) :
    (reading M).next (.commit i) r = { r with state := M.next i r.state } := rfl

@[simp] lemma next_select : (reading M).next .select r = r.select := rfl

@[simp] lemma select_state : r.select.state = r.state := by
  rw [select]
  split <;> rfl

/-- The reader leaves no trace in the machine. -/
lemma state_exec : ((reading M).exec r turns).state = M.exec r.state (commits turns) := by
  induction turns generalizing r with
  | nil => rfl
  | cons turn turns ih =>
      rw [Machine.exec_cons, ih]
      cases turn with
      | commit i => rfl
      | select =>
          rw [next_select, select_state]
          rfl

/-- The statements executed and those to come are those of the start. -/
lemma done_append_todo :
    ((reading M).exec r turns).done ++ ((reading M).exec r turns).todo = r.done ++ r.todo := by
  refine Machine.invariant (P := fun r' : Reader Q S => r'.done ++ r'.todo = r.done ++ r.todo)
    rfl fun r' turn h => ?_
  cases turn with
  | commit i => exact h
  | select =>
      rw [next_select, select]
      split
      · exact h
      · rename_i q todo htodo
        rw [← h, htodo, List.append_assoc, List.singleton_append]

/-! ### The answers -/

variable {A : Q → Type*} (answer : ∀ q, S → A q)

/-- A step of the machine leaves unchanged what the statements executed so far
return. -/
def KeepsDone (M : Machine S I O) (r : Reader Q S) : Turn I → Prop
  | .commit i => ∀ q ∈ r.done, answer q (M.next i r.state) = answer q r.state
  | .select => True

/-- A step of the machine leaves unchanged what the statements to come return. -/
def KeepsTodo (M : Machine S I O) (r : Reader Q S) : Turn I → Prop
  | .commit i => ∀ q ∈ r.todo, answer q (M.next i r.state) = answer q r.state
  | .select => True

variable {answer}

/-- An answer of the statement just executed, or of one executed before. -/
lemma mem_done_select {q : Q} (hq : q ∈ r.select.done) :
    (q ∈ r.todo ∧ r.select.seen q = r.state) ∨ (q ∈ r.done ∧ r.select.seen q = r.seen q) := by
  rw [select] at hq ⊢
  split at hq
  · exact Or.inr ⟨hq, rfl⟩
  · rename_i q' todo htodo
    by_cases hqq : q = q'
    · subst hqq
      exact Or.inl ⟨by rw [htodo]; exact List.mem_cons_self, Function.update_self ..⟩
    · have hdone : q ∈ r.done := by simpa [hqq] using hq
      exact Or.inr ⟨hdone, Function.update_of_ne hqq ..⟩

lemma mem_todo_select {q : Q} (hq : q ∈ r.select.todo) : q ∈ r.todo := by
  rw [select] at hq
  split at hq
  · exact hq
  · rename_i q' todo htodo
    rw [htodo]
    exact List.mem_cons_of_mem q' hq

/-- Before the moment: the statements executed would return the same now. -/
lemma answers_before (h : (reading M).Along (KeepsDone answer M) r turns)
    (h0 : ∀ q ∈ r.done, answer q (r.seen q) = answer q r.state) :
    ∀ q ∈ ((reading M).exec r turns).done,
      answer q (((reading M).exec r turns).seen q)
        = answer q ((reading M).exec r turns).state := by
  refine h.invariant (P := fun r => ∀ q ∈ r.done, answer q (r.seen q) = answer q r.state) h0
    fun r turn hturn ih q hq => ?_
  cases turn with
  | commit i =>
      calc answer q (r.seen q) = answer q r.state := ih q hq
        _ = answer q (M.next i r.state) := (hturn q hq).symm
  | select =>
      rw [next_select, select_state]
      rcases mem_done_select hq with ⟨-, hseen⟩ | ⟨hdone, hseen⟩
      · rw [hseen]
      · rw [hseen, ih q hdone]

/-- After the moment: the statements to come return what they return on the state
`s` of the moment, and those executed did. -/
lemma answers_after {s : S} (h : (reading M).Along (KeepsTodo answer M) r turns)
    (hdone : ∀ q ∈ r.done, answer q (r.seen q) = answer q s)
    (htodo : ∀ q ∈ r.todo, answer q r.state = answer q s) :
    ∀ q ∈ ((reading M).exec r turns).done,
      answer q (((reading M).exec r turns).seen q) = answer q s := by
  refine (h.invariant (P := fun r => (∀ q ∈ r.done, answer q (r.seen q) = answer q s) ∧
    ∀ q ∈ r.todo, answer q r.state = answer q s) ⟨hdone, htodo⟩ fun r turn hturn ih => ?_).1
  obtain ⟨hdone, htodo⟩ := ih
  cases turn with
  | commit i =>
      refine ⟨hdone, fun q hq => ?_⟩
      calc answer q (M.next i r.state) = answer q r.state := hturn q hq
        _ = answer q s := htodo q hq
  | select =>
      refine ⟨fun q hq => ?_, fun q hq => ?_⟩
      · rcases mem_done_select hq with ⟨hq, hseen⟩ | ⟨hq, hseen⟩
        · rw [next_select, hseen, htodo q hq]
        · rw [next_select, hseen, hdone q hq]
      · rw [next_select, select_state]
        exact htodo q (mem_todo_select hq)

/-- **The answers are those of one moment**, where the steps before it keep what
was read and the steps after it keep what is still to be read. -/
theorem answers_at_moment {statements : List Q} {s : S}
    (hpre : (reading M).Along (KeepsDone answer M) (start statements s) pre)
    (hpost : (reading M).Along (KeepsTodo answer M)
      ((reading M).exec (start statements s) pre) post) :
    ∀ q ∈ ((reading M).exec (start statements s) (pre ++ post)).done,
      answer q (((reading M).exec (start statements s) (pre ++ post)).seen q)
        = answer q (M.exec s (commits pre)) := by
  have hstate : ((reading M).exec (start statements s) pre).state = M.exec s (commits pre) :=
    state_exec
  have hbefore := answers_before hpre fun q hq => absurd hq List.not_mem_nil
  rw [hstate] at hbefore
  rw [Machine.exec_append]
  exact answers_after hpost hbefore fun q _ => by rw [hstate]

end Reader

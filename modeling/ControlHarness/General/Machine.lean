import Mathlib.Data.List.DropRight
import Mathlib.Tactic

/-!
Deterministic machines with inputs and outputs, and the rules for their runs.

A run is a list of inputs. `exec` is the state after the run and `occs` the
list of its steps, each with the state it started from, its output and the
state it ended in.

* `Along A s is`: every step of the run from `s` meets `A`, a relation between
  the state before the step and the input. `along_append` and `along_cons`
  split it along the run.
* `invariant`: what the start has and every step meeting `A` keeps, holds
  after every run along `A`.
* `mem_occs`: a step of a run is a step from the state after a prefix of it.
* `exists_turning`: what holds after a run and not before it turns at a step.
* `since`: the steps of a history that count since the last one that resets the
  count, with one rule for each kind of step that is appended.
-/

/-- A deterministic machine: an input takes a state to an output and the next
state. -/
structure Machine (S I O : Type*) where
  step : I → S → O × S

namespace Machine

variable {S I O : Type*} (M : Machine S I O)

/-- One step of a run: the state before, the input, the output and the state
after. -/
structure Occ (S I O : Type*) where
  before : S
  input : I
  output : O
  after : S

/-- The state after one input. -/
def next (i : I) (s : S) : S := (M.step i s).2

/-- The output of one input. -/
def out (i : I) (s : S) : O := (M.step i s).1

/-- The state after a run. -/
def exec (s : S) (is : List I) : S := is.foldl (fun s i => M.next i s) s

/-- The step that the input takes from a state. -/
def occ (s : S) (i : I) : Occ S I O := ⟨s, i, M.out i s, M.next i s⟩

/-- The steps of a run, in order. -/
def occs : S → List I → List (Occ S I O)
  | _, [] => []
  | s, i :: is => M.occ s i :: occs (M.next i s) is

@[simp] lemma exec_nil (s : S) : M.exec s [] = s := rfl

@[simp] lemma exec_cons (s : S) (i : I) (is : List I) :
    M.exec s (i :: is) = M.exec (M.next i s) is := rfl

lemma exec_append (s : S) (is js : List I) :
    M.exec s (is ++ js) = M.exec (M.exec s is) js := by
  rw [exec, exec, exec, List.foldl_append]

lemma exec_concat (s : S) (is : List I) (i : I) :
    M.exec s (is ++ [i]) = M.next i (M.exec s is) := by
  rw [exec_append, exec_cons, exec_nil]

@[simp] lemma occs_nil (s : S) : M.occs s [] = [] := rfl

@[simp] lemma occs_cons (s : S) (i : I) (is : List I) :
    M.occs s (i :: is) = M.occ s i :: M.occs (M.next i s) is := rfl

lemma occs_append (s : S) (is js : List I) :
    M.occs s (is ++ js) = M.occs s is ++ M.occs (M.exec s is) js := by
  induction is generalizing s with
  | nil => rfl
  | cons i is ih => rw [List.cons_append, occs_cons, occs_cons, exec_cons, ih, List.cons_append]

lemma occs_concat (s : S) (is : List I) (i : I) :
    M.occs s (is ++ [i]) = M.occs s is ++ [M.occ (M.exec s is) i] := by
  rw [occs_append, occs_cons, occs_nil]

/-- A step of a run starts from the state after a prefix of the run. -/
lemma mem_occs {s : S} {is : List I} {o : Occ S I O} (ho : o ∈ M.occs s is) :
    ∃ pre i post, is = pre ++ i :: post ∧ o = M.occ (M.exec s pre) i := by
  induction is generalizing s with
  | nil => exact absurd ho (List.not_mem_nil)
  | cons i is ih =>
      rw [occs_cons, List.mem_cons] at ho
      rcases ho with rfl | ho
      · exact ⟨[], i, is, rfl, rfl⟩
      · obtain ⟨pre, j, post, rfl, rfl⟩ := ih ho
        exact ⟨i :: pre, j, post, rfl, rfl⟩

/-! ### Runs whose steps meet a condition -/

/-- Every step of the run from `s` meets `A`, a condition on the state before
the step and its input. -/
def Along (A : S → I → Prop) (s : S) (is : List I) : Prop :=
  ∀ pre i post, is = pre ++ i :: post → A (M.exec s pre) i

variable {M} {A B : S → I → Prop} {s : S} {is : List I}

@[simp] lemma along_nil : M.Along A s [] := fun pre i post h => by
  simp at h

lemma along_cons {i : I} :
    M.Along A s (i :: is) ↔ A s i ∧ M.Along A (M.next i s) is := by
  constructor
  · intro h
    refine ⟨h [] i is rfl, fun pre j post hj => ?_⟩
    exact h (i :: pre) j post (by rw [hj, List.cons_append])
  · rintro ⟨hi, hrest⟩ pre j post hj
    cases pre with
    | nil =>
        obtain ⟨rfl, rfl⟩ : i = j ∧ is = post := by simpa using hj
        exact hi
    | cons p pre =>
        obtain ⟨rfl, rfl⟩ : i = p ∧ is = pre ++ j :: post := by simpa using hj
        exact hrest pre j post rfl

instance decidableAlong [∀ s i, Decidable (A s i)] :
    (s : S) → (is : List I) → Decidable (M.Along A s is)
  | _, [] => isTrue along_nil
  | s, i :: is =>
    haveI := decidableAlong (M.next i s) is
    decidable_of_iff (A s i ∧ M.Along A (M.next i s) is) along_cons.symm

lemma along_append {js : List I} :
    M.Along A s (is ++ js) ↔ M.Along A s is ∧ M.Along A (M.exec s is) js := by
  induction is generalizing s with
  | nil => simp
  | cons i is ih => rw [List.cons_append, along_cons, ih, along_cons, exec_cons, and_assoc]

lemma along_concat {i : I} :
    M.Along A s (is ++ [i]) ↔ M.Along A s is ∧ A (M.exec s is) i := by
  rw [along_append, along_cons]
  simp

lemma Along.mono (hAB : ∀ s i, A s i → B s i) (h : M.Along A s is) : M.Along B s is :=
  fun pre i post hi => hAB _ _ (h pre i post hi)

lemma Along.and (hA : M.Along A s is) (hB : M.Along B s is) :
    M.Along (fun s i => A s i ∧ B s i) s is :=
  fun pre i post hi => ⟨hA pre i post hi, hB pre i post hi⟩

/-- A condition on the inputs alone holds along the run once it holds of every
input. -/
lemma along_of_forall {C : I → Prop} (h : ∀ i ∈ is, C i) : M.Along (fun _ i => C i) s is :=
  fun pre i post hi => h i (by rw [hi]; simp)

/-! ### The rules -/

/-- **The invariant rule**: what the start has and every step meeting `A`
keeps, holds after every run along `A`. -/
theorem Along.invariant {P : S → Prop} (h : M.Along A s is) (h0 : P s)
    (hstep : ∀ s i, A s i → P s → P (M.next i s)) : P (M.exec s is) := by
  induction is generalizing s with
  | nil => exact h0
  | cons i is ih =>
      rw [along_cons] at h
      exact ih h.2 (hstep s i h.1 h0)

/-- The invariant rule for all runs. -/
theorem invariant {P : S → Prop} (h0 : P s) (hstep : ∀ s i, P s → P (M.next i s)) :
    P (M.exec s is) :=
  Along.invariant (A := fun _ _ => True) (fun _ _ _ _ => trivial) h0 fun s i _ => hstep s i

/-- What does not hold at the start and holds at the end of a run begins to hold at
a step of it. -/
lemma exists_turning {P : S → Prop} (h0 : ¬ P s) (h : P (M.exec s is)) :
    ∃ pre i post, is = pre ++ i :: post ∧ ¬ P (M.exec s pre) ∧ P (M.next i (M.exec s pre)) := by
  induction is using List.reverseRecOn with
  | nil => exact absurd h h0
  | append_singleton is i ih =>
      by_cases hbefore : P (M.exec s is)
      · obtain ⟨pre, j, post, rfl, hpre, hj⟩ := ih hbefore
        exact ⟨pre, j, post ++ [i], by simp, hpre, hj⟩
      · rw [exec_concat] at h
        exact ⟨is, i, [], rfl, hbefore, h⟩

/-! ### Counting since a reset -/

section

variable {α : Type*} {stop keep : α → Bool} {past : List α} {o : α}

/-- The elements that `keep` counts after the last one that `stop` resets. -/
def since (stop keep : α → Bool) (past : List α) : List α :=
  (past.rtakeWhile fun o => !stop o).filter keep

@[simp] lemma since_nil : since stop keep [] = [] := by
  rw [since, List.rtakeWhile_nil, List.filter_nil]

lemma since_stop (h : stop o = true) : since stop keep (past ++ [o]) = [] := by
  rw [since, List.rtakeWhile_concat_neg _ _ _ (by simp [h]), List.filter_nil]

lemma since_keep (hstop : stop o = false) (h : keep o = true) :
    since stop keep (past ++ [o]) = since stop keep past ++ [o] := by
  rw [since, List.rtakeWhile_concat_pos _ _ _ (by simp [hstop]), List.filter_append, since,
    List.filter_cons_of_pos h, List.filter_nil]

lemma since_other (hstop : stop o = false) (h : keep o = false) :
    since stop keep (past ++ [o]) = since stop keep past := by
  rw [since, List.rtakeWhile_concat_pos _ _ _ (by simp [hstop]), List.filter_append, since,
    List.filter_cons_of_neg (by simp [h]), List.filter_nil, List.append_nil]

end

end Machine

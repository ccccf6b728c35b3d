import ControlHarness.Lifecycle.Circuit
import ControlHarness.Lifecycle.Ownership

/-!
The attempt budget.

`claim` counts an attempt without a look at the budget. What keeps the count
within it is the way a task comes back to a claim: a failure report schedules
another attempt only while the budget lasts, and nothing but a release makes a
task ready again (`attempts_within_budget`). The last failure of the budget ends
in a dead letter.

* `StoreStep.claiming`: the successful claims of a task in a run; there are as
  many as its attempts (`attempts_exec`).
* `WithinBudget`: the invariant of a task under the operations of the HTTP
  surface (`TaskStep.withinBudget`).
-/

namespace ControlHarness

open Store

/-! ### Attempts are claims -/

/-- The step is a successful claim of the task. -/
def StoreStep.claiming (t : UUID) (o : StoreStep) : Bool :=
  match o.input.op, o.output with
  | .claim taskId _ _ _, .ok (.claimed (some _)) => taskId = t
  | _, _ => false

lemma claiming_occ {db : Db} {call : Call} {t : UUID} :
    StoreStep.claiming t (store.occ db call) = true ↔ ∃ worker, Claims db call t worker := by
  constructor
  · intro h
    rw [StoreStep.claiming] at h
    split at h
    · rename_i taskId role worker mins row hop hout
      obtain rfl : taskId = t := of_decide_eq_true h
      exact ⟨worker, ⟨role, mins, hop⟩, row, hout⟩
    · exact absurd h Bool.false_ne_true
  · rintro ⟨worker, ⟨role, mins, hop⟩, row, hout⟩
    have hinput : (store.occ db call).input.op = .claim t role worker mins := hop
    have houtput : (store.occ db call).output = .ok (.claimed (some row)) := hout
    rw [StoreStep.claiming, hinput, houtput]
    exact decide_eq_true rfl

/-- The attempts of a task. -/
def TaskView.attempts (v : TaskView) : ℕ := v.row.elim 0 TaskRow.attemptCount

lemma attempts_of_row {s : Tables} {t : UUID} {row : TaskRow}
    (h : s.agentTasks.get? t = some row) : (s.view t).attempts = row.attemptCount :=
  congrArg (fun r : Option TaskRow => r.elim 0 TaskRow.attemptCount) h

/-- A step of a task that is no claim keeps its attempts, a claim adds one. -/
lemma TaskStep.attempts {now : Timestamp} {t : UUID} {v v' : TaskView} {op : Op}
    (h : TaskStep now t v op v') :
    (∃ role worker mins, op = .claim t role worker mins ∧ v'.attempts = v.attempts + 1) ∨
      (∀ role worker mins, op ≠ .claim t role worker mins) ∧ v'.attempts = v.attempts := by
  cases h with
  | claimed role worker mins row hrow =>
      refine Or.inl ⟨role, worker, mins, rfl, ?_⟩
      rw [TaskView.attempts, TaskView.attempts, hrow]
      rfl
  | created card route hid hrow =>
      refine Or.inr ⟨fun _ _ _ => Op.noConfusion, ?_⟩
      rw [TaskView.attempts, TaskView.attempts, hrow]
      rfl
  | heartbeatRejected | receiptRejected => exact Or.inr ⟨fun _ _ _ => Op.noConfusion, rfl⟩
  | renewed worker mins row hrow | swept ids row hrow | released row hrow =>
      refine Or.inr ⟨fun _ _ _ => Op.noConfusion, ?_⟩
      rw [TaskView.attempts, TaskView.attempts, hrow]
      rfl
  | retryScheduled report id row delay hid hrow =>
      refine Or.inr ⟨fun _ _ _ => Op.noConfusion, ?_⟩
      rw [TaskView.attempts, TaskView.attempts, hrow]
      exact retriedRow_attemptCount _ _ _ row
  | recovery report id row hid hrow | deadLettered report id row letterId reason hid hrow
  | stopped report id row target hid hrow | receiptAccepted receipt row receiptId closing hid hrow
  | approvalRequested card row hid hrow | transitioned target reason row hrow =>
      refine Or.inr ⟨fun _ _ _ => Op.noConfusion, ?_⟩
      rw [TaskView.attempts, TaskView.attempts, hrow]
      exact movedRow_attemptCount _ row
  | approvalDecided id decision by_ reason d approval row hd happ hkey hopen hrow =>
      refine Or.inr ⟨fun _ _ _ => Op.noConfusion, ?_⟩
      rw [TaskView.attempts, TaskView.attempts, hrow]
      exact movedRow_attemptCount _ row

/-- A call that is no claim of the task counts for nothing. -/
lemma countP_claiming_zero {db : Db} {call : Call} {t : UUID}
    (h : ∀ worker, ¬ Claims db call t worker) :
    [store.occ db call].countP (StoreStep.claiming t) = 0 := by
  rw [List.countP_singleton, if_neg fun hclaiming => ?_]
  obtain ⟨worker, hclaim⟩ := claiming_occ.mp hclaiming
  exact h worker hclaim

/-- A claim of the task counts once. -/
lemma countP_claiming_one {db : Db} {call : Call} {t : UUID} {worker : String}
    (h : Claims db call t worker) : [store.occ db call].countP (StoreStep.claiming t) = 1 := by
  rw [List.countP_singleton, if_pos (claiming_occ.mpr ⟨worker, h⟩)]

/-- A call adds an attempt to a task exactly when it claims it. -/
lemma attempts_next (db : Db) (call : Call) (t : UUID) :
    ((store.next call db).tables.view t).attempts
      = (db.tables.view t).attempts
        + [store.occ db call].countP (StoreStep.claiming t) := by
  rcases view_next call db t with hview | hstep
  · have hnone : ∀ worker, ¬ Claims db call t worker := by
      intro worker hclaim
      obtain ⟨row, row', hrow, hready, hrow', hclaimed, -⟩ := hclaim.moves
      have hsame : (store.next call db).tables.agentTasks.get? t
          = db.tables.agentTasks.get? t := congrArg TaskView.row hview
      rw [hrow, hrow'] at hsame
      rw [Option.some.inj hsame, hready] at hclaimed
      exact absurd hclaimed (by decide)
    rw [hview, countP_claiming_zero hnone, Nat.add_zero]
  · rcases hstep.attempts with ⟨role, worker, mins, hop, hmore⟩ | ⟨hop, hsame⟩
    · have hmoved : (store.next call db).tables.agentTasks.get? t
          ≠ db.tables.agentTasks.get? t := by
        intro hrow
        have heq : ((store.next call db).tables.view t).attempts = (db.tables.view t).attempts :=
          congrArg (fun r : Option TaskRow => r.elim 0 TaskRow.attemptCount) hrow
        omega
      rw [hmore, countP_claiming_one (claims_of_moved hmoved hop)]
    · rw [hsame, countP_claiming_zero fun worker => not_claims_of_op hop worker, Nat.add_zero]

/-- **The attempts of a task are its successful claims**, along every run. -/
lemma attempts_exec (calls : List Call) (t : UUID) :
    ((store.exec Db.init calls).tables.view t).attempts
      = (store.occs Db.init calls).countP (StoreStep.claiming t) := by
  induction calls using List.reverseRecOn with
  | nil => rfl
  | append_singleton calls call ih =>
      rw [Machine.exec_concat, Machine.occs_concat, attempts_next, ih, List.countP_append]

/-! ### The budget -/

/-- What the budget says of a row and the dead letters of its task: a task that
is ready or waits for a retry has an attempt left, and one with a dead letter
has failed, after its last attempt if the failure was retryable. -/
structure Affordable (row : TaskRow) (letters : List DeadLetterRow) : Prop where
  bound : row.attemptCount ≤ row.card.budget.maxAttempts
  spare : row.status = .ready ∨ row.status = .retryWait →
    row.attemptCount < row.card.budget.maxAttempts
  failed : letters ≠ [] → row.status = .failed
  spent : ∀ letter ∈ letters, letter.failureClass ∈ retryableFailures →
    row.attemptCount = row.card.budget.maxAttempts

/-- The invariant of a task under the operations of the HTTP surface. -/
def WithinBudget (v : TaskView) : Prop :=
  v.row.elim (v.deadLetters = []) fun row => Affordable row v.deadLetters

namespace Affordable

variable {row row' : TaskRow} {letters : List DeadLetterRow}

/-- A row that keeps its status and its attempts. -/
lemma keep (h : Affordable row letters) (hstatus : row'.status = row.status)
    (hcount : row'.attemptCount = row.attemptCount) (hcard : row'.card = row.card) :
    Affordable row' letters where
  bound := by
    rw [hcount, hcard]
    exact h.bound
  spare := by
    rw [hstatus, hcount, hcard]
    exact h.spare
  failed := by
    rw [hstatus]
    exact h.failed
  spent := by
    rw [hcount, hcard]
    exact h.spent

lemma letters_eq_nil (h : Affordable row letters) (hstatus : row.status ≠ .failed) :
    letters = [] := by
  by_contra hne
  exact hstatus (h.failed hne)

/-- A row without dead letters. -/
lemma of_nil (hbound : row.attemptCount ≤ row.card.budget.maxAttempts)
    (hspare : row.status = .ready ∨ row.status = .retryWait →
      row.attemptCount < row.card.budget.maxAttempts) : Affordable row [] where
  bound := hbound
  spare := hspare
  failed := fun h => absurd rfl h
  spent := fun _ hmem => absurd hmem List.not_mem_nil

/-- A task that has not failed moves to a status from which no claim leads on. -/
lemma move (h : Affordable row letters) (hstatus : row.status ≠ .failed)
    (hcount : row'.attemptCount = row.attemptCount) (hcard : row'.card = row.card)
    (hready : row'.status ≠ .ready) (hwait : row'.status ≠ .retryWait) :
    Affordable row' letters := by
  rw [h.letters_eq_nil hstatus]
  refine of_nil ?_ fun hs => ?_
  · rw [hcount, hcard]
    exact h.bound
  · rcases hs with hs | hs
    · exact absurd hs hready
    · exact absurd hs hwait

end Affordable

lemma WithinBudget.of_row {v : TaskView} {row : TaskRow} (h : WithinBudget v)
    (hrow : v.row = some row) : Affordable row v.deadLetters := by
  rw [WithinBudget, hrow] at h
  exact h

/-- **Every step by an operation of the HTTP surface keeps a task within its
budget.** -/
lemma TaskStep.withinBudget {now : Timestamp} {t : UUID} {v v' : TaskView} {op : Op}
    (hhttp : op.Http) (h : TaskStep now t v op v') (hv : WithinBudget v) : WithinBudget v' := by
  cases h with
  | created card route hid hrow =>
      have hletters : v.deadLetters = [] := by
        rw [WithinBudget, hrow] at hv
        exact hv
      have hspare : 0 < card.budget.maxAttempts := card.budget.attempts_range.1
      change Affordable (newTask card route now) v.deadLetters
      rw [hletters]
      exact .of_nil hspare.le fun _ => hspare
  | claimed role worker mins row hrow hready =>
      have hrowFits := hv.of_row hrow
      have hspare := hrowFits.spare (Or.inl hready)
      have hletters := hrowFits.letters_eq_nil (by rw [hready]; decide)
      change Affordable (claimedRow role worker (minutes mins) now row) v.deadLetters
      rw [hletters]
      refine .of_nil hspare fun hs => ?_
      simp [claimedRow] at hs
  | renewed worker mins row hrow => exact (hv.of_row hrow).keep rfl rfl rfl
  | heartbeatRejected | receiptRejected => exact hv
  | swept ids row hrow hexp =>
      change Affordable (sweptRow row) v.deadLetters
      exact (hv.of_row hrow).move ((isExecution_of_expired hexp).ne (by decide)) rfl rfl
        (by simp [sweptRow]) (by simp [sweptRow])
  | recovery report id row hid hrow hadm =>
      exact (hv.of_row hrow).move (hadm.execution.ne (by decide))
        (movedRow_attemptCount _ row) (movedRow_card _ row) (by simp) (by simp)
  | retryScheduled report id row delay hid hrow hadm hrec hretry hbudget =>
      have hletters := (hv.of_row hrow).letters_eq_nil (hadm.execution.ne (by decide))
      change Affordable (retriedRow _ _ _ row) v.deadLetters
      rw [hletters]
      refine .of_nil ?_ fun _ => ?_
      · rw [retriedRow_attemptCount, retriedRow_card]
        exact hbudget.le
      · rw [retriedRow_attemptCount, retriedRow_card]
        exact hbudget
  | deadLettered report id row letterId reason hid hrow hadm hrec hfinal =>
      have hfits := hv.of_row hrow
      have hletters := hfits.letters_eq_nil (hadm.execution.ne (by decide))
      change Affordable (movedRow .failed row)
        (v.deadLetters ++ [newDeadLetter row report reason letterId now])
      rw [hletters, List.nil_append]
      refine ⟨?_, fun hs => ?_, fun _ => movedRow_status _ row, fun letter hmem hretry => ?_⟩
      · rw [movedRow_attemptCount, movedRow_card]
        exact hfits.bound
      · rw [movedRow_status] at hs
        exact absurd hs (by decide)
      · -- only the permanent class ends in a dead letter before the budget does
        obtain rfl := List.mem_singleton.mp hmem
        have hretry : report.failureClass ∈ retryableFailures := hretry
        rw [movedRow_attemptCount, movedRow_card]
        rcases hfinal with ⟨-, hspent, -⟩ | ⟨hcls, -⟩
        · exact le_antisymm hfits.bound hspent
        · rw [hcls] at hretry
          exact absurd hretry (by decide)
  | stopped report id row target hid hrow hadm hrec hstop =>
      have hfits := hv.of_row hrow
      rcases hstop with ⟨-, rfl⟩ | ⟨-, rfl⟩ <;>
        exact hfits.move (hadm.execution.ne (by decide)) (movedRow_attemptCount _ row)
          (movedRow_card _ row) (by simp) (by simp)
  | released row hrow hwait =>
      have hfits := hv.of_row hrow
      have hspare := hfits.spare (Or.inr hwait)
      have hletters := hfits.letters_eq_nil (by rw [hwait]; decide)
      change Affordable (releasedRow row) v.deadLetters
      rw [hletters]
      exact .of_nil hspare.le fun _ => hspare
  | receiptAccepted receipt row receiptId closing hid hrow hown hexec =>
      refine (hv.of_row hrow).move (hexec.ne (by decide)) (movedRow_attemptCount _ row)
        (movedRow_card _ row) ?_ ?_
      · rw [receiptRow, movedRow_status]
        exact receiptTarget_ne (by decide) row receipt.outcome
      · rw [receiptRow, movedRow_status]
        exact receiptTarget_ne (by decide) row receipt.outcome
  | approvalRequested card row hid hrow hreview =>
      exact (hv.of_row hrow).move (by rw [hreview]; decide) (movedRow_attemptCount _ row)
        (movedRow_card _ row) (by simp) (by simp)
  | approvalDecided id decision by_ reason d approval row hd happ hkey hopen hrow hstatus =>
      have hne : row.status ≠ .failed := by
        intro hfailed
        rw [hfailed] at hstatus
        cases d <;> exact absurd hstatus (by decide)
      have htarget : decisionTarget d ≠ .ready ∧ decisionTarget d ≠ .retryWait := by
        cases d <;> decide
      refine (hv.of_row hrow).move hne (movedRow_attemptCount _ row) (movedRow_card _ row) ?_ ?_
      · rw [movedRow_status]
        exact htarget.1
      · rw [movedRow_status]
        exact htarget.2
  | transitioned => exact hhttp.elim

/-- Along every run of the HTTP surface every task is within its budget. -/
lemma withinBudget_exec {calls : List Call} (hhttp : ∀ c ∈ calls, c.op.Http) (t : UUID) :
    WithinBudget ((store.exec Db.init calls).tables.view t) :=
  view_exec hhttp t rfl fun _ _ _ _ hop hstep => hstep.withinBudget hop

/-- The dead letter of a failure report names a task that exists. -/
lemma WithinBudget.row_of_letter {v : TaskView} (h : WithinBudget v) {letter : DeadLetterRow}
    (hmem : letter ∈ v.deadLetters) : ∃ row, v.row = some row := by
  cases hrow : v.row with
  | none =>
      rw [WithinBudget, hrow] at h
      have hnil : v.deadLetters = [] := h
      rw [hnil] at hmem
      exact absurd hmem List.not_mem_nil
  | some row => exact ⟨row, rfl⟩

/-- **The attempt budget**: along every run of the HTTP surface the attempts of a
task are its successful claims and at most its budget, a task that is ready or
waits for a retry has an attempt left, and a dead letter of a retryable class is
of a task that used its last attempt. -/
theorem attempts_within_budget (calls : List Call) (hhttp : ∀ c ∈ calls, c.op.Http) :
    (∀ t row, (store.exec Db.init calls).tables.agentTasks.get? t = some row →
        row.attemptCount = (store.occs Db.init calls).countP (StoreStep.claiming t) ∧
        row.attemptCount ≤ row.card.budget.maxAttempts ∧
        (row.status = .ready ∨ row.status = .retryWait →
          row.attemptCount < row.card.budget.maxAttempts)) ∧
      ∀ letter ∈ (store.exec Db.init calls).tables.deadLetters,
        letter.failureClass ∈ retryableFailures →
        ∃ row, (store.exec Db.init calls).tables.agentTasks.get? letter.taskId = some row ∧
          row.attemptCount = row.card.budget.maxAttempts := by
  constructor
  · intro t row hrow
    have hfits := (withinBudget_exec hhttp t).of_row hrow
    have hcount := attempts_exec calls t
    rw [TaskView.attempts, show ((store.exec Db.init calls).tables.view t).row = some row from hrow,
      Option.elim_some] at hcount
    exact ⟨hcount, hfits.bound, hfits.spare⟩
  · intro letter hmem hretry
    have hview : letter ∈ ((store.exec Db.init calls).tables.view letter.taskId).deadLetters :=
      List.mem_filter.mpr ⟨hmem, decide_eq_true rfl⟩
    have hbudget := withinBudget_exec hhttp letter.taskId
    obtain ⟨row, hrow⟩ := hbudget.row_of_letter hview
    exact ⟨row, hrow, (hbudget.of_row hrow).spent letter hview hretry⟩

/-- A task of two attempts that both fail. -/
def spentRun : List Call :=
  [⟨.createTask sampleCard, 0⟩, ⟨.claim sampleCard.taskId "hermes_local" "worker-a" 30, 0⟩,
    ⟨.reportFailure sampleReport ⟨9⟩, 1⟩, ⟨.releaseDueRetries, minutes 10⟩,
    ⟨.claim sampleCard.taskId "hermes_local" "worker-a" 30, minutes 10⟩,
    ⟨.reportFailure sampleReport ⟨9⟩, minutes 11⟩]

/-- The second failure leaves a dead letter and a task without an attempt left. -/
theorem attempts_within_budget_spent :
    ∃ letter ∈ (store.exec Db.init spentRun).tables.deadLetters,
      ∃ row, (store.exec Db.init spentRun).tables.agentTasks.get? letter.taskId = some row ∧
        row.attemptCount = row.card.budget.maxAttempts := by
  have hletter : (store.exec Db.init spentRun).tables.deadLetters.map
      DeadLetterRow.failureClass = [.transient] := by decide +kernel
  obtain ⟨letter, hmem, hcls⟩ := List.mem_map.mp
    (show FailureClass.transient ∈ _ from hletter ▸ List.mem_singleton_self _)
  exact ⟨letter, hmem, (attempts_within_budget spentRun (by decide)).2 letter hmem
    (by rw [hcls]; decide)⟩

end ControlHarness

import ControlHarness.Lifecycle.Budget

/-!
The life of a task is finite.

No operation of the HTTP surface moves a task in a circle for longer than its
budget of attempts lasts: an attempt moves it three times, from ready to claimed,
to the wait for a retry and back, and the last one four times at most, through
review and an approval. So the status of a task changes at most three times its
budget and once more (`moves_bound`), whatever the order of the calls.

* `level`, `energy`: what a status, and a row, have left of this bound.
* `TaskStep.energy`: a step that moves a task takes of its energy, a step that
  does not leaves it.
* `moves_bound_reached`: the bound is reached.
-/

namespace ControlHarness

open Store

/-- The moves that are left of an attempt. -/
def TaskStatus.level : TaskStatus → ℕ
  | ready => 1
  | claimed | inProgress => 3
  | retryWait | review => 2
  | awaitingApproval => 1
  | blocked | failed | done | cancelled | recoveryRequired | awaitingDecision => 0

/-- The moves that are left of a task: three for each attempt that it has left, and
those of its status. -/
def TaskRow.energy (row : TaskRow) : ℕ :=
  3 * (row.card.budget.maxAttempts - row.attemptCount) + row.status.level

/-- The moves of a new task. -/
def TaskRow.lifespan (row : TaskRow) : ℕ := 3 * row.card.budget.maxAttempts + 1

lemma energy_newTask (card : TaskCardV1) (route : String) (now : Timestamp) :
    (newTask card route now).energy = (newTask card route now).lifespan := rfl

/-- The status of the task changes between the rows. -/
def moved (row row' : TaskRow) : ℕ := if row'.status = row.status then 0 else 1

/-- The step changes the status of the task. -/
def StoreStep.moving (t : UUID) (o : StoreStep) : Bool :=
  match o.before.tables.agentTasks.get? t, o.after.tables.agentTasks.get? t with
  | some row, some row' => row'.status ≠ row.status
  | _, _ => false

section

variable {row row' : TaskRow} {now : Timestamp} {t : UUID} {v v' : TaskView} {op : Op}

/-- A row that loses a level of its status and keeps its attempts. -/
lemma energy_falls (hcard : row'.card = row.card) (hcount : row'.attemptCount = row.attemptCount)
    (hlevel : row'.status.level < row.status.level) :
    row'.energy + moved row row' ≤ row.energy := by
  have hmoved : moved row row' ≤ 1 := by
    rw [moved]
    split <;> omega
  rw [TaskRow.energy, TaskRow.energy, hcard, hcount]
  omega

lemma energy_moved {target : TaskStatus} (hlevel : target.level < row.status.level) :
    (movedRow target row).energy + moved row (movedRow target row) ≤ row.energy :=
  energy_falls (movedRow_card _ row) (movedRow_attemptCount _ row)
    (by rw [movedRow_status]; exact hlevel)

/-- A row that keeps its status and its attempts. -/
lemma energy_kept (hcard : row'.card = row.card) (hcount : row'.attemptCount = row.attemptCount)
    (hstatus : row'.status = row.status) : row'.energy + moved row row' ≤ row.energy := by
  rw [TaskRow.energy, TaskRow.energy, hcard, hcount, moved, if_pos hstatus, hstatus,
    Nat.add_zero]

/-- A task in execution has all moves of its attempt left. -/
lemma level_of_isExecution {s : TaskStatus} (h : s.IsExecution) : s.level = 3 := by
  rcases h with rfl | rfl <;> rfl

/-- **A step takes of the energy** of a task what it moves. -/
theorem TaskStep.energy (hhttp : op.Http) (h : TaskStep now t v op v') (hv : WithinBudget v)
    (horderly : Orderly v) (hrow : v.row = some row) (hrow' : v'.row = some row') :
    row'.energy + moved row row' ≤ row.energy := by
  have hsame : ∀ {r}, v.row = some r → r = row := fun hr => Option.some.inj (hr.symm.trans hrow)
  cases h with
  | created card route hid hnone => exact absurd (hrow.symm.trans hnone) (by simp)
  | claimed role worker mins r hr hready =>
      obtain rfl := hsame hr
      obtain rfl := Option.some.inj hrow'
      have hspare := (hv.of_row hr).spare (Or.inl hready)
      have hmoved : moved r (claimedRow role worker (minutes mins) now r) ≤ 1 := by
        rw [moved]
        split <;> omega
      have hlevel : r.status.level = 1 := by
        rw [hready]
        rfl
      have hclaimed : (claimedRow role worker (minutes mins) now r).energy
          = 3 * (r.card.budget.maxAttempts - (r.attemptCount + 1)) + 3 := rfl
      rw [hclaimed, TaskRow.energy, hlevel]
      omega
  | renewed worker mins r hr hrenew =>
      obtain rfl := hsame hr
      obtain rfl := Option.some.inj hrow'
      exact energy_kept rfl rfl rfl
  | heartbeatRejected worker mins r hr | receiptRejected receipt r hid hr =>
      obtain rfl := Option.some.inj (hrow.symm.trans hrow')
      exact energy_kept rfl rfl rfl
  | swept ids r hr hexp =>
      obtain rfl := hsame hr
      obtain rfl := Option.some.inj hrow'
      refine energy_falls rfl rfl ?_
      rw [level_of_isExecution (isExecution_of_expired hexp)]
      exact Nat.zero_lt_succ 2
  | recovery report id r hid hr hadm | deadLettered report id r letterId reason hid hr hadm =>
      obtain rfl := hsame hr
      obtain rfl := Option.some.inj hrow'
      refine energy_moved ?_
      rw [level_of_isExecution hadm.execution]
      exact Nat.zero_lt_succ 2
  | retryScheduled report id r delay hid hr hadm =>
      obtain rfl := hsame hr
      obtain rfl := Option.some.inj hrow'
      refine energy_falls (retriedRow_card _ _ _ _) (retriedRow_attemptCount _ _ _ _) ?_
      rw [level_of_isExecution hadm.execution, retriedRow_status]
      exact Nat.lt_succ_self 2
  | stopped report id r target hid hr hadm hrec hstop =>
      obtain rfl := hsame hr
      obtain rfl := Option.some.inj hrow'
      refine energy_moved ?_
      rw [level_of_isExecution hadm.execution]
      rcases hstop with ⟨-, rfl⟩ | ⟨-, rfl⟩ <;> exact Nat.zero_lt_succ 2
  | released r hr hwait =>
      obtain rfl := hsame hr
      obtain rfl := Option.some.inj hrow'
      refine energy_falls rfl rfl ?_
      rw [hwait]
      exact Nat.lt_succ_self 1
  | receiptAccepted receipt r receiptId closing hid hr hown hexec =>
      obtain rfl := hsame hr
      obtain rfl := Option.some.inj hrow'
      refine energy_moved ?_
      have hmem := receiptTarget_mem_closing r receipt.outcome
      have hall : ∀ s ∈ [TaskStatus.review, .done, .failed, .blocked], s.level < 3 := by decide
      rw [level_of_isExecution hexec]
      exact hall _ hmem
  | approvalRequested card r hid hr hreview =>
      obtain rfl := hsame hr
      obtain rfl := Option.some.inj hrow'
      refine energy_moved ?_
      rw [hreview]
      exact Nat.lt_succ_self 1
  | approvalDecided id decision by_ reason d approval r hd happ hkey hopen hr hstatus =>
      obtain rfl := hsame hr
      obtain rfl := Option.some.inj hrow'
      obtain ⟨hawait, -⟩ := (horderly.of_row hr).2.1.awaiting happ hopen
      refine energy_moved ?_
      rw [hawait]
      cases d <;> exact Nat.zero_lt_succ 0
  | transitioned => exact hhttp.elim

end

/-! ### The run -/

/-- The moves so far and those that are left are those of a new task; a task that
does not exist has not moved. -/
def Spent (moves : ℕ) (v : TaskView) : Prop :=
  v.row.elim (moves = 0) fun row => row.energy + moves ≤ row.lifespan

section

variable {db : Db} {call : Call} {t : UUID} {moves : ℕ}

lemma Spent.of_row {v : TaskView} {row : TaskRow} (h : Spent moves v) (hrow : v.row = some row) :
    row.energy + moves ≤ row.lifespan := by
  rw [Spent, hrow] at h
  exact h

lemma countP_moving {row row' : TaskRow} (hrow : db.tables.agentTasks.get? t = some row)
    (hrow' : (store.next call db).tables.agentTasks.get? t = some row') :
    [store.occ db call].countP (StoreStep.moving t) = moved row row' := by
  have hmoving : StoreStep.moving t (store.occ db call) = decide (row'.status ≠ row.status) := by
    rw [StoreStep.moving, show (store.occ db call).before = db from rfl,
      show (store.occ db call).after = store.next call db from rfl, hrow, hrow']
  rw [List.countP_singleton, hmoving, moved]
  by_cases hstatus : row'.status = row.status <;> simp [hstatus]

/-- A call that does not touch the task does not move it. -/
lemma countP_moving_same (hsame : (store.next call db).tables.view t = db.tables.view t) :
    [store.occ db call].countP (StoreStep.moving t) = 0 := by
  have hrow : (store.next call db).tables.agentTasks.get? t = db.tables.agentTasks.get? t :=
    congrArg TaskView.row hsame
  cases hold : db.tables.agentTasks.get? t with
  | none =>
      rw [List.countP_singleton, StoreStep.moving, show (store.occ db call).before = db from rfl,
        hold]
      rfl
  | some row => rw [countP_moving hold (hrow.trans hold), moved, if_pos rfl]

/-- **One call** keeps what is spent in balance. -/
lemma Spent.next (hhttp : call.op.Http) (hv : WithinBudget (db.tables.view t))
    (horderly : Orderly (db.tables.view t)) (h : Spent moves (db.tables.view t)) :
    Spent (moves + [store.occ db call].countP (StoreStep.moving t))
      ((store.next call db).tables.view t) := by
  rcases view_next call db t with hsame | hstep
  · rw [hsame, countP_moving_same hsame]
    exact h
  · rcases hstep.sameCard with ⟨card, route, -, -, hnone, hrow'⟩ | ⟨row, row', hrow, hrow', hcard⟩
    · have hzero : moves = 0 := by
        rw [Spent, hnone] at h
        exact h
      have hstill : [store.occ db call].countP (StoreStep.moving t) = 0 := by
        rw [List.countP_singleton, StoreStep.moving, show (store.occ db call).before = db from rfl,
          show db.tables.agentTasks.get? t = none from hnone]
        rfl
      rw [Spent, hrow', hzero, hstill]
      exact (energy_newTask card route call.now).le
    · have hbalance := h.of_row hrow
      have htaken := hstep.energy hhttp hv horderly hrow hrow'
      rw [Spent, hrow', Option.elim_some, countP_moving hrow hrow', TaskRow.lifespan, hcard.card]
      rw [TaskRow.lifespan] at hbalance
      omega

/-- Along every run of the HTTP surface what is spent is in balance. -/
lemma spent_exec {calls : List Call} (hhttp : ∀ c ∈ calls, c.op.Http) (t : UUID) :
    Spent ((store.occs Db.init calls).countP (StoreStep.moving t))
      ((store.exec Db.init calls).tables.view t) := by
  induction calls using List.reverseRecOn with
  | nil => rfl
  | append_singleton calls call ih =>
      have hbefore : ∀ c ∈ calls, c.op.Http := fun c hc => hhttp c (List.mem_append_left _ hc)
      rw [Machine.exec_concat, Machine.occs_concat, List.countP_append]
      exact (ih hbefore).next (hhttp call (by simp)) (withinBudget_exec hbefore t)
        (orderly_exec hbefore t)

/-- A run without moves leaves the status alone. -/
lemma status_of_still {row : TaskRow} {calls : List Call}
    (hrow : db.tables.agentTasks.get? t = some row)
    (h : (store.occs db calls).countP (StoreStep.moving t) = 0) :
    ∃ row', (store.exec db calls).tables.agentTasks.get? t = some row' ∧
      row'.status = row.status ∧ row'.card = row.card := by
  induction calls generalizing db row with
  | nil => exact ⟨row, hrow, rfl, rfl⟩
  | cons call calls ih =>
      obtain ⟨row', hrow', hsame⟩ := sameCard_next call hrow
      rw [Machine.occs_cons, ← List.singleton_append, List.countP_append,
        countP_moving hrow hrow'] at h
      obtain ⟨row'', hrow'', hstatus, hcard⟩ := ih hrow' (Nat.eq_zero_of_add_eq_zero_left h)
      refine ⟨row'', hrow'', hstatus.trans ?_, hcard.trans hsame.card⟩
      by_contra hne
      have hone : moved row row' = 1 := if_neg hne
      omega

end

/-- **The life of a task is finite**: along every run of the HTTP surface the status
of a task changes at most three times for each attempt of its budget and once
more, whatever else happens in between; so a task that has moved so often keeps its
status for good. -/
theorem moves_bound (calls more : List Call) (hhttp : ∀ c ∈ calls ++ more, c.op.Http) (t : UUID)
    (row : TaskRow) (hrow : (store.exec Db.init calls).tables.agentTasks.get? t = some row) :
    (store.occs Db.init calls).countP (StoreStep.moving t)
        ≤ 3 * row.card.budget.maxAttempts + 1 ∧
      ((store.occs Db.init calls).countP (StoreStep.moving t)
          = 3 * row.card.budget.maxAttempts + 1 →
        ∃ row', (store.exec Db.init (calls ++ more)).tables.agentTasks.get? t = some row' ∧
          row'.status = row.status) := by
  have hbefore : ∀ c ∈ calls, c.op.Http := fun c hc => hhttp c (List.mem_append_left _ hc)
  have hbound := (spent_exec hbefore t).of_row hrow
  rw [TaskRow.lifespan] at hbound
  refine ⟨by omega, fun hall => ?_⟩
  -- the moves of the whole run are bounded too
  obtain ⟨last, hlast, hcard⟩ : ∃ last,
      (store.exec Db.init (calls ++ more)).tables.agentTasks.get? t = some last ∧
        last.card = row.card := by
    obtain ⟨last, hlast, hsame⟩ := sameCard_exec more hrow
    exact ⟨last, by rw [Machine.exec_append]; exact hlast, hsame.card⟩
  have htotal := (spent_exec hhttp t).of_row hlast
  rw [Machine.occs_append, List.countP_append, TaskRow.lifespan, hcard] at htotal
  have hstill : (store.occs (store.exec Db.init calls) more).countP (StoreStep.moving t) = 0 := by
    omega
  obtain ⟨row', hrow', hstatus, -⟩ := status_of_still hrow hstill
  exact ⟨row', by rw [Machine.exec_append]; exact hrow', hstatus⟩

/-- A task of two attempts that goes all its ways: a retry, then a receipt that is
approved. -/
def longestRun : List Call :=
  [⟨.createTask sampleCard, 0⟩, ⟨.claim sampleCard.taskId "hermes_local" "worker-a" 30, 0⟩,
    ⟨.reportFailure sampleReport ⟨9⟩, 1⟩, ⟨.releaseDueRetries, minutes 10⟩,
    ⟨.claim sampleCard.taskId "hermes_local" "worker-a" 30, minutes 10⟩,
    ⟨.submitReceipt sampleReceipt, minutes 11⟩,
    ⟨.requestApproval sampleApproval, minutes 12⟩,
    ⟨.decideApproval sampleApproval.approvalId "approved" "panda_os" "", minutes 13⟩]

/-- The bound is reached. -/
theorem moves_bound_reached :
    ∃ row, (store.exec Db.init longestRun).tables.agentTasks.get? sampleCard.taskId = some row ∧
      (store.occs Db.init longestRun).countP (StoreStep.moving sampleCard.taskId)
        = 3 * row.card.budget.maxAttempts + 1 ∧
      ∃ row', (store.exec Db.init (longestRun ++ [⟨.releaseDueRetries, minutes 14⟩])
        ).tables.agentTasks.get? sampleCard.taskId = some row' ∧ row'.status = row.status := by
  have hbudget : ((store.exec Db.init longestRun).tables.agentTasks.get? sampleCard.taskId).map
      (fun row => row.card.budget.maxAttempts) = some 2 := by decide +kernel
  have hmoves : (store.occs Db.init longestRun).countP (StoreStep.moving sampleCard.taskId)
      = 7 := by
    decide +kernel
  obtain ⟨row, hrow, hmax⟩ := Option.map_eq_some_iff.mp hbudget
  have hall : (store.occs Db.init longestRun).countP (StoreStep.moving sampleCard.taskId)
      = 3 * row.card.budget.maxAttempts + 1 := by rw [hmoves, hmax]
  exact ⟨row, hrow, hall, (moves_bound longestRun [⟨.releaseDueRetries, minutes 14⟩] (by decide)
    sampleCard.taskId row hrow).2 hall⟩

end ControlHarness

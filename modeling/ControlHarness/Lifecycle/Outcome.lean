import ControlHarness.Lifecycle.Refinement
import ControlHarness.Store.Acceptance

/-!
The calls that the store accepts, read off their answers.

`Claims db call t worker` says that the call, made in the state `db`, takes the
task `t` for the worker, and so on for the other operations. Each comes with
the guards that held and the row it leaves (`Claims.spec` and its siblings), so
that the facts about runs never look into an operation.
-/

namespace ControlHarness

open Store

variable {db : Db} {call : Call} {t : UUID} {worker : String}

/-- The call takes the task for the worker. -/
def Claims (db : Db) (call : Call) (t : UUID) (worker : String) : Prop :=
  (∃ role mins, call.op = .claim t role worker mins) ∧
    ∃ row, store.out call db = .ok (.claimed (some row))

/-- The call renews the worker's lease of the task. -/
def Renews (db : Db) (call : Call) (t : UUID) (worker : String) : Prop :=
  (∃ mins, call.op = .heartbeat t worker mins) ∧ ∃ row, store.out call db = .ok (.row row)

/-- The call is a sweep that finds the lease of the task expired. -/
def Sweeps (db : Db) (call : Call) (t : UUID) : Prop :=
  (∃ ids, call.op = .expireLeases ids) ∧
    ∃ rows, store.out call db = .ok (.rows rows) ∧ ∃ r ∈ rows, r.taskId = t

/-- The call releases the task for another attempt. -/
def Releases (db : Db) (call : Call) (t : UUID) : Prop :=
  call.op = .releaseDueRetries ∧
    ∃ rows, store.out call db = .ok (.rows rows) ∧ ∃ r ∈ rows, r.taskId = t

/-- The call is a failure report that is accepted. -/
def Reports (db : Db) (call : Call) (report : FailureReportV1) : Prop :=
  (∃ id, call.op = .reportFailure report id) ∧ ∃ d, store.out call db = .ok (.decision d)

/-- The call is a receipt that is accepted. -/
def Receives (db : Db) (call : Call) (receipt : ResultReceiptV1) : Prop :=
  call.op = .submitReceipt receipt ∧ ∃ row, store.out call db = .ok (.row row)

/-- The call is a decision on the approval that is accepted. -/
def Decides (db : Db) (call : Call) (approvalId : UUID) : Prop :=
  (∃ decision decidedBy reason, call.op = .decideApproval approvalId decision decidedBy reason) ∧
    ∃ a, store.out call db = .ok (.approval a)

/-- The call is a transition of the task that the table allows. -/
def Moves (db : Db) (call : Call) (t : UUID) (row : TaskRow) (target : TaskStatus) : Prop :=
  (∃ reason, call.op = .transition t target reason) ∧
    db.tables.agentTasks.get? t = some row ∧ target ∈ transitions row.status

/-- The effect of a call whose answer is known. -/
lemma effect_of_out {op : Op} {r : Except Raised Reply} (hop : call.op = op)
    (hout : store.out call db = r) :
    Effect call.now db.tables op r (store.next call db).tables := by
  have heff := store_effect call db
  rw [hop, hout] at heff
  exact heff

lemma Claims.spec (h : Claims db call t worker) :
    ∃ role mins row, call.op = .claim t role worker mins ∧
      db.tables.agentTasks.get? t = some row ∧ claimable call.now db.tables row = true ∧
      (store.next call db).tables.agentTasks.get? t
        = some (claimedRow role worker (minutes mins) call.now row) := by
  obtain ⟨⟨role, mins, hop⟩, answer, hout⟩ := h
  have heff := effect_of_out hop hout
  generalize (store.next call db).tables = s' at heff ⊢
  cases heff with
  | claimed _ _ _ _ row _ hrow hclaim =>
      refine ⟨role, mins, row, hop, hrow, hclaim, ?_⟩
      rw [Table.get?_updateKey, if_pos rfl, hrow]
      rfl

lemma Renews.spec (h : Renews db call t worker) :
    ∃ row, db.tables.agentTasks.get? t = some row ∧ renewable worker call.now row = true := by
  obtain ⟨⟨mins, hop⟩, answer, hout⟩ := h
  have heff := effect_of_out hop hout
  generalize (store.next call db).tables = s' at heff
  cases heff with
  | renewed _ _ _ row hrow hrenew => exact ⟨row, hrow, hrenew⟩

lemma Sweeps.spec (h : Sweeps db call t) :
    ∃ row, db.tables.agentTasks.get? t = some row ∧ expired call.now row = true ∧
      (store.next call db).tables.agentTasks.get? t = some (sweptRow row) := by
  obtain ⟨⟨ids, hop⟩, answer, hout, r, hr, rfl⟩ := h
  have heff := effect_of_out hop hout
  generalize (store.next call db).tables = s' at heff ⊢
  cases heff with
  | swept _ evs cards hlog hcards =>
      obtain ⟨row, hmem, rfl⟩ := List.mem_map.mp hr
      obtain ⟨hrow, hexp⟩ := List.mem_filter.mp hmem
      refine ⟨row, Table.get?_of_mem hrow, hexp, ?_⟩
      rw [Table.get?_updateWhere, sweptRow_taskId, Table.get?_of_mem hrow, Option.map_some,
        if_pos hexp]

lemma Releases.spec (h : Releases db call t) :
    ∃ row, db.tables.agentTasks.get? t = some row ∧
      releasable call.now db.tables row = true := by
  obtain ⟨hop, answer, hout, r, hr, rfl⟩ := h
  have heff := effect_of_out hop hout
  generalize (store.next call db).tables = s' at heff ⊢
  cases heff with
  | released evs hlog =>
      obtain ⟨row, hmem, rfl⟩ := List.mem_map.mp hr
      obtain ⟨hrow, hrel⟩ := List.mem_filter.mp hmem
      exact ⟨row, Table.get?_of_mem hrow, hrel⟩

/-- An accepted failure report passed the checks of admission. -/
lemma Reports.spec {report : FailureReportV1} (h : Reports db call report) :
    ∃ row, db.tables.agentTasks.get? report.taskId = some row ∧ Admitted report row := by
  obtain ⟨⟨id, hop⟩, d, hout⟩ := h
  have heff := effect_of_out hop hout
  generalize (store.next call db).tables = s' at heff ⊢
  cases heff with
  | recovery _ _ task _ _ hrow hadm | retryScheduled _ _ task _ _ _ hrow hadm
  | deadLettered _ _ task _ _ _ _ hrow hadm | stopped _ _ task _ _ _ hrow hadm =>
      exact ⟨task, hrow, hadm⟩

/-- An accepted failure report with unknown side effects sends its task to
recovery. -/
lemma Reports.recovery {report : FailureReportV1} (h : Reports db call report)
    (hrec : requiresRecovery report.failureClass report.sideEffectState = true) :
    ∃ row, db.tables.agentTasks.get? report.taskId = some row ∧ Admitted report row ∧
      (store.next call db).tables.agentTasks.get? report.taskId
        = some (movedRow .recoveryRequired row) := by
  obtain ⟨⟨id, hop⟩, d, hout⟩ := h
  have heff := effect_of_out hop hout
  generalize (store.next call db).tables = s' at heff ⊢
  cases heff with
  | recovery _ _ task _ _ hrow hadm =>
      refine ⟨task, hrow, hadm, ?_⟩
      rw [Table.get?_updateKey, if_pos rfl, hrow]
      rfl
  | retryScheduled _ _ task _ _ _ hrow hadm hknown | deadLettered _ _ task _ _ _ _ hrow hadm hknown
  | stopped _ _ task _ _ _ hrow hadm hknown =>
      rw [hrec] at hknown
      exact Bool.noConfusion hknown

/-- An accepted failure report with known side effects takes its task out of
execution, and not to recovery. -/
lemma Reports.known {report : FailureReportV1} (h : Reports db call report)
    (hrec : requiresRecovery report.failureClass report.sideEffectState = false) :
    ∃ row, (store.next call db).tables.agentTasks.get? report.taskId = some row ∧
      row.status ∈ [.retryWait, .failed, .awaitingDecision, .blocked] := by
  obtain ⟨⟨id, hop⟩, d, hout⟩ := h
  have heff := effect_of_out hop hout
  generalize (store.next call db).tables = s' at heff ⊢
  cases heff with
  | recovery _ _ task _ _ hrow hadm hunknown =>
      rw [hrec] at hunknown
      exact Bool.noConfusion hunknown
  | retryScheduled _ _ task _ _ delay hrow =>
      refine ⟨_, by rw [Table.get?_updateKey, if_pos rfl, hrow]; rfl, ?_⟩
      rw [retriedRow_status]
      decide
  | deadLettered _ _ task _ _ _ _ hrow =>
      refine ⟨_, by rw [Table.get?_updateKey, if_pos rfl, hrow]; rfl, ?_⟩
      rw [movedRow_status]
      decide
  | stopped _ _ task _ action target hrow hadm hknown hstop =>
      refine ⟨_, by rw [Table.get?_updateKey, if_pos rfl, hrow]; rfl, ?_⟩
      rw [movedRow_status]
      rcases hstop with ⟨-, -, rfl⟩ | ⟨-, -, rfl⟩ <;> decide

lemma Receives.spec {receipt : ResultReceiptV1} (h : Receives db call receipt) :
    ∃ row, db.tables.agentTasks.get? receipt.taskId = some row ∧
      row.ownerInstance = some receipt.workerInstance ∧ row.status.IsExecution ∧
      (store.next call db).tables.agentTasks.get? receipt.taskId
        = some (receiptRow row receipt) := by
  obtain ⟨hop, answer, hout⟩ := h
  have heff := effect_of_out hop hout
  generalize (store.next call db).tables = s' at heff ⊢
  cases heff with
  | receiptAccepted _ task _ evs hrow hown hexec =>
      refine ⟨task, hrow, hown, hexec, ?_⟩
      rw [Table.get?_updateKey, if_pos rfl, hrow]
      rfl

/-- An accepted decision is on an open approval of an existing task. -/
lemma Decides.spec {approvalId : UUID} (h : Decides db call approvalId) :
    ∃ d approval row, db.tables.approvals.get? approvalId = some approval ∧
      approval.status = .requested ∧ db.tables.agentTasks.get? approval.taskId = some row ∧
      ∃ decidedBy reason, (store.next call db).tables.approvals.get? approvalId
        = some (decidedApproval d decidedBy reason call.now approval) := by
  obtain ⟨⟨decision, decidedBy, reason, hop⟩, answer, hout⟩ := h
  have heff := effect_of_out hop hout
  generalize (store.next call db).tables = s' at heff ⊢
  cases heff with
  | approvalDecided _ _ _ _ d approval row _ hd happ hopen hrow hstatus =>
      refine ⟨d, approval, row, happ, hopen, hrow, decidedBy, reason, ?_⟩
      rw [Table.get?_updateKey, if_pos rfl, happ]
      rfl

/-- A transition that the table allows moves its task, and touches neither the
approvals nor the recovery cards nor the dead letters. -/
lemma Moves.spec {row : TaskRow} {target : TaskStatus} (h : Moves db call t row target) :
    (store.next call db).tables.agentTasks.get? t = some (movedRow target row) ∧
      (store.next call db).tables.approvals = db.tables.approvals ∧
      (store.next call db).tables.recoveryCards = db.tables.recoveryCards ∧
      (store.next call db).tables.deadLetters = db.tables.deadLetters := by
  obtain ⟨⟨reason, hop⟩, hrow, hmem⟩ := h
  obtain ⟨answer, hout⟩ := transition_accepted call.now reason hrow hmem
  rw [← hop] at hout
  have heff := effect_of_out hop hout
  generalize (store.next call db).tables = s' at heff ⊢
  cases heff with
  | transitioned =>
      refine ⟨?_, rfl, rfl, rfl⟩
      rw [Table.get?_updateKey, if_pos rfl, hrow]
      rfl

/-! ### Calls that move a task were accepted -/

/-- A task whose status is another after the call was moved by it. -/
lemma moved_of_status {row row' : TaskRow} (hrow : db.tables.agentTasks.get? t = some row)
    (hrow' : (store.next call db).tables.agentTasks.get? t = some row')
    (hne : row'.status ≠ row.status) :
    (store.next call db).tables.agentTasks.get? t ≠ db.tables.agentTasks.get? t := by
  intro heq
  rw [hrow', hrow] at heq
  exact hne (congrArg TaskRow.status (Option.some.inj heq))

section

variable (hmoved : (store.next call db).tables.agentTasks.get? t ≠ db.tables.agentTasks.get? t)

include hmoved

lemma claims_of_moved {role : String} {mins : ℤ} (hop : call.op = .claim t role worker mins) :
    Claims db call t worker := by
  obtain ⟨r, hout⟩ : ∃ r, store.out call db = r := ⟨_, rfl⟩
  have heff := effect_of_out hop hout
  generalize (store.next call db).tables = s' at heff hmoved
  cases heff with
  | failed | notClaimed => exact absurd rfl hmoved
  | claimed => exact ⟨⟨role, mins, hop⟩, _, hout⟩

lemma releases_of_moved (hop : call.op = .releaseDueRetries) : Releases db call t := by
  obtain ⟨r, hout⟩ : ∃ r, store.out call db = r := ⟨_, rfl⟩
  have heff := effect_of_out hop hout
  generalize (store.next call db).tables = s' at heff hmoved
  cases heff with
  | failed => exact absurd rfl hmoved
  | released evs hlog =>
      rw [Table.get?_updateWhere] at hmoved
      cases hrow : db.tables.agentTasks.get? t with
      | none => exact absurd (by rw [hrow]; rfl) hmoved
      | some row =>
          by_cases hrel : releasable call.now db.tables row = true
          · have hid : row.taskId = t := Table.key_of_get? hrow
            refine ⟨hop, _, hout, releasedRow row, List.mem_map_of_mem ?_, hid⟩
            exact List.mem_filter.mpr ⟨Table.mem_of_get? hrow, hrel⟩
          · exact absurd (by rw [hrow, Option.map_some, if_neg hrel]) hmoved

lemma reports_of_moved {report : FailureReportV1} {id : UUID}
    (hop : call.op = .reportFailure report id) : Reports db call report := by
  obtain ⟨r, hout⟩ : ∃ r, store.out call db = r := ⟨_, rfl⟩
  have heff := effect_of_out hop hout
  generalize (store.next call db).tables = s' at heff hmoved
  cases heff with
  | failed => exact absurd rfl hmoved
  | recovery | retryScheduled | deadLettered | stopped => exact ⟨⟨id, hop⟩, _, hout⟩

end

end ControlHarness

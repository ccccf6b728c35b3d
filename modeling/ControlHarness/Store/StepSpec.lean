import ControlHarness.Store.Within
import ControlHarness.Store.Effect

/-!
Every call of the store has the effect that `Effect` says.

Each operation is taken apart once: an error of a program that never commits in
the middle leaves the tables alone (`Tx.connect_raise`), and an operation that
returned is inverted through the statements that returned. The two operations
that commit before they raise, `heartbeat` and `submit_receipt`, are run
directly. `store_effect` assembles the ten cases.
-/

namespace ControlHarness

namespace Store

/-! ### The operations that returned -/

variable {c c' : StoreConn} {a : Reply}

lemma effect_createTask {card : TaskCardV1}
    (h : (Op.createTask card).program c = (.ok a, c')) :
    Effect c.now c.tables (.createTask card) (.ok a) c'.tables := by
  obtain ⟨⟨row, isNew⟩, c₁, hrun, hret⟩ := Tx.bind_eq_ok.mp h
  obtain ⟨rfl, rfl⟩ : .created row isNew = a ∧ c₁ = c' := by simpa using hret
  rw [createTask] at hrun
  cases hroute : card.modelRouting.defaultRoute with
  | nil =>
      rw [hroute] at hrun
      simp at hrun
  | cons route rest =>
      rw [hroute] at hrun
      dsimp only at hrun
      rw [Tx.bind_ok (Tx.now_apply c), Tx.bind_ok (Tx.read_apply c _)] at hrun
      cases hkey : c.tables.agentTasks.rows.find?
          (fun r => r.idempotencyKey = card.idempotencyKey) with
      | some existing =>
          rw [hkey] at hrun
          obtain ⟨⟨rfl, rfl⟩, rfl⟩ : (existing = row ∧ false = isNew) ∧ c = c₁ := by
            simpa using hrun
          exact .existing card route existing (by rw [hroute]; rfl) hkey
      | none =>
          rw [hkey] at hrun
          dsimp only at hrun
          rw [Tx.bind_ok (Tx.read_apply c _)] at hrun
          cases hfresh : c.tables.agentTasks.get? card.taskId with
          | some task =>
              rw [hfresh, Option.isSome_some, if_pos rfl] at hrun
              simp at hrun
          | none =>
              rw [hfresh, Option.isSome_none, if_neg Bool.false_ne_true,
                Tx.bind_ok (Tx.write_apply c _), Tx.bind_ok (event_apply _ _ _)] at hrun
              obtain ⟨⟨rfl, rfl⟩, rfl⟩ := by simpa using hrun
              exact .created card route _ (by rw [hroute]; rfl) hkey hfresh

lemma effect_claim {taskId : UUID} {role worker : String} {mins : ℤ}
    (h : (Op.claim taskId role worker mins).program c = (.ok a, c')) :
    Effect c.now c.tables (.claim taskId role worker mins) (.ok a) c'.tables := by
  obtain ⟨row, c₁, hrun, hret⟩ := Tx.bind_eq_ok.mp h
  obtain ⟨rfl, rfl⟩ : .claimed row = a ∧ c₁ = c' := by simpa using hret
  rw [claim, Tx.bind_ok (Tx.now_apply c)] at hrun
  obtain ⟨lease, c₂, hlease, hrun⟩ := Tx.bind_eq_ok.mp hrun
  obtain ⟨-, rfl, rfl⟩ := makeIntervalMins_eq_ok.mp hlease
  rcases updateTask_apply (c := c₂) taskId (claimable c₂.now)
      (claimedRow role worker (minutes mins) c₂.now) (claimedRow_taskId role worker _ c₂.now) with
    ⟨r, hr, hp, hupd⟩ | ⟨hnone, hupd⟩
  · have htask : r.taskId = taskId := Table.key_of_get? hr
    rw [Tx.bind_ok hupd] at hrun
    dsimp only at hrun
    rw [Tx.bind_ok (event_apply _ _ _)] at hrun
    obtain ⟨rfl, rfl⟩ := by simpa using hrun
    exact .claimed taskId role worker mins r _ hr hp
  · rw [Tx.bind_ok hupd] at hrun
    obtain ⟨rfl, rfl⟩ := by simpa using hrun
    exact .notClaimed taskId role worker mins hnone

lemma effect_expireLeases {recoveryIds : UUID → UUID}
    (h : (Op.expireLeases recoveryIds).program c = (.ok a, c')) :
    Effect c.now c.tables (.expireLeases recoveryIds) (.ok a) c'.tables := by
  obtain ⟨rows, c₁, hrun, hret⟩ := Tx.bind_eq_ok.mp h
  obtain ⟨rfl, rfl⟩ : .rows rows = a ∧ c₁ = c' := by simpa using hret
  rw [expireLeases, Tx.bind_ok (Tx.now_apply c), Tx.bind_ok (updateTasks_apply _ _ _)] at hrun
  obtain ⟨_, c₂, hloop, hrun⟩ := Tx.bind_eq_ok.mp hrun
  obtain ⟨rfl, rfl⟩ := by simpa using hrun
  obtain ⟨evs, cards, seq, hlog, hcards, rfl⟩ := forEach_sweep hloop
  rw [List.flatMap_map] at hlog
  rw [List.map_map] at hcards
  exact .swept recoveryIds evs cards hlog hcards

lemma effect_releaseDueRetries (h : Op.releaseDueRetries.program c = (.ok a, c')) :
    Effect c.now c.tables .releaseDueRetries (.ok a) c'.tables := by
  obtain ⟨rows, c₁, hrun, hret⟩ := Tx.bind_eq_ok.mp h
  obtain ⟨rfl, rfl⟩ : .rows rows = a ∧ c₁ = c' := by simpa using hret
  rw [releaseDueRetries, Tx.bind_ok (Tx.now_apply c), Tx.bind_ok (updateTasks_apply _ _ _)] at hrun
  obtain ⟨evs, seq, hlog, hloop⟩ := forEach_event
    (fun row => .retryReleased (row.attemptCount + 1))
    ((c.tables.agentTasks.rows.filter (releasable c.now c.tables)).map releasedRow)
    { c with tables := { c.tables with
        agentTasks := c.tables.agentTasks.updateWhere (releasable c.now c.tables) releasedRow
          releasedRow_taskId } }
  rw [Tx.bind_ok hloop] at hrun
  obtain ⟨rfl, rfl⟩ := by simpa using hrun
  rw [List.map_map] at hlog
  exact .released evs hlog

lemma effect_transition {taskId : UUID} {target : TaskStatus} {reason : String}
    (h : (Op.transition taskId target reason).program c = (.ok a, c')) :
    Effect c.now c.tables (.transition taskId target reason) (.ok a) c'.tables := by
  obtain ⟨row, c₁, hrun, hret⟩ := Tx.bind_eq_ok.mp h
  obtain ⟨rfl, rfl⟩ : .row row = a ∧ c₁ = c' := by simpa using hret
  rw [transition, Tx.bind_ok (selectTask_apply taskId)] at hrun
  cases htask : c.tables.agentTasks.get? taskId with
  | none =>
      rw [htask] at hrun
      simp at hrun
  | some task =>
      rw [htask] at hrun
      obtain ⟨_, c₂, hset, hrun⟩ := Tx.bind_eq_ok.mp hrun
      obtain ⟨hmem, -, rfl⟩ := setStatus_eq_ok.mp hset
      rw [Tx.bind_ok (event_apply _ _ _), Tx.bind_ok (selectTask_apply _)] at hrun
      simp only [Table.get?_updateKey, htask, if_true, Option.map_some] at hrun
      obtain ⟨rfl, rfl⟩ := by simpa using hrun
      exact .transitioned taskId target reason task _ htask hmem

lemma effect_requestApproval {card : ApprovalCardV1}
    (h : (Op.requestApproval card).program c = (.ok a, c')) :
    Effect c.now c.tables (.requestApproval card) (.ok a) c'.tables := by
  obtain ⟨answer, c₁, hrun, hret⟩ := Tx.bind_eq_ok.mp h
  obtain ⟨rfl, rfl⟩ : .approval answer = a ∧ c₁ = c' := by simpa using hret
  rw [requestApproval, Tx.bind_ok (selectTask_apply _)] at hrun
  cases htask : c.tables.agentTasks.get? card.taskId with
  | none =>
      rw [htask] at hrun
      simp at hrun
  | some task =>
      rw [htask] at hrun
      obtain ⟨_, c₂, hset, hrun⟩ := Tx.bind_eq_ok.mp hrun
      obtain ⟨hmem, -, rfl⟩ := setStatus_eq_ok.mp hset
      rw [Tx.bind_ok (Tx.now_apply _), Tx.bind_ok (Tx.read_apply _ _)] at hrun
      cases hfresh : c.tables.approvals.get? card.approvalId with
      | some approval => simp [hfresh] at hrun
      | none =>
          rw [hfresh, Option.isSome_none, if_neg Bool.false_ne_true,
            Tx.bind_ok (Tx.write_apply _ _), Tx.bind_ok (event_apply _ _ _)] at hrun
          obtain ⟨rfl, rfl⟩ := by simpa using hrun
          exact .approvalRequested card task _ htask (eq_review_of_mem_transitions hmem) hfresh

lemma effect_decideApproval {approvalId : UUID} {decision decidedBy reason : String}
    (h : (Op.decideApproval approvalId decision decidedBy reason).program c = (.ok a, c')) :
    Effect c.now c.tables (.decideApproval approvalId decision decidedBy reason) (.ok a)
      c'.tables := by
  obtain ⟨answer, c₁, hrun, hret⟩ := Tx.bind_eq_ok.mp h
  obtain ⟨rfl, rfl⟩ : .approval answer = a ∧ c₁ = c' := by simpa using hret
  rw [decideApproval] at hrun
  cases hd : Decision.ofText decision with
  | none =>
      rw [hd] at hrun
      simp at hrun
  | some d =>
      rw [hd] at hrun
      dsimp only at hrun
      rw [Tx.bind_ok (Tx.read_apply _ _)] at hrun
      cases happ : c.tables.approvals.get? approvalId with
      | none =>
          rw [happ] at hrun
          simp at hrun
      | some approval =>
          rw [happ] at hrun
          dsimp only at hrun
          by_cases hopen : approval.status = .requested
          · rw [if_neg (by simp [hopen]), Tx.bind_ok (selectTask_apply _)] at hrun
            cases htask : c.tables.agentTasks.get? approval.taskId with
            | none =>
                rw [htask] at hrun
                simp at hrun
            | some task =>
                have hkey : task.taskId = approval.taskId := Table.key_of_get? htask
                rw [htask] at hrun
                dsimp only at hrun
                rw [Tx.bind_ok (Tx.now_apply _), Tx.bind_ok (Tx.write_apply _ _)] at hrun
                obtain ⟨_, c₂, hset, hrun⟩ := Tx.bind_eq_ok.mp hrun
                obtain ⟨hmem, -, rfl⟩ := setStatus_eq_ok.mp hset
                rw [Tx.bind_ok (event_apply _ _ _)] at hrun
                obtain ⟨rfl, rfl⟩ := by simpa using hrun
                have heffect := @Effect.approvalDecided c.now c.tables approvalId decision decidedBy
                  reason d approval task (c.seq.eventId + 1) hd happ hopen htask hmem
                rw [← hkey] at heffect
                exact heffect
          · rw [if_pos hopen] at hrun
            simp at hrun

/-- The failure counted against the circuit of a task. -/
lemma countFailure_apply (task : TaskRow) (report : FailureReportV1) :
    countFailure task report c
      = (.ok (circuitAfter c.tables c.now task report.failureClass),
        { c with tables := { c.tables with
            circuitBreakers := circuitsAfter c.tables c.now task report.failureClass } }) := by
  rw [countFailure, circuitAfter, circuitsAfter, countedCircuit]
  cases task.circuitKey with
  | none => rfl
  | some key =>
      by_cases hcount : key ≠ "" ∧ report.failureClass ∈ circuitFailures
      · dsimp only
        rw [if_pos hcount, Tx.bind_ok (recordCircuitFailure_apply _ _), Option.filter_some,
          if_pos (decide_eq_true hcount)]
        rfl
      · dsimp only
        rw [if_neg hcount, Option.filter_some, if_neg (by simpa using hcount)]
        rfl

/-- A class outside the counted ones leaves the circuits alone. -/
lemma countedCircuit_eq_none {cls : FailureClass} (h : cls ∉ circuitFailures) (task : TaskRow) :
    countedCircuit task cls = none := by
  rw [countedCircuit, Option.filter_eq_none_iff]
  exact fun key _ => by simp [h]

/-- The connection after the first event of an admitted failure report. -/
def afterClassified (c : StoreConn) (task : TaskRow) (report : FailureReportV1) : StoreConn :=
  { c with
    tables := { c.tables with
      agentEvents := c.tables.agentEvents ++
        [eventRow c task.taskId task.correlationId (classified task report)] }
    seq := { c.seq with eventId := c.seq.eventId + 1 } }

/-- The connection after the failure is counted against the circuit. -/
def afterCounted (c : StoreConn) (task : TaskRow) (report : FailureReportV1) : StoreConn :=
  { afterClassified c task report with
    tables := { (afterClassified c task report).tables with
      circuitBreakers := circuitsAfter c.tables c.now task report.failureClass } }

@[simp] lemma afterCounted_now (c : StoreConn) (task : TaskRow) (report : FailureReportV1) :
    (afterCounted c task report).now = c.now := rfl

@[simp] lemma afterCounted_agentTasks (c : StoreConn) (task : TaskRow)
    (report : FailureReportV1) :
    (afterCounted c task report).tables.agentTasks = c.tables.agentTasks := rfl

lemma countFailure_classified (c : StoreConn) (task : TaskRow) (report : FailureReportV1) :
    countFailure task report (afterClassified c task report)
      = (.ok (circuitAfter c.tables c.now task report.failureClass),
        afterCounted c task report) := countFailure_apply task report

/-- The two updates of a scheduled retry are one. -/
lemma updateKey_retried (t : Table TaskRow.taskId) (taskId : UUID) (retryAt : Timestamp)
    (cls : FailureClass) (key : Option String) :
    (t.updateKey taskId (movedRow .retryWait) (movedRow_taskId _)).updateKey taskId
        (scheduledRow retryAt cls key) (scheduledRow_taskId retryAt cls key)
      = t.updateKey taskId (retriedRow retryAt cls key) (retriedRow_taskId retryAt cls key) :=
  t.updateKey_updateKey taskId _ _ _ _

/-- A retryable failure: another attempt, or a dead letter when the budget is
spent. -/
lemma effect_retryOrDeadLetter {report : FailureReportV1} {recoveryId : UUID} {task : TaskRow}
    {d : ResilienceDecision} (hrow : c.tables.agentTasks.get? report.taskId = some task)
    (hadm : Admitted report task)
    (hrec : requiresRecovery report.failureClass report.sideEffectState = false)
    (hretry : report.failureClass ∈ retryableFailures)
    (hrun : retryOrDeadLetter task report
        (circuitAfter c.tables c.now task report.failureClass) (afterCounted c task report)
      = (.ok d, c')) :
    Effect c.now c.tables (.reportFailure report recoveryId) (.ok (.decision d)) c'.tables := by
  have hkey : task.taskId = report.taskId := Table.key_of_get? hrow
  rw [retryOrDeadLetter, Tx.bind_ok (Tx.now_apply _), afterCounted_now] at hrun
  by_cases hbudget : task.attemptCount < task.card.budget.maxAttempts
  · rw [if_pos hbudget] at hrun
    obtain ⟨_, c₂, hset, hrun⟩ := Tx.bind_eq_ok.mp hrun
    obtain ⟨-, -, rfl⟩ := setStatus_eq_ok.mp hset
    have htask : c.tables.agentTasks.get? task.taskId = some task := hkey ▸ hrow
    rcases updateTask_apply task.taskId (fun _ _ => true)
        (scheduledRow (c.now + seconds (delayBeforeRetry task report
          (circuitAfter c.tables c.now task report.failureClass))) report.failureClass
          task.circuitKey) (scheduledRow_taskId _ _ _) with ⟨r, -, -, hupd⟩ | ⟨hnone, -⟩
    · rw [Tx.bind_ok hupd, Tx.bind_ok (event_apply _ _ _)] at hrun
      obtain ⟨rfl, rfl⟩ := by simpa using hrun
      have heffect := @Effect.retryScheduled c.now c.tables report recoveryId task
        (c.seq.eventId + 1) (c.seq.eventId + 2) _ hrow hadm hrec hretry hbudget rfl
      rw [← hkey] at heffect
      simpa [afterCounted, afterClassified, logged, eventRow, updateKey_retried] using heffect
    · -- the row that `_set_status` wrote is there
      simp [Table.get?_updateKey, htask] at hnone
  · rw [if_neg hbudget] at hrun
    obtain ⟨_, c₂, hset, hrun⟩ := Tx.bind_eq_ok.mp hrun
    obtain ⟨-, -, rfl⟩ := setStatus_eq_ok.mp hset
    rw [Tx.bind_ok (recordDeadLetter_apply _ _ _)] at hrun
    obtain ⟨rfl, rfl⟩ := by simpa using hrun
    have heffect := @Effect.deadLettered c.now c.tables report recoveryId task (c.seq.eventId + 1)
      (c.seq.eventId + 2) (c.seq.deadLetterId + 1)
      ("retry budget exhausted: " ++ report.reason) hrow hadm hrec
      (Or.inl ⟨hretry, Nat.le_of_not_lt hbudget, rfl⟩)
    rw [← hkey] at heffect
    simpa [afterCounted, afterClassified, logged, eventRow] using heffect

/-- A failure with known side effects: a retryable class, or one of the three
classes that stop the task. -/
lemma effect_handleFailure {report : FailureReportV1} {recoveryId : UUID} {task : TaskRow}
    {d : ResilienceDecision} (hrow : c.tables.agentTasks.get? report.taskId = some task)
    (hadm : Admitted report task)
    (hrec : requiresRecovery report.failureClass report.sideEffectState = false)
    (hrun : handleFailure task report (afterClassified c task report) = (.ok d, c')) :
    Effect c.now c.tables (.reportFailure report recoveryId) (.ok (.decision d)) c'.tables := by
  have hkey : task.taskId = report.taskId := Table.key_of_get? hrow
  rw [handleFailure, Tx.bind_ok (countFailure_classified c task report)] at hrun
  by_cases hretry : report.failureClass ∈ retryableFailures
  · rw [if_pos hretry] at hrun
    exact effect_retryOrDeadLetter hrow hadm hrec hretry hrun
  rw [if_neg hretry] at hrun
  have hcount : countedCircuit task report.failureClass = none :=
    countedCircuit_eq_none (fun h => hretry (retryable_of_circuit h)) task
  have hcircs : ∀ s, circuitsAfter s c.now task report.failureClass = s.circuitBreakers :=
    fun s => by rw [circuitsAfter, hcount, Option.elim_none]
  cases hcls : report.failureClass with
  | transient | rateLimited | qualityFailure =>
      exact absurd (by rw [hcls]; simp [retryableFailures]) hretry
  | uncertainSideEffect => simp [requiresRecovery, hcls] at hrec
  | quotaExhausted =>
      rw [if_pos hcls] at hrun
      obtain ⟨_, c₂, hset, hrun⟩ := Tx.bind_eq_ok.mp hrun
      obtain ⟨-, -, rfl⟩ := setStatus_eq_ok.mp hset
      obtain ⟨rfl, rfl⟩ := by simpa using hrun
      have heffect := @Effect.stopped c.now c.tables report recoveryId task (c.seq.eventId + 1)
        _ _ hrow hadm hrec (Or.inl ⟨hcls, rfl, rfl⟩)
      rw [← hkey] at heffect
      simpa [afterCounted, afterClassified, hcircs, logged, eventRow] using heffect
  | policyViolation =>
      rw [if_neg (by simp [hcls]), if_pos hcls] at hrun
      obtain ⟨_, c₂, hset, hrun⟩ := Tx.bind_eq_ok.mp hrun
      obtain ⟨-, -, rfl⟩ := setStatus_eq_ok.mp hset
      obtain ⟨rfl, rfl⟩ := by simpa using hrun
      have heffect := @Effect.stopped c.now c.tables report recoveryId task (c.seq.eventId + 1)
        _ _ hrow hadm hrec (Or.inr ⟨hcls, rfl, rfl⟩)
      rw [← hkey] at heffect
      simpa [afterCounted, afterClassified, hcircs, logged, eventRow] using heffect
  | permanent =>
      rw [if_neg (by simp [hcls]), if_neg (by simp [hcls])] at hrun
      obtain ⟨_, c₂, hset, hrun⟩ := Tx.bind_eq_ok.mp hrun
      obtain ⟨-, -, rfl⟩ := setStatus_eq_ok.mp hset
      rw [Tx.bind_ok (recordDeadLetter_apply _ _ _)] at hrun
      obtain ⟨rfl, rfl⟩ := by simpa using hrun
      have heffect := @Effect.deadLettered c.now c.tables report recoveryId task
        (c.seq.eventId + 1) (c.seq.eventId + 2) (c.seq.deadLetterId + 1) report.reason hrow hadm
        hrec (Or.inr ⟨hcls, rfl⟩)
      rw [← hkey] at heffect
      simpa [afterCounted, afterClassified, hcircs, circuitAfter, hcount, logged, eventRow] using
        heffect

lemma effect_reportFailure {report : FailureReportV1} {recoveryId : UUID}
    (h : (Op.reportFailure report recoveryId).program c = (.ok a, c')) :
    Effect c.now c.tables (.reportFailure report recoveryId) (.ok a) c'.tables := by
  obtain ⟨d, c₁, hrun, hret⟩ := Tx.bind_eq_ok.mp h
  obtain ⟨rfl, rfl⟩ : .decision d = a ∧ c₁ = c' := by simpa using hret
  rw [reportFailure, Tx.bind_ok (selectTask_apply _)] at hrun
  cases htask : c.tables.agentTasks.get? report.taskId with
  | none =>
      rw [htask] at hrun
      simp at hrun
  | some task =>
      have hkey : task.taskId = report.taskId := Table.key_of_get? htask
      rw [htask] at hrun
      dsimp only at hrun
      by_cases hcorr : task.correlationId = report.correlationId
      swap
      · simp [hcorr] at hrun
      by_cases hown : task.ownerInstance = some report.workerInstance
      swap
      · simp [hcorr, hown] at hrun
      by_cases hexec : task.status.IsExecution
      swap
      · simp [hcorr, hown, hexec] at hrun
      rw [if_neg (not_not.mpr hcorr), if_neg (not_not.mpr hown), if_neg (not_not.mpr hexec),
        Tx.bind_ok (event_apply _ _ _)] at hrun
      by_cases hcirc : report.circuitKey.any (· ≠ "") ∧ report.circuitKey ≠ task.circuitKey
      · rw [if_pos hcirc] at hrun
        simp at hrun
      rw [if_neg hcirc] at hrun
      have hadm : Admitted report task := ⟨hcorr, hown, hexec, hcirc⟩
      cases hrec : requiresRecovery report.failureClass report.sideEffectState with
      | true =>
          rw [hrec, if_pos rfl] at hrun
          obtain ⟨_, c₂, hset, hrun⟩ := Tx.bind_eq_ok.mp hrun
          obtain ⟨-, -, rfl⟩ := setStatus_eq_ok.mp hset
          obtain ⟨id, c₃, hcard, hrun⟩ := Tx.bind_eq_ok.mp hrun
          obtain ⟨hfresh, hid, rfl⟩ := createRecoveryCard_eq_ok.mp hcard
          rw [hid] at hrun
          obtain ⟨rfl, rfl⟩ := by simpa using hrun
          have heffect := @Effect.recovery c.now c.tables report recoveryId task
            (c.seq.eventId + 1) (c.seq.eventId + 2) htask hadm hrec hfresh
          rw [← hkey] at heffect
          simpa [logged, eventRow, classified] using heffect
      | false =>
          rw [hrec, if_neg Bool.false_ne_true] at hrun
          exact effect_handleFailure htask hadm hrec hrun

/-! ### The two operations that commit before they raise -/

section

variable {op : Op} {now : Timestamp} {db : Db}

/-- The effect of an operation that returned. -/
lemma effect_of_ok (hrun : op.program ⟨db.tables, db.tables, db.seq, now⟩ = (.ok a, c'))
    (h : Effect now db.tables op (.ok a) c'.tables) :
    Effect now db.tables op (op.program.connect now db).1 (op.program.connect now db).2.tables := by
  rw [Tx.connect_ok hrun]
  exact h

/-- The effect of an operation that raised: the tables of the last commit. -/
lemma effect_of_error {e : Raised}
    (hrun : op.program ⟨db.tables, db.tables, db.seq, now⟩ = (.error e, c'))
    (h : Effect now db.tables op (.error e) c'.committed) :
    Effect now db.tables op (op.program.connect now db).1 (op.program.connect now db).2.tables := by
  rw [Tx.connect_error hrun]
  exact h

end

lemma effect_heartbeat (taskId : UUID) (worker : String) (mins : ℤ) (now : Timestamp) (db : Db) :
    Effect now db.tables (.heartbeat taskId worker mins)
      ((Op.heartbeat taskId worker mins).program.connect now db).1
      ((Op.heartbeat taskId worker mins).program.connect now db).2.tables := by
  set c : StoreConn := ⟨db.tables, db.tables, db.seq, now⟩
  rcases hlease : makeIntervalMins mins c with ⟨e | lease, c₁⟩
  · have hrun : heartbeat taskId worker mins c = (.error e, c₁) := by
      rw [heartbeat, Tx.bind_ok (Tx.now_apply c), Tx.bind_error hlease]
    have hcommit : c₁.committed = db.tables :=
      Tx.committed_eq (within_makeIntervalMins mins) hlease
    exact effect_of_error (Tx.bind_error hrun) (hcommit ▸ .failed _ e)
  obtain ⟨-, rfl, rfl⟩ := makeIntervalMins_eq_ok.mp hlease
  rcases updateTask_apply (c := c) taskId (fun _ r => renewable worker now r)
      (renewedRow (minutes mins) now) (renewedRow_taskId _ now) with
    ⟨r, hr, hp, hupd⟩ | ⟨hnone, hupd⟩
  · have hrun : heartbeat taskId worker mins c = (.ok (renewedRow (minutes mins) now r),
        { c with tables := { c.tables with
            agentTasks := c.tables.agentTasks.updateKey taskId (renewedRow (minutes mins) now)
              (renewedRow_taskId _ now) } }) := by
      rw [heartbeat, Tx.bind_ok (Tx.now_apply c), Tx.bind_ok hlease, Tx.bind_ok hupd]
      rfl
    exact effect_of_ok (Tx.bind_ok hrun) (.renewed taskId worker mins r hr hp)
  cases htask : c.tables.agentTasks.get? taskId with
  | none =>
      have hrun : heartbeat taskId worker mins c
          = (.error (.ownership "heartbeat without valid ownership rejected"), c) := by
        rw [heartbeat, Tx.bind_ok (Tx.now_apply c), Tx.bind_ok hlease, Tx.bind_ok hupd]
        dsimp only
        rw [Tx.bind_ok (selectTask_apply _), htask]
        rfl
      exact effect_of_error (Tx.bind_error hrun) (.failed _ _)
  | some task =>
      rw [htask, Option.filter_eq_none_iff] at hnone
      have hkey : task.taskId = taskId := Table.key_of_get? htask
      set tables : Tables := { c.tables with agentEvents := c.tables.agentEvents ++
        [eventRow c task.taskId task.correlationId (.heartbeatRejected worker)] }
      have hrun : heartbeat taskId worker mins c
          = (.error (.ownership "heartbeat without valid ownership rejected"),
            ⟨tables, tables, { c.seq with eventId := c.seq.eventId + 1 }, now⟩) := by
        rw [heartbeat, Tx.bind_ok (Tx.now_apply c), Tx.bind_ok hlease, Tx.bind_ok hupd]
        dsimp only
        rw [Tx.bind_ok (selectTask_apply _), htask]
        dsimp only
        rw [Tx.bind_ok (event_apply _ _ _)]
        rfl
      refine effect_of_error (Tx.bind_error hrun) ?_
      exact .heartbeatRejected taskId worker mins task _ htask (by simpa using hnone task rfl)

/-- The circuit part of a receipt: the circuit of a task that moved to review
is closed, and an existing one with an event. -/
lemma closeCircuit_apply (task : TaskRow) (target : TaskStatus) (c : StoreConn) :
    ∃ evs seq, logOf evs = (closingEvents c.tables task target).map (task.taskId, ·) ∧
      closeCircuit task target c = (.ok (), { c with
        tables := { c.tables with
          agentEvents := c.tables.agentEvents ++ evs
          circuitBreakers := circuitsClosed c.tables c.now task target }
        seq := seq }) := by
  rw [closeCircuit, circuitsClosed, closingEvents, closedKey]
  cases task.circuitKey with
  | none => exact ⟨[], c.seq, rfl, by simp⟩
  | some key =>
      by_cases hclose : target = .review ∧ key ≠ ""
      swap
      · dsimp only
        rw [if_neg hclose, Option.filter_some, if_neg (by simpa using hclose)]
        exact ⟨[], c.seq, rfl, by simp⟩
      dsimp only
      rw [if_pos hclose, Option.filter_some, if_pos (decide_eq_true hclose), Option.elim_some,
        Option.filter_some, Tx.bind_ok (Tx.now_apply c), Tx.bind_ok (Tx.read_apply c _),
        Tx.bind_ok (Tx.write_apply c _)]
      cases hget : c.tables.circuitBreakers.get? key with
      | none => exact ⟨[], c.seq, by simp, by simp⟩
      | some row =>
          refine ⟨[eventRow c task.taskId task.correlationId (.circuitClosed key)],
            { c.seq with eventId := c.seq.eventId + 1 }, ?_, ?_⟩
          · rfl
          · simp only [Option.isSome_some, if_true]
            exact event_apply _ _ _

lemma movedRow_inProgress (target : TaskStatus) (r : TaskRow) :
    movedRow target (movedRow .inProgress r) = movedRow target r := by
  by_cases h : target.IsExecution <;> simp [movedRow, h]

/-- The status part of an accepted receipt: a claimed task passes through
`in_progress`. -/
lemma startProgress_setStatus {task : TaskRow} {taskId : UUID} {target : TaskStatus}
    {c₁ c₂ : StoreConn} {u v : Unit} (hkey : task.taskId = taskId)
    (hstart : startProgress task c = (.ok u, c₁))
    (hset : setStatus task.taskId .inProgress target c₁ = (.ok v, c₂)) :
    c₂ = { c with tables := { c.tables with
      agentTasks := c.tables.agentTasks.updateKey taskId (movedRow target)
        (movedRow_taskId target) } } := by
  subst hkey
  obtain ⟨-, -, rfl⟩ := setStatus_eq_ok.mp hset
  rw [startProgress] at hstart
  by_cases hclaimed : task.status = .claimed
  · rw [if_pos hclaimed] at hstart
    obtain ⟨-, -, rfl⟩ := setStatus_eq_ok.mp hstart
    dsimp only
    rw [Table.updateKey_updateKey]
    simp only [movedRow_inProgress]
  · rw [if_neg hclaimed] at hstart
    obtain ⟨-, rfl⟩ := Prod.mk.inj hstart
    rfl

lemma effect_acceptReceipt {receipt : ResultReceiptV1} {task row : TaskRow}
    (hrow : c.tables.agentTasks.get? receipt.taskId = some task)
    (hown : task.ownerInstance = some receipt.workerInstance)
    (hrun : acceptReceipt task receipt c = (.ok row, c')) :
    Effect c.now c.tables (.submitReceipt receipt) (.ok (.row row)) c'.tables := by
  have hkey : task.taskId = receipt.taskId := Table.key_of_get? hrow
  by_cases hexec : task.status.IsExecution
  swap
  · simp [acceptReceipt, hexec] at hrun
  rw [acceptReceipt, if_neg (not_not.mpr hexec)] at hrun
  obtain ⟨_, c₁, hstart, hrun⟩ := Tx.bind_eq_ok.mp hrun
  obtain ⟨_, c₂, hset, hrun⟩ := Tx.bind_eq_ok.mp hrun
  obtain rfl := startProgress_setStatus hkey hstart hset
  rw [Tx.bind_ok (Tx.now_apply _), Tx.bind_ok (Tx.draw_apply _ _), Tx.bind_ok (Tx.write_apply _ _),
    Tx.bind_ok (event_apply _ _ _)] at hrun
  obtain ⟨_, c₃, hclose, hrun⟩ := Tx.bind_eq_ok.mp hrun
  obtain ⟨evs, seq, hlog, hclose'⟩ := closeCircuit_apply task (receiptTarget task receipt.outcome) _
  obtain ⟨-, rfl⟩ := Prod.mk.inj (hclose.symm.trans hclose')
  rw [Tx.bind_ok (selectTask_apply _)] at hrun
  simp only [Table.get?_updateKey, hrow, if_true, Option.map_some] at hrun
  obtain ⟨rfl, rfl⟩ := by simpa using hrun
  exact .receiptAccepted receipt task (c.seq.receiptId + 1)
    (eventRow c task.taskId task.correlationId (accepted task receipt) :: evs) hrow hown hexec
    (by rw [logOf_cons, hlog]; rfl)

lemma effect_submitReceipt (receipt : ResultReceiptV1) (now : Timestamp) (db : Db) :
    Effect now db.tables (.submitReceipt receipt)
      ((Op.submitReceipt receipt).program.connect now db).1
      ((Op.submitReceipt receipt).program.connect now db).2.tables := by
  set c : StoreConn := ⟨db.tables, db.tables, db.seq, now⟩
  cases htask : c.tables.agentTasks.get? receipt.taskId with
  | none =>
      have hrun : submitReceipt receipt c = (.error (taskNotFound receipt.taskId), c) := by
        rw [submitReceipt, Tx.bind_ok (selectTask_apply _), htask]
        rfl
      exact effect_of_error (Tx.bind_error hrun) (.failed _ _)
  | some task =>
      have hsplit : submitReceipt receipt c
          = (if task.ownerInstance ≠ some receipt.workerInstance then rejectReceipt task receipt
              else acceptReceipt task receipt) c := by
        rw [submitReceipt, Tx.bind_ok (selectTask_apply _), htask]
      by_cases hown : task.ownerInstance = some receipt.workerInstance
      · rw [if_neg (not_not.mpr hown)] at hsplit
        rcases hacc : acceptReceipt task receipt c with ⟨e | row, c₁⟩
        · have hcommit : c₁.committed = db.tables :=
            Tx.committed_eq (within_acceptReceipt task receipt) hacc
          exact effect_of_error (Tx.bind_error (hsplit.trans hacc)) (hcommit ▸ .failed _ e)
        · exact effect_of_ok (Tx.bind_ok (hsplit.trans hacc))
            (effect_acceptReceipt htask hown hacc)
      · rw [if_pos hown] at hsplit
        set tables : Tables := { c.tables with agentEvents := c.tables.agentEvents ++
          [eventRow c task.taskId task.correlationId
            (.receiptRejected "not lease owner" receipt.workerInstance)] }
        have hrej : rejectReceipt task receipt c
            = (.error (.ownership "receipt from non-owner worker rejected"),
              ⟨tables, tables, { c.seq with eventId := c.seq.eventId + 1 }, now⟩) := by
          rw [rejectReceipt, Tx.bind_ok (event_apply _ _ _)]
          rfl
        exact effect_of_error (Tx.bind_error (hsplit.trans hrej))
          (.receiptRejected receipt task _ htask hown)

end Store

open Store in
/-- **The store does what `Effect` says**, for every call in every state. -/
theorem store_effect (call : Call) (db : Db) :
    Effect call.now db.tables call.op (store.out call db) (store.next call db).tables := by
  obtain ⟨op, now⟩ := call
  -- an operation that never commits in the middle
  have hplain : Tx.Within Tx.SameCommit op.program →
      (∀ c c' a, op.program c = (.ok a, c') → Effect c.now c.tables op (.ok a) c'.tables) →
      Effect now db.tables op (op.program.connect now db).1
        (op.program.connect now db).2.tables := by
    intro hno hok
    rcases hrun : op.program.connect now db with ⟨e | a, db'⟩
    · have htables : db'.tables = db.tables := Tx.connect_raise hno hrun
      rw [htables]
      exact .failed op e
    · obtain ⟨c', hc', rfl⟩ := Tx.connect_eq_ok.mp hrun
      exact hok ⟨db.tables, db.tables, db.seq, now⟩ c' a hc'
  cases op with
  | createTask card =>
      exact hplain (.bind (within_createTask card) fun _ => .pure _) fun _ _ _ =>
        effect_createTask
  | claim taskId role worker mins =>
      exact hplain (.bind (within_claim taskId role worker mins) fun _ => .pure _) fun _ _ _ =>
        effect_claim
  | heartbeat taskId worker mins => exact effect_heartbeat taskId worker mins now db
  | expireLeases ids =>
      exact hplain (.bind (within_expireLeases ids) fun _ => .pure _) fun _ _ _ =>
        effect_expireLeases
  | reportFailure report recoveryId =>
      exact hplain (.bind (within_reportFailure report recoveryId) fun _ => .pure _)
        fun _ _ _ => effect_reportFailure
  | releaseDueRetries =>
      exact hplain (.bind within_releaseDueRetries fun _ => .pure _) fun _ _ _ =>
        effect_releaseDueRetries
  | submitReceipt receipt => exact effect_submitReceipt receipt now db
  | requestApproval card =>
      exact hplain (.bind (within_requestApproval card) fun _ => .pure _) fun _ _ _ =>
        effect_requestApproval
  | decideApproval approvalId decision decidedBy reason =>
      exact hplain (.bind (within_decideApproval approvalId decision decidedBy reason)
        fun _ => .pure _) fun _ _ _ => effect_decideApproval
  | transition taskId target reason =>
      exact hplain (.bind (within_transition taskId target reason) fun _ => .pure _)
        fun _ _ _ => effect_transition

end ControlHarness

import ControlHarness.Store.Effect

/-!
The life of one task.

A `TaskView` is what the store holds about one task: its row, its log and its
approvals, receipts, dead letters and recovery cards. `TaskStep now t v op v'`
is the step that the operation `op` at time `now` takes the task `t` from `v`
to `v'`, one constructor for each kind of step; the circuits, which tasks share,
are left out of it, so a step is possible here whatever their state.

This is the machine that the facts about single tasks are proved of. The store
refines it: every call leaves the view of a task alone or takes such a step.
`IdleStep` are the steps that are left to a task on which no worker is at work
(`TaskStep.idle`).
-/

namespace ControlHarness

open Store

/-- What the store holds about one task. -/
structure TaskView where
  row : Option TaskRow
  log : List HarnessEvent
  approvals : List ApprovalRow
  receipts : List ReceiptRow
  deadLetters : List DeadLetterRow
  recoveryCards : List RecoveryCardRow

namespace TaskView

/-- The view of a task that does not exist. -/
def empty : TaskView := ⟨none, [], [], [], [], []⟩

/-- The view after the row is written and events are appended. -/
def write (v : TaskView) (row : TaskRow) (events : List HarnessEvent) : TaskView :=
  { v with row := some row, log := v.log ++ events }

/-- The view after an event is appended and nothing else. -/
def note (v : TaskView) (e : HarnessEvent) : TaskView := { v with log := v.log ++ [e] }

end TaskView

/-- A lease that is past is one of a task in execution. -/
lemma isExecution_of_expired {now : Timestamp} {row : TaskRow} (h : expired now row = true) :
    row.status.IsExecution := by
  simp only [expired, Bool.and_eq_true, decide_eq_true_eq] at h
  exact h.1

/-- A lease that is renewed is one of a task in execution. -/
lemma isExecution_of_renewable {worker : String} {now : Timestamp} {row : TaskRow}
    (h : renewable worker now row = true) : row.status.IsExecution := by
  simp only [renewable, Bool.and_eq_true, decide_eq_true_eq] at h
  exact h.1.2

/-- The failure classes that stop a task without a retry or a dead letter, with
the status each leads to. -/
def StopsAt (cls : FailureClass) (target : TaskStatus) : Prop :=
  cls = .quotaExhausted ∧ target = .awaitingDecision ∨ cls = .policyViolation ∧ target = .blocked

/-- **The steps of a task**: what an operation at time `now` does to it. -/
inductive TaskStep (now : Timestamp) (t : UUID) (v : TaskView) : Op → TaskView → Prop where
  | created (card : TaskCardV1) (route : String) (hid : card.taskId = t) (hrow : v.row = none) :
      TaskStep now t v (.createTask card)
        (v.write (newTask card route now) [.taskCreated card.title card.project])
  | claimed (role worker : String) (mins : ℤ) (row : TaskRow) (hrow : v.row = some row)
      (hready : row.status = .ready) (hlease : row.leaseExpiresAt.all (· < now) = true) :
      TaskStep now t v (.claim t role worker mins)
        (v.write (claimedRow role worker (minutes mins) now row)
          [.taskClaimed worker (row.attemptCount + 1)])
  | renewed (worker : String) (mins : ℤ) (row : TaskRow) (hrow : v.row = some row)
      (hrenew : renewable worker now row = true) :
      TaskStep now t v (.heartbeat t worker mins) (v.write (renewedRow (minutes mins) now row) [])
  | heartbeatRejected (worker : String) (mins : ℤ) (row : TaskRow) (hrow : v.row = some row)
      (hrej : renewable worker now row = false) :
      TaskStep now t v (.heartbeat t worker mins) (v.note (.heartbeatRejected worker))
  | swept (recoveryIds : UUID → UUID) (row : TaskRow) (hrow : v.row = some row)
      (hexp : expired now row = true) :
      TaskStep now t v (.expireLeases recoveryIds)
        { v.write (sweptRow row) (sweepEvents recoveryIds row) with
          recoveryCards := v.recoveryCards ++
            [newRecoveryCard row "lease_expired" sweepReason (recoveryIds row.taskId) now] }
  | recovery (report : FailureReportV1) (recoveryId : UUID) (row : TaskRow)
      (hid : report.taskId = t) (hrow : v.row = some row) (hadm : Admitted report row)
      (hrec : requiresRecovery report.failureClass report.sideEffectState = true) :
      TaskStep now t v (.reportFailure report recoveryId)
        { v.write (movedRow .recoveryRequired row)
            [classified row report,
              .recoveryCardCreated recoveryId report.failureClass.value allowedActions] with
          recoveryCards := v.recoveryCards ++
            [newRecoveryCard row report.failureClass.value report.reason recoveryId now] }
  | retryScheduled (report : FailureReportV1) (recoveryId : UUID) (row : TaskRow) (delay : ℕ)
      (hid : report.taskId = t) (hrow : v.row = some row) (hadm : Admitted report row)
      (hrec : requiresRecovery report.failureClass report.sideEffectState = false)
      (hretry : report.failureClass ∈ retryableFailures)
      (hbudget : row.attemptCount < row.card.budget.maxAttempts) :
      TaskStep now t v (.reportFailure report recoveryId)
        (v.write (retriedRow (now + seconds delay) report.failureClass row.circuitKey row)
          [classified row report,
            .retryScheduled (now + seconds delay) delay row.attemptCount])
  | deadLettered (report : FailureReportV1) (recoveryId : UUID) (row : TaskRow)
      (deadLetterId : ℕ) (reason : String) (hid : report.taskId = t) (hrow : v.row = some row)
      (hadm : Admitted report row)
      (hrec : requiresRecovery report.failureClass report.sideEffectState = false)
      (hfinal : EndsInDeadLetter report row reason) :
      TaskStep now t v (.reportFailure report recoveryId)
        { v.write (movedRow .failed row)
            [classified row report, .deadLetterCreated deadLetterId report.failureClass] with
          deadLetters := v.deadLetters ++ [newDeadLetter row report reason deadLetterId now] }
  | stopped (report : FailureReportV1) (recoveryId : UUID) (row : TaskRow) (target : TaskStatus)
      (hid : report.taskId = t) (hrow : v.row = some row) (hadm : Admitted report row)
      (hrec : requiresRecovery report.failureClass report.sideEffectState = false)
      (hstop : StopsAt report.failureClass target) :
      TaskStep now t v (.reportFailure report recoveryId)
        (v.write (movedRow target row) [classified row report])
  | released (row : TaskRow) (hrow : v.row = some row) (hwait : row.status = .retryWait)
      (hdue : row.nextAttemptAt.any (· ≤ now) = true) :
      TaskStep now t v .releaseDueRetries
        (v.write (releasedRow row) [.retryReleased (row.attemptCount + 1)])
  | receiptRejected (receipt : ResultReceiptV1) (row : TaskRow) (hid : receipt.taskId = t)
      (hrow : v.row = some row) (hown : row.ownerInstance ≠ some receipt.workerInstance) :
      TaskStep now t v (.submitReceipt receipt)
        (v.note (.receiptRejected "not lease owner" receipt.workerInstance))
  | receiptAccepted (receipt : ResultReceiptV1) (row : TaskRow) (receiptId : ℕ)
      (closing : List HarnessEvent) (hid : receipt.taskId = t) (hrow : v.row = some row)
      (hown : row.ownerInstance = some receipt.workerInstance) (hexec : row.status.IsExecution)
      (hclosing : ∀ e ∈ closing, ∃ key, e = .circuitClosed key) :
      TaskStep now t v (.submitReceipt receipt)
        { v.write (receiptRow row receipt) (accepted row receipt :: closing) with
          receipts := v.receipts ++ [⟨receiptId, receipt.taskId, receipt.workerInstance,
            receipt.outcome, receipt, now⟩] }
  | approvalRequested (card : ApprovalCardV1) (row : TaskRow) (hid : card.taskId = t)
      (hrow : v.row = some row) (hstatus : row.status = .review) :
      TaskStep now t v (.requestApproval card)
        { v.write (movedRow .awaitingApproval row)
            [.approvalRequested card.approvalId card.action] with
          approvals := v.approvals ++ [newApproval card now] }
  | approvalDecided (approvalId : UUID) (decision decidedBy reason : String) (d : Decision)
      (approval : ApprovalRow) (row : TaskRow) (hd : Decision.ofText decision = some d)
      (happ : approval ∈ v.approvals) (hkey : approval.approvalId = approvalId)
      (hopen : approval.status = .requested) (hrow : v.row = some row)
      (hstatus : decisionTarget d ∈ transitions row.status) :
      TaskStep now t v (.decideApproval approvalId decision decidedBy reason)
        { v.write (movedRow (decisionTarget d) row)
            [.approvalDecided approvalId d decidedBy] with
          approvals := v.approvals.map fun a =>
            if a.approvalId = approvalId then decidedApproval d decidedBy reason now a else a }
  | transitioned (target : TaskStatus) (reason : String) (row : TaskRow)
      (hrow : v.row = some row) (hstatus : target ∈ transitions row.status) :
      TaskStep now t v (.transition t target reason)
        (v.write (movedRow target row) [.statusChanged row.status target reason])

/-- The steps of a task that is not in execution, with what later proofs ask of
each. -/
inductive IdleStep (now : Timestamp) (t : UUID) (v : TaskView) (row : TaskRow) :
    Op → TaskView → Prop where
  | noted (op : Op) (e : HarnessEvent) : IdleStep now t v row op (v.note e)
  | claimed (role worker : String) (mins : ℤ) (v' : TaskView) (hready : row.status = .ready) :
      IdleStep now t v row (.claim t role worker mins) v'
  | released (v' : TaskView) (hwait : row.status = .retryWait)
      (hdue : row.nextAttemptAt.any (· ≤ now) = true) : IdleStep now t v row .releaseDueRetries v'
  | approvalRequested (card : ApprovalCardV1) (v' : TaskView) (hreview : row.status = .review)
      (hrow' : v'.row = some (movedRow .awaitingApproval row)) :
      IdleStep now t v row (.requestApproval card) v'
  | approvalDecided (approvalId : UUID) (decision decidedBy reason : String) (d : Decision)
      (approval : ApprovalRow) (v' : TaskView) (happ : approval ∈ v.approvals)
      (hstatus : decisionTarget d ∈ transitions row.status)
      (hrow' : v'.row = some (movedRow (decisionTarget d) row)) :
      IdleStep now t v row (.decideApproval approvalId decision decidedBy reason) v'
  | transitioned (target : TaskStatus) (reason : String) (v' : TaskView) :
      IdleStep now t v row (.transition t target reason) v'

/-- A step of a task that is not in execution is one of those. -/
lemma TaskStep.idle {now : Timestamp} {t : UUID} {v v' : TaskView} {op : Op} {row : TaskRow}
    (h : TaskStep now t v op v') (hrow : v.row = some row) (hidle : ¬ row.status.IsExecution) :
    IdleStep now t v row op v' := by
  have hsame : ∀ {r}, v.row = some r → r = row := fun hr => Option.some.inj (hr.symm.trans hrow)
  cases h with
  | created card route hid hnone => exact absurd (hrow.symm.trans hnone) (by simp)
  | claimed role worker mins r hr hready =>
      obtain rfl := hsame hr
      exact .claimed role worker mins _ hready
  | renewed worker mins r hr hrenew =>
      obtain rfl := hsame hr
      exact absurd (isExecution_of_renewable hrenew) hidle
  | heartbeatRejected | receiptRejected => exact .noted _ _
  | swept ids r hr hexp =>
      obtain rfl := hsame hr
      exact absurd (isExecution_of_expired hexp) hidle
  | recovery report id r hid hr hadm | retryScheduled report id r delay hid hr hadm
  | deadLettered report id r letterId reason hid hr hadm
  | stopped report id r target hid hr hadm =>
      obtain rfl := hsame hr
      exact absurd hadm.execution hidle
  | released r hr hwait hdue =>
      obtain rfl := hsame hr
      exact .released _ hwait hdue
  | receiptAccepted receipt r receiptId closing hid hr hown hexec =>
      obtain rfl := hsame hr
      exact absurd hexec hidle
  | approvalRequested card r hid hr hreview =>
      obtain rfl := hsame hr
      exact .approvalRequested card _ hreview rfl
  | approvalDecided id decision by_ reason d approval r hd happ hkey hopen hr hstatus =>
      obtain rfl := hsame hr
      exact .approvalDecided id decision by_ reason d approval _ happ hstatus rfl
  | transitioned target reason r hr => exact .transitioned target reason _

end ControlHarness

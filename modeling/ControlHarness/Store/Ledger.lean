import ControlHarness.Store.Acceptance

/-!
What an operation makes of the tables, as a function.

The event log and the serial numbers of receipts and dead letters record what
happened and decide nothing. `Tables.ledger` forgets them. `Op.post` is the
abstract operation on what is left: the tables after a success, or nothing when
the operation fails. The store refines it (`store_post`): a call succeeds
exactly when `post` has a value, and its tables are then those of `post` up to
the log and the numbers; a call that fails leaves them alone.
-/

namespace ControlHarness

/-- A receipt without its number. -/
def ReceiptRow.unnumbered (r : ReceiptRow) : ReceiptRow := { r with receiptId := 0 }

/-- A dead letter without its number. -/
def DeadLetterRow.unnumbered (r : DeadLetterRow) : DeadLetterRow := { r with deadLetterId := 0 }

/-- The tables without the event log and the serial numbers. -/
def Tables.ledger (s : Tables) : Tables :=
  { s with
    agentEvents := []
    routingReceipts := s.routingReceipts.map ReceiptRow.unnumbered
    deadLetters := s.deadLetters.map DeadLetterRow.unnumbered }

/-- The operation succeeded. A claim that finds no claimable task returns, and
does not succeed. -/
def succeeded : Except Raised Reply → Bool
  | .ok (.claimed none) => false
  | .ok _ => true
  | .error _ => false

namespace Store

instance (report : FailureReportV1) (task : TaskRow) : Decidable (Admitted report task) :=
  decidable_of_iff
    (task.correlationId = report.correlationId ∧ task.ownerInstance = some report.workerInstance ∧
      task.status.IsExecution ∧
      ¬ (report.circuitKey.any (· ≠ "") ∧ report.circuitKey ≠ task.circuitKey))
    ⟨fun h => ⟨h.1, h.2.1, h.2.2.1, h.2.2.2⟩,
      fun h => ⟨h.correlation, h.owner, h.execution, h.circuit⟩⟩

/-- The tables with a task rewritten. -/
def rewritten (s : Tables) (taskId : UUID) (f : TaskRow → TaskRow)
    (hf : ∀ r, (f r).taskId = r.taskId) : Tables :=
  { s with agentTasks := s.agentTasks.updateKey taskId f hf }

/-- The tables after a failure that ends in a dead letter. -/
def lettered (s : Tables) (now : Timestamp) (task : TaskRow) (report : FailureReportV1)
    (reason : String) : Tables :=
  { rewritten s report.taskId (movedRow .failed) (movedRow_taskId _) with
    circuitBreakers := circuitsAfter s now task report.failureClass
    deadLetters := s.deadLetters ++ [newDeadLetter task report reason 0 now] }

/-- The tables after a failure that another attempt follows. -/
def retried (s : Tables) (now : Timestamp) (task : TaskRow) (report : FailureReportV1)
    (retryAt : Timestamp) : Tables :=
  { rewritten s report.taskId (retriedRow retryAt report.failureClass task.circuitKey)
      (retriedRow_taskId _ _ _) with
    circuitBreakers := circuitsAfter s now task report.failureClass }

/-- The time of the next attempt. -/
def retryTime (s : Tables) (now : Timestamp) (task : TaskRow) (report : FailureReportV1) :
    Timestamp :=
  now + seconds (delayBeforeRetry task report (circuitAfter s now task report.failureClass))

/-- The tables after an admitted failure report with known side effects. -/
def postFailure (now : Timestamp) (s : Tables) (report : FailureReportV1) (task : TaskRow) :
    Tables :=
  match report.failureClass with
  | .quotaExhausted =>
      rewritten s report.taskId (movedRow .awaitingDecision) (movedRow_taskId _)
  | .policyViolation => rewritten s report.taskId (movedRow .blocked) (movedRow_taskId _)
  | .permanent | .uncertainSideEffect => lettered s now task report report.reason
  | .transient | .rateLimited | .qualityFailure =>
    if task.attemptCount < task.card.budget.maxAttempts then
      retried s now task report (retryTime s now task report)
    else lettered s now task report ("retry budget exhausted: " ++ report.reason)

/-- The tables after an admitted failure report that requires recovery. -/
def postRecovery (now : Timestamp) (s : Tables) (report : FailureReportV1) (recoveryId : UUID)
    (task : TaskRow) : Tables :=
  { rewritten s report.taskId (movedRow .recoveryRequired) (movedRow_taskId _) with
    recoveryCards := s.recoveryCards.insert
      (newRecoveryCard task report.failureClass.value report.reason recoveryId now) }

/-- The tables after a receipt from the owner of a task in execution. -/
def postReceipt (now : Timestamp) (s : Tables) (receipt : ResultReceiptV1) (task : TaskRow) :
    Tables :=
  let target := receiptTarget task receipt.outcome
  { rewritten s receipt.taskId (movedRow target) (movedRow_taskId _) with
    routingReceipts := s.routingReceipts ++
      [⟨0, receipt.taskId, receipt.workerInstance, receipt.outcome, receipt, now⟩]
    circuitBreakers := circuitsClosed s now task target }

/-- The tables after `request_approval` on a task in review. -/
def postRequest (now : Timestamp) (s : Tables) (card : ApprovalCardV1) : Tables :=
  { rewritten s card.taskId (movedRow .awaitingApproval) (movedRow_taskId _) with
    approvals := s.approvals.insert (newApproval card now) }

/-- The tables after `decide_approval` on an open approval. -/
def postDecision (now : Timestamp) (s : Tables) (d : Decision) (decidedBy reason : String)
    (approval : ApprovalRow) : Tables :=
  { rewritten s approval.taskId (movedRow (decisionTarget d)) (movedRow_taskId _) with
    approvals := s.approvals.updateKey approval.approvalId
      (decidedApproval d decidedBy reason now) (decidedApproval_approvalId d decidedBy reason now) }

/-- The approval of the identifier, while it is open. -/
def openApproval (s : Tables) (approvalId : UUID) : Option ApprovalRow :=
  (s.approvals.get? approvalId).filter fun a => a.status = .requested

end Store

open Store

/-- **The abstract operation**: the tables after a success, up to the log and
the numbers, or nothing when the operation fails. -/
def Op.post (now : Timestamp) (s : Tables) : Op → Option Tables
  | .createTask card =>
      card.modelRouting.defaultRoute.head?.bind fun route =>
        (s.agentTasks.rows.find? fun r => r.idempotencyKey = card.idempotencyKey).elim
          ((s.agentTasks.get? card.taskId).elim
            (some { s with agentTasks := s.agentTasks.insert (newTask card route now) })
            fun _ => none)
          fun _ => some s
  | .claim taskId role worker mins =>
      if IntervalMins mins then
        ((s.agentTasks.get? taskId).filter (claimable now s)).map fun _ =>
          rewritten s taskId (claimedRow role worker (minutes mins) now) (fun _ => rfl)
      else none
  | .heartbeat taskId worker mins =>
      if IntervalMins mins then
        ((s.agentTasks.get? taskId).filter (renewable worker now)).map fun _ =>
          rewritten s taskId (renewedRow (minutes mins) now) (fun _ => rfl)
      else none
  | .expireLeases recoveryIds =>
      (s.recoveryCards.append?
        ((s.agentTasks.rows.filter (expired now)).map (sweepCard recoveryIds now))).map fun cards =>
          { s with
            agentTasks := s.agentTasks.updateWhere (expired now) sweptRow sweptRow_taskId
            recoveryCards := cards }
  | .reportFailure report recoveryId =>
      ((s.agentTasks.get? report.taskId).filter fun r => Admitted report r).bind fun task =>
        if requiresRecovery report.failureClass report.sideEffectState then
          (s.recoveryCards.get? recoveryId).elim (some (postRecovery now s report recoveryId task))
            fun _ => none
        else some (postFailure now s report task)
  | .releaseDueRetries =>
      some { s with
        agentTasks := s.agentTasks.updateWhere (releasable now s) releasedRow releasedRow_taskId }
  | .submitReceipt receipt =>
      ((s.agentTasks.get? receipt.taskId).filter fun r =>
        r.ownerInstance = some receipt.workerInstance && decide r.status.IsExecution).map fun task =>
          postReceipt now s receipt task
  | .requestApproval card =>
      ((s.agentTasks.get? card.taskId).filter fun r => r.status = .review).bind fun _ =>
        (s.approvals.get? card.approvalId).elim (some (postRequest now s card)) fun _ => none
  | .decideApproval approvalId decision decidedBy reason =>
      (Decision.ofText decision).bind fun d =>
        (openApproval s approvalId).bind fun approval =>
          ((s.agentTasks.get? approval.taskId).filter fun r =>
            decisionTarget d ∈ transitions r.status).map fun _ =>
              postDecision now s d decidedBy reason approval
  | .transition taskId target _ =>
      ((s.agentTasks.get? taskId).filter fun r => target ∈ transitions r.status).map fun _ =>
        rewritten s taskId (movedRow target) (movedRow_taskId _)

/-! ### The ledger of the tables -/

namespace Tables

@[simp] lemma ledger_agentTasks (s : Tables) : s.ledger.agentTasks = s.agentTasks := rfl

@[simp] lemma ledger_approvals (s : Tables) : s.ledger.approvals = s.approvals := rfl

@[simp] lemma ledger_circuitBreakers (s : Tables) :
    s.ledger.circuitBreakers = s.circuitBreakers := rfl

@[simp] lemma ledger_recoveryCards (s : Tables) : s.ledger.recoveryCards = s.recoveryCards := rfl

/-- Two tables with the same ledger. -/
lemma ledger_congr {s s' : Tables} (htasks : s.agentTasks = s'.agentTasks)
    (happrovals : s.approvals = s'.approvals)
    (hreceipts : s.routingReceipts.map ReceiptRow.unnumbered
      = s'.routingReceipts.map ReceiptRow.unnumbered)
    (hcircuits : s.circuitBreakers = s'.circuitBreakers)
    (hletters : s.deadLetters.map DeadLetterRow.unnumbered
      = s'.deadLetters.map DeadLetterRow.unnumbered)
    (hcards : s.recoveryCards = s'.recoveryCards) : s.ledger = s'.ledger := by
  rw [ledger, ledger, htasks, happrovals, hreceipts, hcircuits, hletters, hcards]

end Tables

namespace Store

variable (now : Timestamp) (s : Tables)

lemma lettered_ledger (task : TaskRow) (report : FailureReportV1) (reason : String) :
    lettered s.ledger now task report reason = (lettered s now task report reason).ledger := by
  simp only [lettered, Tables.ledger, List.map_append]
  rfl

lemma postFailure_ledger (report : FailureReportV1) (task : TaskRow) :
    postFailure now s.ledger report task = (postFailure now s report task).ledger := by
  have hretry : (if task.attemptCount < task.card.budget.maxAttempts then
        retried s.ledger now task report (retryTime s.ledger now task report)
      else lettered s.ledger now task report ("retry budget exhausted: " ++ report.reason))
      = (if task.attemptCount < task.card.budget.maxAttempts then
          retried s now task report (retryTime s now task report)
        else lettered s now task report ("retry budget exhausted: " ++ report.reason)).ledger := by
    split_ifs
    · rfl
    · exact lettered_ledger now s task report _
  rw [postFailure, postFailure]
  cases report.failureClass with
  | transient | rateLimited | qualityFailure => exact hretry
  | quotaExhausted | policyViolation => rfl
  | permanent | uncertainSideEffect => exact lettered_ledger now s task report _

lemma postReceipt_ledger (receipt : ResultReceiptV1) (task : TaskRow) :
    postReceipt now s.ledger receipt task = (postReceipt now s receipt task).ledger := by
  simp only [postReceipt, Tables.ledger, List.map_append]
  rfl

end Store

/-- The abstract operation does not look at the log and the numbers. -/
lemma Op.post_ledger (now : Timestamp) (s : Tables) (op : Op) :
    op.post now s.ledger = (op.post now s).map Tables.ledger := by
  cases op with
  | createTask card =>
      simp only [post, Tables.ledger_agentTasks]
      cases card.modelRouting.defaultRoute.head? with
      | none => rfl
      | some route =>
          simp only [Option.bind_some]
          cases s.agentTasks.rows.find? fun r =>
            decide (r.idempotencyKey = card.idempotencyKey) with
          | some row => rfl
          | none => cases s.agentTasks.get? card.taskId <;> rfl
  | claim taskId role worker mins | heartbeat taskId worker mins =>
      simp only [post]
      split_ifs
      · rw [Option.map_map]
        rfl
      · rfl
  | expireLeases recoveryIds =>
      simp only [post]
      rw [Option.map_map]
      rfl
  | reportFailure report recoveryId =>
      simp only [post, Tables.ledger_agentTasks, Tables.ledger_recoveryCards]
      cases (s.agentTasks.get? report.taskId).filter fun r => Admitted report r with
      | none => rfl
      | some task =>
          simp only [Option.bind_some]
          split_ifs
          · cases s.recoveryCards.get? recoveryId <;> rfl
          · rw [postFailure_ledger]
            rfl
  | releaseDueRetries => rfl
  | submitReceipt receipt =>
      simp only [post, Tables.ledger_agentTasks, Option.map_map]
      congr 1
      funext task
      exact postReceipt_ledger now s receipt task
  | requestApproval card =>
      simp only [post, Tables.ledger_agentTasks, Tables.ledger_approvals]
      cases (s.agentTasks.get? card.taskId).filter fun r => r.status = .review with
      | none => rfl
      | some task =>
          simp only [Option.bind_some]
          cases s.approvals.get? card.approvalId <;> rfl
  | decideApproval approvalId decision decidedBy reason =>
      have hopen : openApproval s.ledger approvalId = openApproval s approvalId := rfl
      simp only [post, hopen]
      cases Decision.ofText decision with
      | none => rfl
      | some d =>
          simp only [Option.bind_some]
          cases openApproval s approvalId with
          | none => rfl
          | some approval =>
              simp only [Option.bind_some, Option.map_map]
              rfl
  | transition taskId target reason =>
      simp only [post]
      rw [Option.map_map]
      rfl

/-! ### The store refines it -/

/-- The answer of an operation that returned tables for a success. -/
lemma succeeded_of_post {call : Call} {db : Db} {s' : Tables}
    (h : call.op.post call.now db.tables = some s') : succeeded (store.out call db) = true := by
  obtain ⟨op, now⟩ := call
  cases op with
  | createTask card =>
      obtain ⟨route, hroute, h⟩ := Option.bind_eq_some_iff.mp h
      cases hkey : db.tables.agentTasks.rows.find?
          (fun r => r.idempotencyKey = card.idempotencyKey) with
      | some row => rw [createTask_existing now hroute hkey]; rfl
      | none =>
          cases hfresh : db.tables.agentTasks.get? card.taskId with
          | some row => simp [hkey, hfresh] at h
          | none => rw [createTask_created now hroute hkey hfresh]; rfl
  | claim taskId role worker mins =>
      rw [Op.post] at h
      split at h
      · rename_i hmins
        obtain ⟨row, hrow, -⟩ := Option.map_eq_some_iff.mp h
        obtain ⟨hrow, hclaim⟩ := Option.filter_eq_some_iff.mp hrow
        rw [claim_accepted now role worker hmins hrow hclaim]
        rfl
      · exact absurd h (by simp)
  | heartbeat taskId worker mins =>
      rw [Op.post] at h
      split at h
      · rename_i hmins
        obtain ⟨row, hrow, -⟩ := Option.map_eq_some_iff.mp h
        obtain ⟨hrow, hrenew⟩ := Option.filter_eq_some_iff.mp hrow
        rw [heartbeat_accepted now hmins hrow hrenew]
        rfl
      · exact absurd h (by simp)
  | expireLeases recoveryIds =>
      obtain ⟨cards, hcards, -⟩ := Option.map_eq_some_iff.mp h
      obtain ⟨rows, hout⟩ := expireLeases_accepted now hcards
      rw [hout]
      rfl
  | reportFailure report recoveryId =>
      obtain ⟨task, htask, h⟩ := Option.bind_eq_some_iff.mp h
      obtain ⟨hrow, hadm⟩ := Option.filter_eq_some_iff.mp htask
      have hadm : Admitted report task := of_decide_eq_true hadm
      cases hrec : requiresRecovery report.failureClass report.sideEffectState with
      | true =>
          cases hfresh : db.tables.recoveryCards.get? recoveryId with
          | some card => simp [hrec, hfresh] at h
          | none =>
              obtain ⟨d, hout⟩ := reportFailure_recovery now hrow hadm hrec hfresh
              rw [hout]
              rfl
      | false =>
          obtain ⟨d, hout⟩ := reportFailure_accepted recoveryId now hrow hadm hrec
          rw [hout]
          rfl
  | releaseDueRetries =>
      obtain ⟨rows, hout⟩ := releaseDueRetries_accepted now db
      rw [hout]
      rfl
  | submitReceipt receipt =>
      obtain ⟨task, htask, -⟩ := Option.map_eq_some_iff.mp h
      obtain ⟨hrow, hguard⟩ := Option.filter_eq_some_iff.mp htask
      rw [Bool.and_eq_true, decide_eq_true_eq, decide_eq_true_eq] at hguard
      obtain ⟨row, hout⟩ := submitReceipt_accepted now hrow hguard.1 hguard.2
      rw [hout]
      rfl
  | requestApproval card =>
      obtain ⟨task, htask, h⟩ := Option.bind_eq_some_iff.mp h
      obtain ⟨hrow, hreview⟩ := Option.filter_eq_some_iff.mp htask
      cases hfresh : db.tables.approvals.get? card.approvalId with
      | some approval => simp [hfresh] at h
      | none =>
          obtain ⟨answer, hout⟩ :=
            requestApproval_accepted now hrow (of_decide_eq_true hreview) hfresh
          rw [hout]
          rfl
  | decideApproval approvalId decision decidedBy reason =>
      obtain ⟨d, hd, h⟩ := Option.bind_eq_some_iff.mp h
      obtain ⟨approval, happ, h⟩ := Option.bind_eq_some_iff.mp h
      obtain ⟨task, htask, -⟩ := Option.map_eq_some_iff.mp h
      obtain ⟨happ, hopen⟩ := Option.filter_eq_some_iff.mp happ
      obtain ⟨hrow, hstatus⟩ := Option.filter_eq_some_iff.mp htask
      obtain ⟨answer, hout⟩ := decideApproval_accepted now decidedBy reason hd happ
        (of_decide_eq_true hopen) hrow (of_decide_eq_true hstatus)
      rw [hout]
      rfl
  | transition taskId target reason =>
      obtain ⟨task, htask, -⟩ := Option.map_eq_some_iff.mp h
      obtain ⟨hrow, hstatus⟩ := Option.filter_eq_some_iff.mp htask
      obtain ⟨row, hout⟩ := transition_accepted now reason hrow (of_decide_eq_true hstatus)
      rw [hout]
      rfl

/-- A call that succeeds has an interval that the database can make. -/
lemma intervalMins_of_succeeded {call : Call} {db : Db}
    (h : succeeded (store.out call db) = true) :
    (∀ t role worker mins, call.op = .claim t role worker mins → IntervalMins mins) ∧
      ∀ t worker mins, call.op = .heartbeat t worker mins → IntervalMins mins := by
  obtain ⟨op, now⟩ := call
  constructor
  · rintro t role worker mins rfl
    by_contra hmins
    obtain ⟨e, hout⟩ : ∃ e, store.out ⟨.claim t role worker mins, now⟩ db = .error e :=
      claim_interval now hmins
    rw [hout] at h
    exact Bool.noConfusion h
  · rintro t worker mins rfl
    by_contra hmins
    obtain ⟨e, hout⟩ : ∃ e, store.out ⟨.heartbeat t worker mins, now⟩ db = .error e :=
      heartbeat_interval now hmins
    rw [hout] at h
    exact Bool.noConfusion h

section

variable {now : Timestamp} {s : Tables} {report : FailureReportV1} {task : TaskRow}

/-- `post` of an admitted failure report. -/
lemma post_report {recoveryId : UUID} (hrow : s.agentTasks.get? report.taskId = some task)
    (hadm : Admitted report task) :
    (Op.reportFailure report recoveryId).post now s
      = if requiresRecovery report.failureClass report.sideEffectState then
          (s.recoveryCards.get? recoveryId).elim (some (postRecovery now s report recoveryId task))
            fun _ => none
        else some (postFailure now s report task) := by
  rw [Op.post, hrow, Option.filter_some, if_pos (decide_eq_true hadm), Option.bind_some]

lemma postFailure_retried (hretry : report.failureClass ∈ retryableFailures)
    (hbudget : task.attemptCount < task.card.budget.maxAttempts) :
    postFailure now s report task
      = retried s now task report (retryTime s now task report) := by
  rw [postFailure]
  cases hcls : report.failureClass with
  | transient | rateLimited | qualityFailure => exact if_pos hbudget
  | quotaExhausted | policyViolation | permanent | uncertainSideEffect =>
      rw [hcls] at hretry
      exact absurd hretry (by decide)

lemma postFailure_lettered {reason : String} (hfinal : EndsInDeadLetter report task reason) :
    postFailure now s report task = lettered s now task report reason := by
  rw [postFailure]
  rcases hfinal with ⟨hretry, hbudget, rfl⟩ | ⟨hcls, rfl⟩
  · cases hcls : report.failureClass with
    | transient | rateLimited | qualityFailure => exact if_neg (by omega)
    | quotaExhausted | policyViolation | permanent | uncertainSideEffect =>
        rw [hcls] at hretry
        exact absurd hretry (by decide)
  · rw [hcls]

end

/-- The tables of an operation that succeeded are those of `post`. -/
lemma post_of_effect {now : Timestamp} {s s' : Tables} {op : Op} {reply : Except Raised Reply}
    (h : Effect now s op reply s') (hs : succeeded reply = true)
    (hclaim : ∀ t role worker mins, op = .claim t role worker mins → IntervalMins mins)
    (hbeat : ∀ t worker mins, op = .heartbeat t worker mins → IntervalMins mins) :
    ∃ s₁, op.post now s = some s₁ ∧ s'.ledger = s₁.ledger := by
  cases h with
  | failed | notClaimed | heartbeatRejected | receiptRejected => exact Bool.noConfusion hs
  | existing card route row hroute hkey =>
      have hpost : (Op.createTask card).post now s = some s := by
        rw [Op.post, hroute, Option.bind_some, hkey, Option.elim_some]
      exact ⟨s, hpost, rfl⟩
  | created card route eventId hroute hkey hfresh =>
      have hpost : (Op.createTask card).post now s
          = some { s with agentTasks := s.agentTasks.insert (newTask card route now) } := by
        rw [Op.post, hroute, Option.bind_some, hkey, Option.elim_none, hfresh, Option.elim_none]
      exact ⟨_, hpost, rfl⟩
  | claimed taskId role worker mins row eventId hrow hready =>
      have hpost : (Op.claim taskId role worker mins).post now s
          = some (rewritten s taskId (claimedRow role worker (minutes mins) now) fun _ => rfl) := by
        rw [Op.post, if_pos (hclaim taskId role worker mins rfl), hrow, Option.filter_some,
          if_pos hready, Option.map_some]
      exact ⟨_, hpost, rfl⟩
  | renewed taskId worker mins row hrow hrenew =>
      have hpost : (Op.heartbeat taskId worker mins).post now s
          = some (rewritten s taskId (renewedRow (minutes mins) now) fun _ => rfl) := by
        rw [Op.post, if_pos (hbeat taskId worker mins rfl), hrow, Option.filter_some,
          if_pos hrenew, Option.map_some]
      exact ⟨_, hpost, rfl⟩
  | swept recoveryIds evs cards hlog hcards =>
      have happend : s.recoveryCards.append?
          ((s.agentTasks.rows.filter (expired now)).map (sweepCard recoveryIds now))
          = some cards := Table.append?_eq_some.mpr hcards
      have hpost : (Op.expireLeases recoveryIds).post now s = some { s with
          agentTasks := s.agentTasks.updateWhere (expired now) sweptRow sweptRow_taskId
          recoveryCards := cards } := by
        rw [Op.post, happend, Option.map_some]
      exact ⟨_, hpost, rfl⟩
  | recovery report recoveryId task e₁ e₂ hrow hadm hrec hfresh =>
      have hpost : (Op.reportFailure report recoveryId).post now s
          = some (postRecovery now s report recoveryId task) := by
        rw [post_report hrow hadm, if_pos hrec, hfresh, Option.elim_none]
      exact ⟨_, hpost, rfl⟩
  | retryScheduled report recoveryId task e₁ e₂ delay hrow hadm hrec hretry hbudget hdelay =>
      refine ⟨postFailure now s report task, by rw [post_report hrow hadm, hrec]; rfl, ?_⟩
      rw [postFailure_retried hretry hbudget, hdelay]
      rfl
  | deadLettered report recoveryId task e₁ e₂ letterId reason hrow hadm hrec hfinal =>
      refine ⟨postFailure now s report task, by rw [post_report hrow hadm, hrec]; rfl, ?_⟩
      rw [postFailure_lettered hfinal, lettered]
      refine Tables.ledger_congr rfl rfl rfl rfl ?_ rfl
      rw [List.map_append, List.map_append]
      rfl
  | stopped report recoveryId task e₁ action target hrow hadm hrec hstop =>
      refine ⟨postFailure now s report task, by rw [post_report hrow hadm, hrec]; rfl, ?_⟩
      rcases hstop with ⟨hcls, -, rfl⟩ | ⟨hcls, -, rfl⟩
      · rw [postFailure, hcls]
        rfl
      · rw [postFailure, hcls]
        rfl
  | released evs hlog => exact ⟨_, rfl, rfl⟩
  | receiptAccepted receipt task receiptId evs hrow hown hexec hlog =>
      have hpost : (Op.submitReceipt receipt).post now s
          = some (postReceipt now s receipt task) := by
        rw [Op.post, hrow, Option.filter_some, if_pos (by simp [hown, hexec]), Option.map_some]
      refine ⟨_, hpost, Tables.ledger_congr rfl rfl ?_ rfl rfl rfl⟩
      rw [postReceipt, List.map_append, List.map_append]
      rfl
  | approvalRequested card task eventId hrow hstatus hfresh =>
      have hpost : (Op.requestApproval card).post now s = some (postRequest now s card) := by
        rw [Op.post, hrow, Option.filter_some, if_pos (decide_eq_true hstatus), Option.bind_some,
          hfresh, Option.elim_none]
      exact ⟨_, hpost, rfl⟩
  | approvalDecided approvalId decision decidedBy reason d approval task eventId hd happ hopen hrow
      hstatus =>
      obtain rfl : approval.approvalId = approvalId := Table.key_of_get? happ
      have hopened : openApproval s approval.approvalId = some approval := by
        rw [openApproval, happ, Option.filter_some, if_pos (decide_eq_true hopen)]
      have hpost : (Op.decideApproval approval.approvalId decision decidedBy reason).post now s
          = some (postDecision now s d decidedBy reason approval) := by
        rw [Op.post, hd, Option.bind_some, hopened, Option.bind_some, hrow, Option.filter_some,
          if_pos (decide_eq_true hstatus), Option.map_some]
      exact ⟨_, hpost, rfl⟩
  | transitioned taskId target reason task eventId hrow hstatus =>
      have hpost : (Op.transition taskId target reason).post now s
          = some (rewritten s taskId (movedRow target) (movedRow_taskId _)) := by
        rw [Op.post, hrow, Option.filter_some, if_pos (decide_eq_true hstatus), Option.map_some]
      exact ⟨_, hpost, rfl⟩

/-- The tables of an operation that did not succeed are those before it. -/
lemma ledger_of_not_succeeded {now : Timestamp} {s s' : Tables} {op : Op}
    {reply : Except Raised Reply} (h : Effect now s op reply s') (hs : succeeded reply = false) :
    s'.ledger = s.ledger := by
  cases h with
  | failed | notClaimed | heartbeatRejected | receiptRejected => rfl
  | _ => exact Bool.noConfusion hs

/-- **The store refines the abstract operation**: it succeeds exactly when
`post` has a value, and leaves the tables of `post`, or its own where there are
none, up to the log and the numbers. -/
theorem store_post (call : Call) (db : Db) :
    succeeded (store.out call db) = (call.op.post call.now db.tables).isSome ∧
      (store.next call db).tables.ledger
        = ((call.op.post call.now db.tables).getD db.tables).ledger := by
  have heffect := store_effect call db
  cases hs : succeeded (store.out call db) with
  | true =>
      obtain ⟨hclaim, hbeat⟩ := intervalMins_of_succeeded hs
      obtain ⟨s₁, hpost, hledger⟩ := post_of_effect heffect hs hclaim hbeat
      rw [hpost]
      exact ⟨rfl, hledger⟩
  | false =>
      have hnone : call.op.post call.now db.tables = none := by
        cases hpost : call.op.post call.now db.tables with
        | none => rfl
        | some s₁ =>
            rw [succeeded_of_post hpost] at hs
            exact Bool.noConfusion hs
      rw [hnone]
      exact ⟨rfl, ledger_of_not_succeeded heffect hs⟩

end ControlHarness

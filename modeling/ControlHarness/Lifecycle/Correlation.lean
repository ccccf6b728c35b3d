import ControlHarness.Lifecycle.Orderly
import ControlHarness.Lifecycle.Outcome
import ControlHarness.Store.ReceiptLog

/-!
The admission of receipts and of failure reports.

The two messages of a worker pass the same checks, task, owner and status, but
`report_failure` also compares the correlation with that of the task, and
`submit_receipt` does not. So the store agrees on a receipt and a report of one
worker about one task unless the correlation is foreign, and the stored receipts
carry the correlations of their tasks exactly in the runs without a receipt that
is accepted under a foreign one (`oneAdmission_iff`).

* `receipts_next`: what a call does to the receipts; `receiptTask_exec`: the task
  of a stored receipt exists.
* `MessagePair`: a receipt and a report with the same task, correlation and
  worker.
* `Foreign`: a receipt from the owner of a task in execution that is under
  another correlation than the task.
-/

namespace ControlHarness

open Store

variable {db : Db} {call : Call}

/-! ### The stored receipts -/

/-- **What a call does to the receipts**: an accepted receipt is appended, and
nothing else happens to them. -/
lemma receipts_next (db : Db) (call : Call) :
    (∀ receipt, ¬ Receives db call receipt) ∧
        (store.next call db).tables.routingReceipts = db.tables.routingReceipts ∨
      ∃ receipt receiptId, Receives db call receipt ∧
        (store.next call db).tables.routingReceipts = db.tables.routingReceipts ++
          [⟨receiptId, receipt.taskId, receipt.workerInstance, receipt.outcome, receipt,
            call.now⟩] := by
  by_cases hreceives : ∃ receipt, Receives db call receipt
  · right
    obtain ⟨receipt, hop, row, hout⟩ := hreceives
    have heff := effect_of_out hop hout
    generalize (store.next call db).tables = s' at heff ⊢
    cases heff with
    | receiptAccepted _ task receiptId => exact ⟨receipt, receiptId, ⟨hop, _, hout⟩, rfl⟩
  · refine Or.inl ⟨fun receipt h => hreceives ⟨receipt, h⟩, ?_⟩
    rcases routingReceipts_of_effect (store_effect call db) with hsame | ⟨receipt, row, hop, hout⟩
    · exact hsame
    · exact absurd ⟨receipt, hop, row, hout⟩ hreceives

/-- The task of a stored receipt exists. -/
lemma receiptTask_exec (calls : List Call) :
    ∀ r ∈ (store.exec Db.init calls).tables.routingReceipts,
      ∃ row, (store.exec Db.init calls).tables.agentTasks.get? r.taskId = some row := by
  refine Machine.invariant (M := store) (P := fun db : Db =>
    ∀ r ∈ db.tables.routingReceipts, ∃ row, db.tables.agentTasks.get? r.taskId = some row)
    (fun r hr => absurd hr List.not_mem_nil) fun db call h r hr => ?_
  have hkept : ∀ {t : UUID}, (∃ row, db.tables.agentTasks.get? t = some row) →
      ∃ row, (store.next call db).tables.agentTasks.get? t = some row := by
    rintro t ⟨row, hrow⟩
    obtain ⟨row', hrow', -⟩ := sameCard_next call hrow
    exact ⟨row', hrow'⟩
  rcases receipts_next db call with ⟨-, hsame⟩ | ⟨receipt, receiptId, hreceives, hrows⟩
  · rw [hsame] at hr
    exact hkept (h r hr)
  · rw [hrows, List.mem_append, List.mem_singleton] at hr
    rcases hr with hr | rfl
    · exact hkept (h r hr)
    · obtain ⟨row, hrow, -⟩ := hreceives.spec
      exact hkept ⟨row, hrow⟩

/-! ### The two admissions -/

/-- A receipt and a failure report of one worker about one task, under one
correlation; the report names no circuit. -/
structure MessagePair where
  receipt : ResultReceiptV1
  report : FailureReportV1
  task : report.taskId = receipt.taskId
  correlation : report.correlationId = receipt.correlationId
  worker : report.workerInstance = receipt.workerInstance
  circuit : report.circuitKey = none

/-- The receipt comes from the owner of a task in execution. -/
def FromOwner (db : Db) (receipt : ResultReceiptV1) (task : TaskRow) : Prop :=
  db.tables.agentTasks.get? receipt.taskId = some task ∧
    task.ownerInstance = some receipt.workerInstance ∧ task.status.IsExecution

/-- The receipt comes from the owner of a task in execution, under another
correlation. -/
def Foreign (db : Db) (receipt : ResultReceiptV1) : Prop :=
  ∃ task, FromOwner db receipt task ∧ task.correlationId ≠ receipt.correlationId

/-- **The admission of a receipt** looks at the owner and the status. -/
lemma receives_iff (db : Db) (receipt : ResultReceiptV1) (now : Timestamp) :
    Receives db ⟨.submitReceipt receipt, now⟩ receipt ↔ ∃ task, FromOwner db receipt task := by
  constructor
  · intro h
    obtain ⟨task, hrow, hown, hexec, -⟩ := h.spec
    exact ⟨task, hrow, hown, hexec⟩
  · rintro ⟨task, hrow, hown, hexec⟩
    exact ⟨rfl, submitReceipt_accepted now hrow hown hexec⟩

/-- **The admission of a report** also looks at the correlation. -/
lemma reports_iff (db : Db) (m : MessagePair) {recoveryId : UUID} (now : Timestamp)
    (hfresh : db.tables.recoveryCards.get? recoveryId = none) :
    Reports db ⟨.reportFailure m.report recoveryId, now⟩ m.report ↔
      ∃ task, FromOwner db m.receipt task ∧ task.correlationId = m.receipt.correlationId := by
  constructor
  · intro h
    obtain ⟨task, hrow, hadm⟩ := h.spec
    rw [m.task] at hrow
    exact ⟨task, ⟨hrow, m.worker ▸ hadm.owner, hadm.execution⟩, m.correlation ▸ hadm.correlation⟩
  · rintro ⟨task, ⟨hrow, hown, hexec⟩, hcorrelation⟩
    rw [← m.task] at hrow
    have hadm : Admitted m.report task :=
      { correlation := hcorrelation.trans m.correlation.symm
        owner := hown.trans (congrArg some m.worker.symm)
        execution := hexec
        circuit := by
          rw [m.circuit]
          rintro ⟨hsome, -⟩
          exact Bool.noConfusion hsome }
    refine ⟨⟨recoveryId, rfl⟩, ?_⟩
    cases hrec : requiresRecovery m.report.failureClass m.report.sideEffectState with
    | false => exact reportFailure_accepted recoveryId now hrow hadm hrec
    | true => exact reportFailure_recovery now hrow hadm hrec hfresh

/-- The two admissions agree unless the correlation is foreign. -/
lemma admissions_agree_iff (db : Db) (m : MessagePair) {recoveryId : UUID} (now : Timestamp)
    (hfresh : db.tables.recoveryCards.get? recoveryId = none) :
    (Receives db ⟨.submitReceipt m.receipt, now⟩ m.receipt ↔
        Reports db ⟨.reportFailure m.report recoveryId, now⟩ m.report) ↔
      ¬ Foreign db m.receipt := by
  rw [receives_iff, reports_iff db m now hfresh]
  constructor
  · rintro hagree ⟨task, howner, hother⟩
    obtain ⟨task', ⟨hrow', -⟩, hsame⟩ := hagree.mp ⟨task, howner⟩
    obtain rfl := Option.some.inj (howner.1.symm.trans hrow')
    exact hother hsame
  · intro hforeign
    constructor
    · rintro ⟨task, howner⟩
      by_contra hnone
      exact hforeign ⟨task, howner, fun hsame => hnone ⟨task, howner, hsame⟩⟩
    · rintro ⟨task, howner, -⟩
      exact ⟨task, howner⟩

/-! ### The correlations of the stored receipts -/

/-- The stored receipts carry the correlations of their tasks. -/
def Tables.ReceiptsCorrelated (s : Tables) : Prop :=
  ∀ r ∈ s.routingReceipts, ∃ row, s.agentTasks.get? r.taskId = some row ∧
    r.receipt.correlationId = row.correlationId

/-- The call is no receipt under a foreign correlation. -/
def NotForeign (db : Db) (call : Call) : Prop :=
  ∀ receipt, call.op = .submitReceipt receipt → ¬ Foreign db receipt

/-- A call keeps the correlation that a receipt has with its task. -/
lemma correlated_next {r : ReceiptRow} {row : TaskRow} (call : Call)
    (hrow : db.tables.agentTasks.get? r.taskId = some row) :
    (∃ row', (store.next call db).tables.agentTasks.get? r.taskId = some row' ∧
        r.receipt.correlationId = row'.correlationId) ↔
      r.receipt.correlationId = row.correlationId := by
  obtain ⟨row', hrow', hsame⟩ := sameCard_next call hrow
  constructor
  · rintro ⟨row'', hrow'', hcorrelation⟩
    obtain rfl := Option.some.inj (hrow'.symm.trans hrow'')
    exact hcorrelation.trans hsame.correlationId
  · intro hcorrelation
    exact ⟨row', hrow', hcorrelation.trans hsame.correlationId.symm⟩

/-- One call keeps the correlations exactly if it is no receipt under a foreign
one. -/
lemma receiptsCorrelated_next
    (htasks : ∀ r ∈ db.tables.routingReceipts, ∃ row,
      db.tables.agentTasks.get? r.taskId = some row) (call : Call) :
    (store.next call db).tables.ReceiptsCorrelated ↔
      db.tables.ReceiptsCorrelated ∧ NotForeign db call := by
  have hold : (∀ r ∈ db.tables.routingReceipts, ∃ row',
      (store.next call db).tables.agentTasks.get? r.taskId = some row' ∧
        r.receipt.correlationId = row'.correlationId) ↔ db.tables.ReceiptsCorrelated := by
    refine forall₂_congr fun r hr => ?_
    obtain ⟨row, hrow⟩ := htasks r hr
    rw [correlated_next call hrow, hrow]
    constructor
    · intro hcorrelation
      exact ⟨row, rfl, hcorrelation⟩
    · rintro ⟨row', hrow', hcorrelation⟩
      exact Option.some.inj hrow' ▸ hcorrelation
  rcases receipts_next db call with ⟨hnone, hsame⟩ | ⟨receipt, receiptId, hreceives, hrows⟩
  · rw [Tables.ReceiptsCorrelated, hsame, hold, iff_self_and]
    rintro - receipt hop ⟨task, ⟨hrow, hown, hexec⟩, -⟩
    obtain ⟨op, now⟩ := call
    obtain rfl : op = .submitReceipt receipt := hop
    exact hnone receipt ((receives_iff db receipt now).mpr ⟨task, hrow, hown, hexec⟩)
  · obtain ⟨task, hrow, hown, hexec, -⟩ := hreceives.spec
    have hnew : NotForeign db call ↔ receipt.correlationId = task.correlationId := by
      constructor
      · intro hnot
        by_contra hne
        exact hnot receipt hreceives.1 ⟨task, ⟨hrow, hown, hexec⟩, Ne.symm hne⟩
      · rintro hsame receipt' hop ⟨task', ⟨hrow', -⟩, hother⟩
        obtain rfl := Op.submitReceipt.inj (hreceives.1.symm.trans hop)
        obtain rfl := Option.some.inj (hrow.symm.trans hrow')
        exact hother hsame.symm
    rw [Tables.ReceiptsCorrelated, hrows, List.forall_mem_append, hold, hnew,
      List.forall_mem_singleton, correlated_next call hrow]

/-- **The admissions of the two messages** agree in a state exactly on the pairs
without a foreign correlation, and the stored receipts carry the correlations of
their tasks exactly after the runs without a receipt under a foreign one. -/
theorem oneAdmission_iff (calls : List Call) :
    (∀ (m : MessagePair) (recoveryId : UUID) (now : Timestamp),
        (store.exec Db.init calls).tables.recoveryCards.get? recoveryId = none →
        ((Receives (store.exec Db.init calls) ⟨.submitReceipt m.receipt, now⟩ m.receipt ↔
            Reports (store.exec Db.init calls) ⟨.reportFailure m.report recoveryId, now⟩
              m.report) ↔
          ¬ Foreign (store.exec Db.init calls) m.receipt)) ∧
      ((store.exec Db.init calls).tables.ReceiptsCorrelated ↔
        store.Along NotForeign Db.init calls) := by
  refine ⟨fun m recoveryId now hfresh => admissions_agree_iff _ m now hfresh, ?_⟩
  induction calls using List.reverseRecOn with
  | nil => exact iff_of_true (fun r hr => absurd hr List.not_mem_nil) Machine.along_nil
  | append_singleton calls call ih =>
      rw [Machine.exec_concat, Machine.along_concat,
        receiptsCorrelated_next (receiptTask_exec calls) call, ih]

/-- A receipt and a report of the worker of the card, under another correlation. -/
def foreignPair : MessagePair where
  receipt := { sampleReceipt with correlationId := ⟨999⟩ }
  report := { sampleReport with correlationId := ⟨999⟩ }
  task := rfl
  correlation := rfl
  worker := rfl
  circuit := rfl

/-- A receipt under a foreign correlation is accepted where the report is not. -/
theorem not_oneAdmission :
    ¬ ∀ (calls : List Call) (m : MessagePair) (recoveryId : UUID) (now : Timestamp),
      (store.exec Db.init calls).tables.recoveryCards.get? recoveryId = none →
      (Receives (store.exec Db.init calls) ⟨.submitReceipt m.receipt, now⟩ m.receipt ↔
        Reports (store.exec Db.init calls) ⟨.reportFailure m.report recoveryId, now⟩
          m.report) := by
  intro h
  let calls : List Call :=
    [⟨.createTask sampleCard, 0⟩, ⟨.claim sampleCard.taskId "hermes_local" "worker-a" 30, 0⟩]
  have hagree := h calls foreignPair ⟨9⟩ 1 (by decide +kernel)
  have hreport : store.out ⟨.reportFailure foreignPair.report ⟨9⟩, 1⟩
      (store.exec Db.init calls) =
        .error (.storeError "failure report correlation_id mismatch") := by decide +kernel
  have hreceipt : store.out ⟨.submitReceipt foreignPair.receipt, 1⟩
      (store.exec Db.init calls) = .ok (.row (receiptRow
        (claimedRow "hermes_local" "worker-a" (minutes 30) 0
          (newTask sampleCard "anthropic_oauth_reasoner" 0)) foreignPair.receipt)) := by
    decide +kernel
  obtain ⟨-, d, hout⟩ := hagree.mp ⟨rfl, _, hreceipt⟩
  exact absurd (hreport.symm.trans hout) (by simp)

end ControlHarness

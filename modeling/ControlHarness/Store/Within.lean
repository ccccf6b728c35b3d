import ControlHarness.Store.Programs

/-!
What every program of the store does to its connection.

A `StoreRel` is a relation between connections that allows each single thing a
program of the store does: to write a table other than the events, to append
an event under the next number, to draw the number of a receipt or a dead
letter. The lemmas `within_*` carry such a relation through the operations, one
lemma for each; the two operations that commit before they raise ask in
addition that the relation allows a commit. Whatever holds of all steps is then
an instance of `StoreRel` and not another walk through the operations.
-/

namespace ControlHarness

namespace Store

open Tx (Within)

/-- A relation that allows what the programs of the store do between two
commits. -/
class StoreRel (R : StoreConn → StoreConn → Prop) : Prop
    extends Std.Refl R, IsTrans StoreConn R where
  write : ∀ f : Tables → Tables, (∀ s, (f s).agentEvents = s.agentEvents) →
    Within R (Tx.write f : StoreTx Unit)
  event : ∀ c taskId correlationId e, R c (Store.event taskId correlationId e c).2
  drawReceipt :
    Within R (Tx.draw fun q => (q.receiptId + 1, { q with receiptId := q.receiptId + 1 }) :
      StoreTx ℕ)
  drawDeadLetter :
    Within R (Tx.draw fun q =>
      (q.deadLetterId + 1, { q with deadLetterId := q.deadLetterId + 1 }) : StoreTx ℕ)

instance : StoreRel Tx.SameCommit where
  write _ _ _ := rfl
  event c taskId correlationId e := by
    rw [event_apply]
    rfl
  drawReceipt _ := rfl
  drawDeadLetter _ := rfl

variable {R : StoreConn → StoreConn → Prop} [StoreRel R]

lemma within_write {f : Tables → Tables} (hf : ∀ s, (f s).agentEvents = s.agentEvents) :
    Within R (Tx.write f : StoreTx Unit) := StoreRel.write f hf

lemma within_selectTask (taskId : UUID) : Within R (selectTask taskId) := .read _

lemma within_updateTask (taskId : UUID) (p : Tables → TaskRow → Bool) (f : TaskRow → TaskRow)
    (hf : ∀ r, (f r).taskId = r.taskId) : Within R (updateTask taskId p f hf) :=
  .bind (.read _) fun _ => .bind (within_write fun _ => rfl) fun _ => .pure _

lemma within_updateTasks (p : Tables → TaskRow → Bool) (f : TaskRow → TaskRow)
    (hf : ∀ r, (f r).taskId = r.taskId) : Within R (updateTasks p f hf) :=
  .bind (.read _) fun _ => .bind (within_write fun _ => rfl) fun _ => .pure _

lemma within_event (taskId correlationId : UUID) (e : HarnessEvent) :
    Within R (event taskId correlationId e) :=
  fun c => StoreRel.event c taskId correlationId e

lemma within_makeIntervalMins (n : ℤ) : Within R (makeIntervalMins n) :=
  .ite (.pure _) (.raise _)

lemma within_setStatus (taskId : UUID) (expected target : TaskStatus) :
    Within R (setStatus taskId expected target) :=
  .ite (.bind (within_updateTask _ _ _ _) fun _ => .ite (.pure _) (.raise _)) (.raise _)

lemma within_createRecoveryCard (task : TaskRow) (trigger reason : String) (recoveryId : UUID) :
    Within R (createRecoveryCard task trigger reason recoveryId) :=
  .bind .now fun _ => .bind (.read _) fun _ =>
    .ite (.raise _) (.bind (within_write fun _ => rfl) fun _ =>
      .bind (within_event _ _ _) fun _ => .pure _)

lemma within_recordDeadLetter (task : TaskRow) (report : FailureReportV1) (reason : String) :
    Within R (recordDeadLetter task report reason) :=
  .bind .now fun _ => .bind StoreRel.drawDeadLetter fun _ =>
    .bind (within_write fun _ => rfl) fun _ => .bind (within_event _ _ _) fun _ => .pure _

lemma within_recordCircuitFailure (key : String) (cls : FailureClass) :
    Within R (recordCircuitFailure key cls) :=
  .bind .now fun _ => .bind (.read _) fun _ => .bind (within_write fun _ => rfl) fun _ =>
    .ite (.pure _) (.bind (within_write fun _ => rfl) fun _ => .pure _)

lemma within_transition (taskId : UUID) (target : TaskStatus) (reason : String) :
    Within R (transition taskId target reason) := by
  refine .bind (within_selectTask _) fun task => ?_
  cases task with
  | none => exact .raise _
  | some task =>
      refine .bind (within_setStatus _ _ _) fun _ => .bind (within_event _ _ _) fun _ =>
        .bind (within_selectTask _) fun row => ?_
      cases row with
      | none => exact .raise _
      | some row => exact .pure _

lemma within_createTask (card : TaskCardV1) : Within R (createTask card) := by
  rw [createTask]
  split
  · exact .raise _
  · refine .bind .now fun _ => .bind (.read _) fun existing => ?_
    cases existing with
    | some row => exact .pure _
    | none =>
        exact .bind (.read _) fun _ => .ite (.raise _)
          (.bind (within_write fun _ => rfl) fun _ => .bind (within_event _ _ _) fun _ => .pure _)

lemma within_claim (taskId : UUID) (role worker : String) (mins : ℤ) :
    Within R (claim taskId role worker mins) := by
  refine .bind .now fun _ => .bind (within_makeIntervalMins _) fun _ =>
    .bind (within_updateTask _ _ _ _) fun row => ?_
  cases row with
  | none => exact .pure _
  | some row => exact .bind (within_event _ _ _) fun _ => .pure _

lemma within_expireLeases (recoveryIds : UUID → UUID) : Within R (expireLeases recoveryIds) :=
  .bind .now fun _ => .bind (within_updateTasks _ _ _) fun _ =>
    .bind (.forEach (fun _ => .bind (within_event _ _ _) fun _ =>
      .bind (within_createRecoveryCard _ _ _ _) fun _ => .pure _) _) fun _ => .pure _

lemma within_releaseDueRetries : Within R releaseDueRetries :=
  .bind .now fun _ => .bind (within_updateTasks _ _ _) fun _ =>
    .bind (.forEach (fun _ => within_event _ _ _) _) fun _ => .pure _

lemma within_retryOrDeadLetter (task : TaskRow) (report : FailureReportV1)
    (circuit : Option CircuitRow) : Within R (retryOrDeadLetter task report circuit) := by
  refine .bind .now fun _ => .ite ?_ ?_
  · exact .bind (within_setStatus _ _ _) fun _ => .bind (within_updateTask _ _ _ _) fun _ =>
      .bind (within_event _ _ _) fun _ => .pure _
  · exact .bind (within_setStatus _ _ _) fun _ =>
      .bind (within_recordDeadLetter _ _ _) fun _ => .pure _

lemma within_countFailure (task : TaskRow) (report : FailureReportV1) :
    Within R (countFailure task report) := by
  rw [countFailure]
  cases task.circuitKey with
  | none => exact .pure _
  | some key => exact .ite (.bind (within_recordCircuitFailure _ _) fun _ => .pure _) (.pure _)

lemma within_handleFailure (task : TaskRow) (report : FailureReportV1) :
    Within R (handleFailure task report) := by
  refine .bind (within_countFailure _ _) fun circuit => ?_
  refine .ite (within_retryOrDeadLetter _ _ _) (.ite ?_ (.ite ?_ ?_))
  · exact .bind (within_setStatus _ _ _) fun _ => .pure _
  · exact .bind (within_setStatus _ _ _) fun _ => .pure _
  · exact .bind (within_setStatus _ _ _) fun _ =>
      .bind (within_recordDeadLetter _ _ _) fun _ => .pure _

lemma within_reportFailure (report : FailureReportV1) (recoveryId : UUID) :
    Within R (reportFailure report recoveryId) := by
  refine .bind (within_selectTask _) fun task => ?_
  cases task with
  | none => exact .raise _
  | some task =>
      refine .ite (.raise _) (.ite (.raise _) (.ite (.raise _) ?_))
      refine .bind (within_event _ _ _) fun _ => ?_
      refine .ite (.raise _) (.ite ?_ (within_handleFailure _ _))
      exact .bind (within_setStatus _ _ _) fun _ =>
        .bind (within_createRecoveryCard _ _ _ _) fun _ => .pure _

lemma within_requestApproval (card : ApprovalCardV1) : Within R (requestApproval card) := by
  refine .bind (within_selectTask _) fun task => ?_
  cases task with
  | none => exact .raise _
  | some task =>
      exact .bind (within_setStatus _ _ _) fun _ => .bind .now fun _ => .bind (.read _) fun _ =>
        .ite (.raise _) (.bind (within_write fun _ => rfl) fun _ =>
          .bind (within_event _ _ _) fun _ => .pure _)

lemma within_decideApproval (approvalId : UUID) (decision decidedBy reason : String) :
    Within R (decideApproval approvalId decision decidedBy reason) := by
  rw [decideApproval]
  cases Decision.ofText decision with
  | none => exact .raise _
  | some d =>
      refine .bind (.read _) fun approval => ?_
      cases approval with
      | none => exact .raise _
      | some approval =>
          refine .ite (.raise _) <| .bind (within_selectTask _) fun task => ?_
          cases task with
          | none => exact .raise _
          | some task =>
              exact .bind .now fun _ => .bind (within_write fun _ => rfl) fun _ =>
                .bind (within_setStatus _ _ _) fun _ =>
                .bind (within_event _ _ _) fun _ => .pure _

lemma within_closeCircuit (task : TaskRow) (target : TaskStatus) :
    Within R (closeCircuit task target) := by
  rw [closeCircuit]
  cases task.circuitKey with
  | none => exact .pure _
  | some key =>
      refine .ite ?_ (.pure _)
      exact .bind .now fun _ => .bind (.read _) fun _ => .bind (within_write fun _ => rfl) fun _ =>
        .ite (within_event _ _ _) (.pure _)

lemma within_acceptReceipt (task : TaskRow) (receipt : ResultReceiptV1) :
    Within R (acceptReceipt task receipt) := by
  refine .ite (.raise _) (.bind (.ite (within_setStatus _ _ _) (.pure _)) fun _ => ?_)
  refine .bind (within_setStatus _ _ _) fun _ => .bind .now fun _ =>
    .bind StoreRel.drawReceipt fun _ => ?_
  refine .bind (within_write fun _ => rfl) fun _ => .bind (within_event _ _ _) fun _ => ?_
  refine .bind (within_closeCircuit _ _) fun _ => .bind (within_selectTask _) fun row => ?_
  cases row with
  | none => exact .raise _
  | some row => exact .pure _

/-! ### The operations that commit before they raise -/

section

variable (hcommit : Within R (Tx.commit : StoreTx Unit))

include hcommit

lemma within_heartbeat (taskId : UUID) (worker : String) (mins : ℤ) :
    Within R (heartbeat taskId worker mins) := by
  refine .bind .now fun _ => .bind (within_makeIntervalMins _) fun _ =>
    .bind (within_updateTask _ _ _ _) fun row => ?_
  cases row with
  | some row => exact .pure _
  | none =>
      refine .bind (within_selectTask _) fun task => ?_
      cases task with
      | none => exact .bind hcommit fun _ => .raise _
      | some task =>
          exact .bind (within_event _ _ _) fun _ => .bind hcommit fun _ => .raise _

lemma within_submitReceipt (receipt : ResultReceiptV1) : Within R (submitReceipt receipt) := by
  refine .bind (within_selectTask _) fun task => ?_
  cases task with
  | none => exact .raise _
  | some task =>
      refine .ite ?_ (within_acceptReceipt _ _)
      exact .bind (within_event _ _ _) fun _ => .bind hcommit fun _ => .raise _

/-- Every operation of the store keeps to a relation that allows commits. -/
lemma within_program (op : Op) : Within R op.program := by
  cases op with
  | createTask card => exact .bind (within_createTask card) fun _ => .pure _
  | claim taskId role worker mins =>
      exact .bind (within_claim taskId role worker mins) fun _ => .pure _
  | heartbeat taskId worker mins =>
      exact .bind (within_heartbeat hcommit taskId worker mins) fun _ => .pure _
  | expireLeases ids => exact .bind (within_expireLeases ids) fun _ => .pure _
  | reportFailure report recoveryId =>
      exact .bind (within_reportFailure report recoveryId) fun _ => .pure _
  | releaseDueRetries => exact .bind within_releaseDueRetries fun _ => .pure _
  | submitReceipt receipt => exact .bind (within_submitReceipt hcommit receipt) fun _ => .pure _
  | requestApproval card => exact .bind (within_requestApproval card) fun _ => .pure _
  | decideApproval approvalId decision decidedBy reason =>
      exact .bind (within_decideApproval approvalId decision decidedBy reason) fun _ => .pure _
  | transition taskId target reason =>
      exact .bind (within_transition taskId target reason) fun _ => .pure _

end

end Store

end ControlHarness

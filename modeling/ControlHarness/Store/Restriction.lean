import ControlHarness.Metrics
import ControlHarness.Store.Ledger

/-!
The part of the tables that belongs to some of the tasks.

A `Part` is a choice of tasks and circuits, and `Tables.restrict` the tables
without the rows of the others. An operation on the kept tasks does to the
restricted tables what it does to the whole ones (`post_restrict`), and an
operation on the other tasks does nothing to them (`post_restrict_outside`), as
long as the circuits that the two kinds of tasks write are apart and no
identifier of the one is taken by the other.
-/

namespace ControlHarness

open Store

/-- A choice of tasks and circuits. -/
structure Part where
  keep : UUID → Bool
  circuits : String → Bool

/-- The tables without the rows of the other tasks and circuits. -/
def Tables.restrict (p : Part) (s : Tables) : Tables where
  agentTasks := s.agentTasks.select fun r => p.keep r.taskId
  agentEvents := s.agentEvents.filter fun e => p.keep e.taskId
  approvals := s.approvals.select fun a => p.keep a.taskId
  routingReceipts := s.routingReceipts.filter fun r => p.keep r.taskId
  circuitBreakers := s.circuitBreakers.select (p.circuits ∘ CircuitRow.circuitKey)
  deadLetters := s.deadLetters.filter fun l => p.keep l.taskId
  recoveryCards := s.recoveryCards.select fun c => p.keep c.taskId

/-- The circuits of the kept tasks are kept. -/
def Tables.Fits (p : Part) (s : Tables) : Prop :=
  ∀ t row, s.agentTasks.get? t = some row → p.keep t = true →
    ∀ key, row.circuitKey = some key → p.circuits key = true

/-- The task is kept, if it exists. -/
def Tables.Kept (p : Part) (s : Tables) (t : UUID) : Prop :=
  ∀ row, s.agentTasks.get? t = some row → p.keep t = true

section

variable {p : Part} {s : Tables} {now : Timestamp}

lemma get?_restrict (t : UUID) :
    (s.restrict p).agentTasks.get? t = (s.agentTasks.get? t).filter fun r => p.keep r.taskId :=
  Table.get?_select _ _ t

/-- The lookup of a kept task. -/
lemma Tables.Kept.get? {t : UUID} (h : s.Kept p t) :
    (s.restrict p).agentTasks.get? t = s.agentTasks.get? t := by
  rw [get?_restrict]
  cases hrow : s.agentTasks.get? t with
  | none => rfl
  | some row =>
      have hkey : row.taskId = t := Table.key_of_get? hrow
      rw [Option.filter_some, if_pos (by rw [hkey]; exact h row hrow)]

/-- Rewriting a task of the part. -/
lemma select_tasks {t : UUID} {f : TaskRow → TaskRow} (hf : ∀ r, (f r).taskId = r.taskId) :
    (s.agentTasks.updateKey t f hf).select (fun r => p.keep r.taskId)
      = (s.agentTasks.select fun r => p.keep r.taskId).updateKey t f hf :=
  Table.select_updateKey fun r => by rw [hf]

/-- Rewriting a task that is not kept. -/
lemma select_tasks_outside {t : UUID} {f : TaskRow → TaskRow} (ht : p.keep t = false)
    (hf : ∀ r, (f r).taskId = r.taskId) :
    (s.agentTasks.updateKey t f hf).select (fun r => p.keep r.taskId)
      = s.agentTasks.select fun r => p.keep r.taskId := by
  refine Table.select_updateKey_outside (fun r => by rw [hf]) ?_
  cases hrow : s.agentTasks.get? t with
  | none => rfl
  | some row =>
      have hkey : row.taskId = t := Table.key_of_get? hrow
      rw [Option.all_some, hkey, ht]
      rfl

lemma Tables.eq_of {s s' : Tables} (htasks : s.agentTasks = s'.agentTasks)
    (hevents : s.agentEvents = s'.agentEvents) (happrovals : s.approvals = s'.approvals)
    (hreceipts : s.routingReceipts = s'.routingReceipts)
    (hcircuits : s.circuitBreakers = s'.circuitBreakers)
    (hletters : s.deadLetters = s'.deadLetters)
    (hcards : s.recoveryCards = s'.recoveryCards) : s = s' := by
  cases s
  cases s'
  simp_all

lemma restrict_rewritten (t : UUID) (f : TaskRow → TaskRow) (hf : ∀ r, (f r).taskId = r.taskId) :
    (rewritten s t f hf).restrict p = rewritten (s.restrict p) t f hf :=
  Tables.eq_of (select_tasks hf) rfl rfl rfl rfl rfl rfl

lemma restrict_rewritten_outside {t : UUID} (ht : p.keep t = false) (f : TaskRow → TaskRow)
    (hf : ∀ r, (f r).taskId = r.taskId) : (rewritten s t f hf).restrict p = s.restrict p :=
  Tables.eq_of (select_tasks_outside ht hf) rfl rfl rfl rfl rfl rfl

/-- A row of a kept task appended to rows. -/
lemma filter_append_kept {α : Type} (own : α → UUID) (rows : List α) {r : α}
    (h : p.keep (own r) = true) :
    (rows ++ [r]).filter (fun a => p.keep (own a))
      = rows.filter (fun a => p.keep (own a)) ++ [r] := by
  rw [List.filter_append, List.filter_singleton, h, cond_true]

/-- A row of another task appended to rows. -/
lemma filter_append_outside {α : Type} (own : α → UUID) (rows : List α) {r : α}
    (h : p.keep (own r) = false) :
    (rows ++ [r]).filter (fun a => p.keep (own a)) = rows.filter fun a => p.keep (own a) := by
  rw [List.filter_append, List.filter_singleton, h, cond_false, List.append_nil]

/-! ### Circuits -/

/-- The gate of a row whose circuit is kept. -/
lemma circuitBlocks_restrict {row : TaskRow}
    (h : ∀ key, row.circuitKey = some key → p.circuits key = true) :
    circuitBlocks (s.restrict p) now row = circuitBlocks s now row := by
  rw [circuitBlocks, circuitBlocks, Tables.restrict, Table.rows_select, List.any_filter]
  refine congrArg _ (funext fun c => ?_)
  by_cases hkey : some c.circuitKey = row.circuitKey
  · rw [Function.comp_apply, h c.circuitKey hkey.symm, Bool.true_and]
  · simp [hkey]

lemma get?_circuits {key : String} (h : p.circuits key = true) :
    (s.restrict p).circuitBreakers.get? key = s.circuitBreakers.get? key := by
  rw [Tables.restrict, Table.get?_select]
  cases hrow : s.circuitBreakers.get? key with
  | none => rfl
  | some c =>
      have hkey : c.circuitKey = key := Table.key_of_get? hrow
      rw [Option.filter_some, if_pos (by rw [Function.comp_apply, hkey, h])]

lemma circuitAfter_restrict {task : TaskRow} {cls : FailureClass}
    (h : ∀ key, task.circuitKey = some key → p.circuits key = true) :
    circuitAfter (s.restrict p) now task cls = circuitAfter s now task cls := by
  rw [circuitAfter, circuitAfter]
  cases hkey : countedCircuit task cls with
  | none => rfl
  | some key =>
      have hcounted := (Option.filter_eq_some_iff.mp hkey).1
      rw [Option.map_some, Option.map_some, get?_circuits (h key hcounted)]

lemma circuitsAfter_restrict {task : TaskRow} {cls : FailureClass}
    (h : ∀ key, task.circuitKey = some key → p.circuits key = true) :
    circuitsAfter (s.restrict p) now task cls
      = (circuitsAfter s now task cls).select (p.circuits ∘ CircuitRow.circuitKey) := by
  rw [circuitsAfter, circuitsAfter]
  cases hkey : countedCircuit task cls with
  | none => rfl
  | some key =>
      have hcounted := (Option.filter_eq_some_iff.mp hkey).1
      rw [Option.elim_some, Option.elim_some, failedCircuits, failedCircuits]
      refine (Table.select_upsert ?_).symm
      rw [afterFailure_none_circuitKey]
      exact h key hcounted

/-- A failure counted against a circuit that is not kept. -/
lemma circuitsAfter_outside {task : TaskRow} {cls : FailureClass}
    (h : ∀ key, countedCircuit task cls = some key → p.circuits key = false) :
    (circuitsAfter s now task cls).select (p.circuits ∘ CircuitRow.circuitKey)
      = s.circuitBreakers.select (p.circuits ∘ CircuitRow.circuitKey) := by
  rw [circuitsAfter]
  cases hkey : countedCircuit task cls with
  | none => rfl
  | some key =>
      rw [Option.elim_some, failedCircuits]
      refine Table.select_upsert_outside ?_
      rw [afterFailure_none_circuitKey]
      exact h key hkey

lemma circuitsClosed_restrict {task : TaskRow} {target : TaskStatus} :
    circuitsClosed (s.restrict p) now task target
      = (circuitsClosed s now task target).select (p.circuits ∘ CircuitRow.circuitKey) := by
  rw [circuitsClosed, circuitsClosed]
  cases closedKey task target with
  | none => rfl
  | some key =>
      have hsel : (s.circuitBreakers.updateKey key (closedCircuit now)
          (closedCircuit_circuitKey now)).select (p.circuits ∘ CircuitRow.circuitKey)
          = (s.circuitBreakers.select (p.circuits ∘ CircuitRow.circuitKey)).updateKey key
              (closedCircuit now) (closedCircuit_circuitKey now) :=
        Table.select_updateKey fun r => rfl
      exact hsel.symm

/-- A receipt that closes a circuit that is not kept. -/
lemma circuitsClosed_outside {task : TaskRow} {target : TaskStatus}
    (h : ∀ key, closedKey task target = some key → (s.circuitBreakers.get? key).isSome →
      p.circuits key = false) :
    (circuitsClosed s now task target).select (p.circuits ∘ CircuitRow.circuitKey)
      = s.circuitBreakers.select (p.circuits ∘ CircuitRow.circuitKey) := by
  rw [circuitsClosed]
  cases hkey : closedKey task target with
  | none => rfl
  | some key =>
      refine Table.select_updateKey_outside (fun r => rfl) ?_
      cases hrow : s.circuitBreakers.get? key with
      | none => rfl
      | some c =>
          have hck : c.circuitKey = key := Table.key_of_get? hrow
          have hout := h key hkey (by rw [hrow]; rfl)
          rw [Option.all_some, Function.comp_apply, hck, hout]
          rfl

/-! ### The kept tasks -/

lemma restrict_lettered {task : TaskRow} {report : FailureReportV1} {reason : String}
    (hkeep : p.keep task.taskId = true)
    (hcircuit : ∀ key, task.circuitKey = some key → p.circuits key = true) :
    (lettered s now task report reason).restrict p
      = lettered (s.restrict p) now task report reason :=
  Tables.eq_of (select_tasks (movedRow_taskId _)) rfl rfl rfl (circuitsAfter_restrict hcircuit).symm
    (filter_append_kept DeadLetterRow.taskId _ hkeep) rfl

lemma restrict_retried {task : TaskRow} {report : FailureReportV1}
    (hcircuit : ∀ key, task.circuitKey = some key → p.circuits key = true) :
    (retried s now task report (retryTime s now task report)).restrict p
      = retried (s.restrict p) now task report (retryTime (s.restrict p) now task report) := by
  have htime : retryTime (s.restrict p) now task report = retryTime s now task report := by
    rw [retryTime, retryTime, circuitAfter_restrict hcircuit]
  rw [htime]
  exact Tables.eq_of (select_tasks (retriedRow_taskId _ _ _)) rfl rfl rfl
    (circuitsAfter_restrict hcircuit).symm rfl rfl

lemma restrict_postFailure {task : TaskRow} {report : FailureReportV1}
    (hkeep : p.keep task.taskId = true)
    (hcircuit : ∀ key, task.circuitKey = some key → p.circuits key = true) :
    (postFailure now s report task).restrict p = postFailure now (s.restrict p) report task := by
  have hretry : (if task.attemptCount < task.card.budget.maxAttempts then
        retried s now task report (retryTime s now task report)
      else lettered s now task report ("retry budget exhausted: " ++ report.reason)).restrict p
      = if task.attemptCount < task.card.budget.maxAttempts then
          retried (s.restrict p) now task report (retryTime (s.restrict p) now task report)
        else lettered (s.restrict p) now task report
          ("retry budget exhausted: " ++ report.reason) := by
    split_ifs
    · exact restrict_retried hcircuit
    · exact restrict_lettered hkeep hcircuit
  rw [postFailure, postFailure]
  cases report.failureClass with
  | transient | rateLimited | qualityFailure => exact hretry
  | quotaExhausted | policyViolation => exact restrict_rewritten _ _ _
  | permanent | uncertainSideEffect => exact restrict_lettered hkeep hcircuit

lemma restrict_postRecovery {task : TaskRow} {report : FailureReportV1} {recoveryId : UUID}
    (hkeep : p.keep task.taskId = true) (hfresh : s.recoveryCards.get? recoveryId = none) :
    (postRecovery now s report recoveryId task).restrict p
      = postRecovery now (s.restrict p) report recoveryId task := by
  have hcard : (s.recoveryCards.insert (newRecoveryCard task report.failureClass.value
      report.reason recoveryId now)).select (fun c => p.keep c.taskId)
      = (s.recoveryCards.select fun c => p.keep c.taskId).insert
          (newRecoveryCard task report.failureClass.value report.reason recoveryId now) :=
    Table.select_insert hfresh hkeep
  exact Tables.eq_of (select_tasks (movedRow_taskId _)) rfl rfl rfl rfl rfl hcard

lemma restrict_postReceipt {task : TaskRow} {receipt : ResultReceiptV1}
    (hkeep : p.keep receipt.taskId = true) :
    (postReceipt now s receipt task).restrict p
      = postReceipt now (s.restrict p) receipt task :=
  Tables.eq_of (select_tasks (movedRow_taskId _)) rfl rfl
    (filter_append_kept ReceiptRow.taskId _ hkeep) circuitsClosed_restrict.symm rfl rfl

lemma restrict_postRequest {card : ApprovalCardV1} (hkeep : p.keep card.taskId = true)
    (hfresh : s.approvals.get? card.approvalId = none) :
    (postRequest now s card).restrict p = postRequest now (s.restrict p) card := by
  have happroval : (s.approvals.insert (newApproval card now)).select (fun a => p.keep a.taskId)
      = (s.approvals.select fun a => p.keep a.taskId).insert (newApproval card now) :=
    Table.select_insert hfresh hkeep
  exact Tables.eq_of (select_tasks (movedRow_taskId _)) rfl happroval rfl rfl rfl rfl

lemma restrict_postDecision {d : Decision} {decidedBy reason : String} {approval : ApprovalRow} :
    (postDecision now s d decidedBy reason approval).restrict p
      = postDecision now (s.restrict p) d decidedBy reason approval := by
  have happroval : (s.approvals.updateKey approval.approvalId
      (decidedApproval d decidedBy reason now)
      (decidedApproval_approvalId d decidedBy reason now)).select (fun a => p.keep a.taskId)
      = (s.approvals.select fun a => p.keep a.taskId).updateKey approval.approvalId
          (decidedApproval d decidedBy reason now)
          (decidedApproval_approvalId d decidedBy reason now) :=
    Table.select_updateKey fun a => rfl
  exact Tables.eq_of (select_tasks (movedRow_taskId _)) rfl happroval rfl rfl rfl rfl

/-- The open approval of a part. -/
lemma openApproval_restrict (approvalId : UUID) :
    openApproval (s.restrict p) approvalId
      = (openApproval s approvalId).filter fun a => p.keep a.taskId := by
  rw [openApproval, openApproval, Tables.restrict, Table.get?_select, Option.filter_filter,
    Option.filter_filter]
  refine congrArg₂ Option.filter (funext fun a => ?_) rfl
  exact Bool.and_comm _ _

/-- The cards of the swept tasks of a part. -/
lemma filter_sweepCard (recoveryIds : UUID → UUID) (rows : List TaskRow) :
    (rows.map (sweepCard recoveryIds now)).filter (fun c => p.keep c.taskId)
      = (rows.filter fun r => p.keep r.taskId).map (sweepCard recoveryIds now) :=
  List.filter_map

lemma claimable_restrict (hfits : s.Fits p) {t : UUID} {row : TaskRow}
    (hrow : s.agentTasks.get? t = some row) (hkeep : p.keep t = true) :
    claimable now (s.restrict p) row = claimable now s row := by
  rw [claimable, claimable, circuitBlocks_restrict (hfits t row hrow hkeep)]

lemma releasable_restrict (hfits : s.Fits p) {t : UUID} {row : TaskRow}
    (hrow : s.agentTasks.get? t = some row) (hkeep : p.keep t = true) :
    releasable now (s.restrict p) row = releasable now s row := by
  rw [releasable, releasable, circuitBlocks_restrict (hfits t row hrow hkeep)]

end

/-- The operation is on kept tasks, and the identifiers it brings are not taken
by the others. -/
def Op.Inside (p : Part) (now : Timestamp) (s : Tables) : Op → Prop
  | .createTask card =>
      (∀ row ∈ s.agentTasks.rows,
        row.idempotencyKey = card.idempotencyKey ∨ row.taskId = card.taskId →
          p.keep row.taskId = true) ∧
      ∀ route, card.modelRouting.defaultRoute.head? = some route →
        s.agentTasks.rows.find? (fun r => r.idempotencyKey = card.idempotencyKey) = none →
          s.agentTasks.get? card.taskId = none → p.keep card.taskId = true
  | .claim t _ _ _ | .heartbeat t _ _ | .transition t _ _ => s.Kept p t
  | .expireLeases recoveryIds =>
      (s.recoveryCards.append?
        ((s.agentTasks.rows.filter (expired now)).map (sweepCard recoveryIds now))).isSome
  | .reportFailure report recoveryId =>
      s.Kept p report.taskId ∧ s.recoveryCards.get? recoveryId = none
  | .releaseDueRetries => True
  | .submitReceipt receipt => s.Kept p receipt.taskId
  | .requestApproval card => s.Kept p card.taskId ∧ s.approvals.get? card.approvalId = none
  | .decideApproval approvalId _ _ _ =>
      ∀ a, s.approvals.get? approvalId = some a → s.Kept p a.taskId

/-- **An operation on the kept tasks** does to the restricted tables what it
does to the whole ones. -/
theorem post_restrict {p : Part} {s : Tables} {now : Timestamp} {op : Op} (hfits : s.Fits p)
    (h : op.Inside p now s) :
    op.post now (s.restrict p) = (op.post now s).map (Tables.restrict p) := by
  cases op with
  | createTask card =>
      obtain ⟨hkeys, hcreated⟩ := h
      have hfind : (s.restrict p).agentTasks.rows.find?
            (fun r => r.idempotencyKey = card.idempotencyKey)
          = s.agentTasks.rows.find? (fun r => r.idempotencyKey = card.idempotencyKey) := by
        rw [Tables.restrict, Table.rows_select, List.find?_filter]
        refine List.find?_congr fun row hrow => ?_
        by_cases hkey : row.idempotencyKey = card.idempotencyKey
        · rw [hkeys row hrow (Or.inl hkey)]
          simp [hkey]
        · simp [hkey]
      have hget : (s.restrict p).agentTasks.get? card.taskId = s.agentTasks.get? card.taskId := by
        refine Tables.Kept.get? fun row hrow => ?_
        have hkey : row.taskId = card.taskId := Table.key_of_get? hrow
        exact hkey ▸ hkeys row (Table.mem_of_get? hrow) (Or.inr hkey)
      rw [Op.post, Op.post, hfind, hget, Option.map_bind]
      cases hroute : card.modelRouting.defaultRoute.head? with
      | none => rfl
      | some route =>
          rw [Option.bind_some, Option.bind_some, Function.comp_apply]
          cases hkey : s.agentTasks.rows.find?
              (fun r => r.idempotencyKey = card.idempotencyKey) with
          | some row => rfl
          | none =>
              cases hfresh : s.agentTasks.get? card.taskId with
              | some row => rfl
              | none =>
                  have hinsert : (s.agentTasks.insert (newTask card route now)).select
                      (fun r => p.keep r.taskId)
                      = (s.agentTasks.select fun r => p.keep r.taskId).insert
                          (newTask card route now) :=
                    Table.select_insert hfresh (hcreated route hroute hkey hfresh)
                  exact congrArg some (Tables.eq_of hinsert.symm rfl rfl rfl rfl rfl rfl)
  | claim t role worker mins =>
      have hclaim : ((s.restrict p).agentTasks.get? t).filter (claimable now (s.restrict p))
          = (s.agentTasks.get? t).filter (claimable now s) := by
        rw [Tables.Kept.get? h]
        cases hrow : s.agentTasks.get? t with
        | none => rfl
        | some row =>
            rw [Option.filter_some, Option.filter_some,
              claimable_restrict hfits hrow (h row hrow)]
      rw [Op.post, Op.post, hclaim]
      split_ifs
      · rw [Option.map_map]
        refine congrArg₂ Option.map (funext fun _ => ?_) rfl
        exact (restrict_rewritten _ _ _).symm
      · rfl
  | heartbeat t worker mins =>
      rw [Op.post, Op.post, Tables.Kept.get? h]
      split_ifs
      · rw [Option.map_map]
        refine congrArg₂ Option.map (funext fun _ => ?_) rfl
        exact (restrict_rewritten _ _ _).symm
      · rfl
  | expireLeases recoveryIds =>
      obtain ⟨cards, hcards⟩ := Option.isSome_iff_exists.mp h
      have hselect : (s.restrict p).recoveryCards.append?
          (((s.restrict p).agentTasks.rows.filter (expired now)).map (sweepCard recoveryIds now))
          = some (cards.select fun c => p.keep c.taskId) := by
        have happend := Table.select_append? (p := fun c => p.keep c.taskId) hcards
        rw [filter_sweepCard, List.filter_comm] at happend
        exact happend
      have htasks : (s.agentTasks.updateWhere (expired now) sweptRow sweptRow_taskId).select
          (fun r => p.keep r.taskId)
          = (s.agentTasks.select fun r => p.keep r.taskId).updateWhere (expired now) sweptRow
              sweptRow_taskId := Table.select_updateWhere fun r => rfl
      rw [Op.post, Op.post, hselect, hcards]
      exact congrArg some (Tables.eq_of htasks.symm rfl rfl rfl rfl rfl rfl)
  | reportFailure report recoveryId =>
      obtain ⟨hkept, hfresh⟩ := h
      have hfresh' : (s.restrict p).recoveryCards.get? recoveryId = none := by
        rw [Tables.restrict, Table.get?_select, hfresh, Option.filter_none]
      rw [Op.post, Op.post, hkept.get?, hfresh, hfresh']
      cases htask : (s.agentTasks.get? report.taskId).filter fun r => Admitted report r with
      | none => rfl
      | some task =>
          obtain ⟨hrow, -⟩ := Option.filter_eq_some_iff.mp htask
          have hkeep : p.keep report.taskId = true := hkept task hrow
          have hkey : task.taskId = report.taskId := Table.key_of_get? hrow
          have hkeep' : p.keep task.taskId = true := hkey ▸ hkeep
          rw [Option.bind_some, Option.bind_some, Option.elim_none, Option.elim_none]
          split_ifs
          · exact congrArg some (restrict_postRecovery hkeep' hfresh).symm
          · exact congrArg some (restrict_postFailure hkeep' (hfits _ task hrow hkeep)).symm
  | releaseDueRetries =>
      have hcongr : (s.agentTasks.select fun r => p.keep r.taskId).updateWhere
            (releasable now (s.restrict p)) releasedRow releasedRow_taskId
          = (s.agentTasks.select fun r => p.keep r.taskId).updateWhere (releasable now s)
              releasedRow releasedRow_taskId := by
        refine Table.updateWhere_congr fun row hrow => ?_
        obtain ⟨hmem, hkeep⟩ := List.mem_filter.mp hrow
        exact releasable_restrict hfits (Table.get?_of_mem hmem) hkeep
      have htasks : (s.agentTasks.updateWhere (releasable now s) releasedRow
            releasedRow_taskId).select (fun r => p.keep r.taskId)
          = (s.agentTasks.select fun r => p.keep r.taskId).updateWhere (releasable now s)
              releasedRow releasedRow_taskId := Table.select_updateWhere fun r => rfl
      exact congrArg some (Tables.eq_of (hcongr.trans htasks.symm) rfl rfl rfl rfl rfl rfl)
  | submitReceipt receipt =>
      rw [Op.post, Op.post, Tables.Kept.get? h]
      cases htask : (s.agentTasks.get? receipt.taskId).filter fun r =>
          r.ownerInstance = some receipt.workerInstance && decide r.status.IsExecution with
      | none => rfl
      | some task =>
          obtain ⟨hrow, -⟩ := Option.filter_eq_some_iff.mp htask
          exact congrArg some (restrict_postReceipt (h task hrow)).symm
  | requestApproval card =>
      obtain ⟨hkept, hfresh⟩ := h
      have hfresh' : (s.restrict p).approvals.get? card.approvalId = none := by
        rw [Tables.restrict, Table.get?_select, hfresh, Option.filter_none]
      rw [Op.post, Op.post, hkept.get?, hfresh, hfresh']
      cases htask : (s.agentTasks.get? card.taskId).filter fun r => r.status = .review with
      | none => rfl
      | some task =>
          obtain ⟨hrow, -⟩ := Option.filter_eq_some_iff.mp htask
          exact congrArg some (restrict_postRequest (hkept task hrow) hfresh).symm
  | decideApproval approvalId decision decidedBy reason =>
      rw [Op.post, Op.post]
      cases Decision.ofText decision with
      | none => rfl
      | some d =>
          rw [Option.bind_some, Option.bind_some, openApproval_restrict]
          cases happ : openApproval s approvalId with
          | none => rfl
          | some a =>
              have hkept : s.Kept p a.taskId := h a (Option.filter_eq_some_iff.mp happ).1
              rw [Option.filter_some, Option.bind_some]
              cases hrow : s.agentTasks.get? a.taskId with
              | none =>
                  cases hkeep : p.keep a.taskId with
                  | false => rfl
                  | true => rw [if_pos rfl, Option.bind_some, hkept.get?, hrow]; rfl
              | some row =>
                  rw [if_pos (hkept row hrow), Option.bind_some, hkept.get?, hrow, Option.map_map]
                  refine congrArg₂ Option.map (funext fun _ => ?_) rfl
                  exact restrict_postDecision.symm
  | transition t target reason =>
      rw [Op.post, Op.post, Tables.Kept.get? h, Option.map_map]
      refine congrArg₂ Option.map (funext fun _ => ?_) rfl
      exact (restrict_rewritten _ _ _).symm

/-- The operation is on another task and writes no kept circuit. -/
def Op.Outside (p : Part) (s : Tables) : Op → Prop
  | .createTask card => ∀ route, card.modelRouting.defaultRoute.head? = some route →
      s.agentTasks.rows.find? (fun r => r.idempotencyKey = card.idempotencyKey) = none →
        s.agentTasks.get? card.taskId = none → p.keep card.taskId = false
  | .claim t _ _ _ | .heartbeat t _ _ | .transition t _ _ => p.keep t = false
  | .expireLeases _ | .releaseDueRetries => False
  | .reportFailure report _ => p.keep report.taskId = false ∧
      ∀ row, s.agentTasks.get? report.taskId = some row → Admitted report row →
        requiresRecovery report.failureClass report.sideEffectState = false →
          ∀ key, countedCircuit row report.failureClass = some key → p.circuits key = false
  | .submitReceipt receipt => p.keep receipt.taskId = false ∧
      ∀ row, s.agentTasks.get? receipt.taskId = some row →
        row.ownerInstance = some receipt.workerInstance → row.status.IsExecution →
          ∀ key, closedKey row (receiptTarget row receipt.outcome) = some key →
            (s.circuitBreakers.get? key).isSome → p.circuits key = false
  | .requestApproval card => p.keep card.taskId = false
  | .decideApproval approvalId _ _ _ =>
      ∀ a, s.approvals.get? approvalId = some a → p.keep a.taskId = false

section

variable {p : Part} {s : Tables} {now : Timestamp}

lemma restrict_lettered_outside {task : TaskRow} {report : FailureReportV1} {reason : String}
    (hkey : task.taskId = report.taskId) (hout : p.keep report.taskId = false)
    (hcircuit : ∀ key, countedCircuit task report.failureClass = some key →
      p.circuits key = false) :
    (lettered s now task report reason).restrict p = s.restrict p := by
  have hletter : p.keep task.taskId = false := by rw [hkey, hout]
  exact Tables.eq_of (select_tasks_outside hout (movedRow_taskId _)) rfl rfl rfl
    (circuitsAfter_outside hcircuit) (filter_append_outside DeadLetterRow.taskId _ hletter) rfl

lemma restrict_retried_outside {task : TaskRow} {report : FailureReportV1} {retryAt : Timestamp}
    (hout : p.keep report.taskId = false)
    (hcircuit : ∀ key, countedCircuit task report.failureClass = some key →
      p.circuits key = false) :
    (retried s now task report retryAt).restrict p = s.restrict p :=
  Tables.eq_of (select_tasks_outside hout (retriedRow_taskId _ _ _)) rfl rfl rfl
    (circuitsAfter_outside hcircuit) rfl rfl

lemma restrict_postFailure_outside {task : TaskRow} {report : FailureReportV1}
    (hkey : task.taskId = report.taskId) (hout : p.keep report.taskId = false)
    (hcircuit : ∀ key, countedCircuit task report.failureClass = some key →
      p.circuits key = false) :
    (postFailure now s report task).restrict p = s.restrict p := by
  have hretry : (if task.attemptCount < task.card.budget.maxAttempts then
        retried s now task report (retryTime s now task report)
      else lettered s now task report ("retry budget exhausted: " ++ report.reason)).restrict p
      = s.restrict p := by
    split_ifs
    · exact restrict_retried_outside hout hcircuit
    · exact restrict_lettered_outside hkey hout hcircuit
  rw [postFailure]
  cases hcls : report.failureClass with
  | transient | rateLimited | qualityFailure => exact hretry
  | quotaExhausted | policyViolation => exact restrict_rewritten_outside hout _ _
  | permanent | uncertainSideEffect => exact restrict_lettered_outside hkey hout hcircuit

/-- **An operation on the other tasks** does nothing to the restricted tables. -/
theorem post_restrict_outside {op : Op} {s' : Tables} (h : op.Outside p s)
    (hpost : op.post now s = some s') : s'.restrict p = s.restrict p := by
  cases op with
  | createTask card =>
      obtain ⟨route, hroute, hpost⟩ := Option.bind_eq_some_iff.mp hpost
      cases hkey : s.agentTasks.rows.find? (fun r => r.idempotencyKey = card.idempotencyKey) with
      | some row =>
          rw [hkey] at hpost
          obtain rfl := Option.some.inj hpost
          rfl
      | none =>
          cases hfresh : s.agentTasks.get? card.taskId with
          | some row =>
              rw [hkey, hfresh] at hpost
              exact absurd hpost (by simp)
          | none =>
              rw [hkey, hfresh] at hpost
              obtain rfl := Option.some.inj hpost
              have hinsert : (s.agentTasks.insert (newTask card route now)).select
                  (fun r => p.keep r.taskId) = s.agentTasks.select fun r => p.keep r.taskId :=
                Table.select_insert_outside hfresh (h route hroute hkey hfresh)
              exact Tables.eq_of hinsert rfl rfl rfl rfl rfl rfl
  | claim t role worker mins =>
      rw [Op.post] at hpost
      split_ifs at hpost
      obtain ⟨row, -, rfl⟩ := Option.map_eq_some_iff.mp hpost
      exact restrict_rewritten_outside h _ _
  | heartbeat t worker mins =>
      rw [Op.post] at hpost
      split_ifs at hpost
      obtain ⟨row, -, rfl⟩ := Option.map_eq_some_iff.mp hpost
      exact restrict_rewritten_outside h _ _
  | expireLeases recoveryIds | releaseDueRetries => exact absurd h id
  | reportFailure report recoveryId =>
      obtain ⟨hout, hcircuit⟩ := h
      obtain ⟨task, htask, hpost⟩ := Option.bind_eq_some_iff.mp hpost
      obtain ⟨hrow, hadm⟩ := Option.filter_eq_some_iff.mp htask
      have hkey : task.taskId = report.taskId := Table.key_of_get? hrow
      cases hrec : requiresRecovery report.failureClass report.sideEffectState with
      | true =>
          cases hfresh : s.recoveryCards.get? recoveryId with
          | some card =>
              rw [hrec, hfresh] at hpost
              exact absurd hpost (by simp)
          | none =>
              rw [hrec, hfresh] at hpost
              obtain rfl := Option.some.inj hpost
              have hout' : p.keep task.taskId = false := by rw [hkey, hout]
              have hcard : (s.recoveryCards.insert (newRecoveryCard task report.failureClass.value
                  report.reason recoveryId now)).select (fun c => p.keep c.taskId)
                  = s.recoveryCards.select fun c => p.keep c.taskId :=
                Table.select_insert_outside hfresh hout'
              exact Tables.eq_of (select_tasks_outside hout (movedRow_taskId _)) rfl rfl rfl rfl
                rfl hcard
      | false =>
          rw [hrec] at hpost
          obtain rfl := Option.some.inj hpost
          exact restrict_postFailure_outside hkey hout
            (hcircuit task hrow (of_decide_eq_true hadm) hrec)
  | submitReceipt receipt =>
      obtain ⟨hout, hcircuit⟩ := h
      obtain ⟨task, htask, rfl⟩ := Option.map_eq_some_iff.mp hpost
      obtain ⟨hrow, hguard⟩ := Option.filter_eq_some_iff.mp htask
      rw [Bool.and_eq_true, decide_eq_true_eq, decide_eq_true_eq] at hguard
      exact Tables.eq_of (select_tasks_outside hout (movedRow_taskId _)) rfl rfl
        (filter_append_outside ReceiptRow.taskId _ hout)
        (circuitsClosed_outside (hcircuit task hrow hguard.1 hguard.2)) rfl rfl
  | requestApproval card =>
      obtain ⟨task, -, hpost⟩ := Option.bind_eq_some_iff.mp hpost
      cases hfresh : s.approvals.get? card.approvalId with
      | some approval =>
          rw [hfresh] at hpost
          exact absurd hpost (by simp)
      | none =>
          rw [hfresh] at hpost
          obtain rfl := Option.some.inj hpost
          have happroval : (s.approvals.insert (newApproval card now)).select
              (fun a => p.keep a.taskId) = s.approvals.select fun a => p.keep a.taskId :=
            Table.select_insert_outside hfresh h
          exact Tables.eq_of (select_tasks_outside h (movedRow_taskId _)) rfl happroval rfl rfl rfl
            rfl
  | decideApproval approvalId decision decidedBy reason =>
      obtain ⟨d, -, hpost⟩ := Option.bind_eq_some_iff.mp hpost
      obtain ⟨approval, happ, hpost⟩ := Option.bind_eq_some_iff.mp hpost
      obtain ⟨task, -, rfl⟩ := Option.map_eq_some_iff.mp hpost
      have hget := (Option.filter_eq_some_iff.mp happ).1
      have hkey : approval.approvalId = approvalId := Table.key_of_get? hget
      have hout : p.keep approval.taskId = false := h approval hget
      have happroval : (s.approvals.updateKey approval.approvalId
          (decidedApproval d decidedBy reason now)
          (decidedApproval_approvalId d decidedBy reason now)).select (fun a => p.keep a.taskId)
          = s.approvals.select fun a => p.keep a.taskId := by
        refine Table.select_updateKey_outside (fun a => rfl) ?_
        rw [hkey, hget, Option.all_some, hout]
        rfl
      exact Tables.eq_of (select_tasks_outside hout (movedRow_taskId _)) rfl happroval rfl rfl rfl
        rfl
  | transition t target reason =>
      obtain ⟨row, -, rfl⟩ := Option.map_eq_some_iff.mp hpost
      exact restrict_rewritten_outside h _ _

end

end ControlHarness

import ControlHarness.Lifecycle.Ownership

/-!
Messages that are delivered again.

A receipt and a failure report name their task and their worker, not the
attempt they are about. A copy of an accepted receipt is refused for good, since
no operation of the HTTP surface brings its task back to a worker. A copy of an
accepted failure report is refused until the task was released and claimed
again; then, if the claim is by the same worker, it counts for the new attempt
(`accepted_once`).

* `Resting`: no operation of the HTTP surface leads the task to a claim.
* `ReclaimedIn`: the run holds a release of the task and then a claim of it by
  the worker.
* `AfterMessage`: the invariant of the run after an accepted message, status by
  status (`afterMessage_exec`).
* `not_accepted_once`: a failure report is accepted twice.
-/

namespace ControlHarness

open Store

/-! ### Tasks that no worker gets again -/

/-- The statuses from which no operation of the HTTP surface leads to a claim. -/
def restingStatuses : List TaskStatus :=
  [.review, .awaitingApproval, .blocked, .failed, .done, .cancelled, .recoveryRequired,
    .awaitingDecision]

/-- The task has one of these statuses. -/
def Resting (v : TaskView) : Prop := ∃ row, v.row = some row ∧ row.status ∈ restingStatuses

lemma not_isExecution_of_resting {status : TaskStatus} (h : status ∈ restingStatuses) :
    ¬ status.IsExecution := by
  rintro (rfl | rfl) <;> exact absurd h (by decide)

/-- A task at rest stays at rest. -/
lemma TaskStep.resting {now : Timestamp} {t : UUID} {v v' : TaskView} {op : Op} (hhttp : op.Http)
    (h : TaskStep now t v op v') (hv : Resting v) : Resting v' := by
  obtain ⟨row, hrow, hrest⟩ := hv
  cases h.idle hrow (not_isExecution_of_resting hrest) with
  | noted => exact ⟨row, hrow, hrest⟩
  | claimed _ _ _ _ hready =>
      rw [hready] at hrest
      exact absurd hrest (by decide)
  | released _ hwait =>
      rw [hwait] at hrest
      exact absurd hrest (by decide)
  | approvalRequested _ _ _ hrow' => exact ⟨_, hrow', by rw [movedRow_status]; decide⟩
  | approvalDecided _ _ _ _ d _ _ _ _ hrow' =>
      refine ⟨_, hrow', ?_⟩
      rw [movedRow_status]
      cases d <;> decide
  | transitioned => exact hhttp.elim

lemma resting_exec {db : Db} {t : UUID} {calls : List Call} (hhttp : ∀ c ∈ calls, c.op.Http)
    (h : Resting (db.tables.view t)) : Resting ((store.exec db calls).tables.view t) :=
  view_along (A := fun _ c => c.op.Http) (Machine.along_of_forall hhttp) t h
    fun _ _ hop hstep hrest => hstep.resting hop hrest

lemma receiptTarget_resting (row : TaskRow) (outcome : ReceiptOutcome) :
    receiptTarget row outcome ∈ restingStatuses := by
  have hmem := receiptTarget_mem_closing row outcome
  simp only [List.mem_cons, List.not_mem_nil, or_false] at hmem
  rcases hmem with h | h | h | h <;> rw [h] <;> decide

/-- An accepted receipt leaves its task at rest. -/
lemma Receives.resting {db : Db} {call : Call} {receipt : ResultReceiptV1}
    (h : Receives db call receipt) :
    Resting ((store.next call db).tables.view receipt.taskId) := by
  obtain ⟨row, -, -, -, hnext⟩ := h.spec
  refine ⟨_, hnext, ?_⟩
  rw [receiptRow, movedRow_status]
  exact receiptTarget_resting row receipt.outcome

/-- An accepted failure report leaves its task at rest, or waiting for a retry. -/
lemma Reports.resting_or_wait {db : Db} {call : Call} {report : FailureReportV1}
    (h : Reports db call report) :
    Resting ((store.next call db).tables.view report.taskId) ∨
      report.failureClass ∈ retryableFailures ∧ report.sideEffectState ≠ .unknown ∧
        ∃ row, (store.next call db).tables.agentTasks.get? report.taskId = some row ∧
          row.status = .retryWait := by
  obtain ⟨⟨id, hop⟩, d, hout⟩ := h
  have heff := effect_of_out hop hout
  generalize (store.next call db).tables = s' at heff ⊢
  have hmoved : ∀ (target : TaskStatus) (row : TaskRow), target ∈ restingStatuses →
      (s'.view report.taskId).row = some (movedRow target row) →
      Resting (s'.view report.taskId) := fun target row hmem hrow =>
    ⟨_, hrow, by rw [movedRow_status]; exact hmem⟩
  cases heff with
  | recovery _ _ task _ _ hrow =>
      refine Or.inl (hmoved .recoveryRequired task (by decide) ?_)
      rw [Tables.view, Table.get?_updateKey, if_pos rfl, hrow]
      rfl
  | retryScheduled _ _ task _ _ delay hrow hadm hknown hretry =>
      refine Or.inr ⟨hretry, fun hunknown => ?_, _,
        by rw [Table.get?_updateKey, if_pos rfl, hrow]; rfl, ?_⟩
      · rw [(requiresRecovery_iff report).mpr hunknown] at hknown
        exact Bool.noConfusion hknown
      · rw [retriedRow_status]
  | deadLettered _ _ task _ _ _ _ hrow =>
      refine Or.inl (hmoved .failed task (by decide) ?_)
      rw [Tables.view, Table.get?_updateKey, if_pos rfl, hrow]
      rfl
  | stopped _ _ task _ action target hrow hadm hknown hstop =>
      have htarget : target ∈ restingStatuses := by
        rcases hstop with ⟨-, -, rfl⟩ | ⟨-, -, rfl⟩ <;> decide
      refine Or.inl (hmoved target task htarget ?_)
      rw [Tables.view, Table.get?_updateKey, if_pos rfl, hrow]
      rfl

/-- No message of a worker is accepted for a task at rest. -/
lemma Resting.refuses {db : Db} {t : UUID} (h : Resting (db.tables.view t)) (call : Call) :
    (∀ receipt, receipt.taskId = t → ¬ Receives db call receipt) ∧
      ∀ report, report.taskId = t → ¬ Reports db call report := by
  obtain ⟨row, hrow, hrest⟩ := h
  have hidle := not_isExecution_of_resting hrest
  refine ⟨?_, ?_⟩
  · rintro receipt rfl hreceives
    obtain ⟨row', hrow', -, hexec, -⟩ := hreceives.spec
    obtain rfl : row = row' := Option.some.inj (hrow.symm.trans hrow')
    exact hidle hexec
  · rintro report rfl hreports
    obtain ⟨row', hrow', hadm⟩ := hreports.spec
    obtain rfl : row = row' := Option.some.inj (hrow.symm.trans hrow')
    exact hidle hadm.execution

/-! ### The run after an accepted message -/

/-- The run from `db` holds a release of the task. -/
def ReleasesIn (db : Db) (t : UUID) (calls : List Call) : Prop :=
  ∃ before r after, calls = before ++ r :: after ∧ Releases (store.exec db before) r t

/-- The run from `db` holds a release of the task and then a claim of it by the
worker. -/
def ReclaimedIn (db : Db) (t : UUID) (worker : String) (calls : List Call) : Prop :=
  ∃ before x after, calls = before ++ x :: after ∧ ReleasesIn db t before ∧
    Claims (store.exec db before) x t worker

lemma ReleasesIn.concat {db : Db} {t : UUID} {calls : List Call} (h : ReleasesIn db t calls)
    (c : Call) : ReleasesIn db t (calls ++ [c]) := by
  obtain ⟨before, r, after, rfl, hrelease⟩ := h
  exact ⟨before, r, after ++ [c], by simp, hrelease⟩

lemma ReclaimedIn.concat {db : Db} {t : UUID} {worker : String} {calls : List Call}
    (h : ReclaimedIn db t worker calls) (c : Call) : ReclaimedIn db t worker (calls ++ [c]) := by
  obtain ⟨before, x, after, rfl, hclaim⟩ := h
  exact ⟨before, x, after ++ [c], by simp, hclaim⟩

/-- What the run after an accepted message says of the task now. -/
def AfterMessage (db : Db) (t : UUID) (calls : List Call) (row : TaskRow) : Prop :=
  (row.status = .ready → ReleasesIn db t calls) ∧
    (row.status.IsExecution →
      ∃ worker, row.ownerInstance = some worker ∧ ReclaimedIn db t worker calls)

section

variable {db₀ : Db} {t : UUID} {calls : List Call} {row row' : TaskRow} {call : Call}

/-- A row that keeps its status and owner keeps what the run says of it. -/
lemma AfterMessage.concat (h : AfterMessage db₀ t calls row) (c : Call)
    (hstatus : row'.status = row.status) (howner : row'.ownerInstance = row.ownerInstance) :
    AfterMessage db₀ t (calls ++ [c]) row' := by
  refine ⟨fun hready => ?_, fun hexec => ?_⟩
  · rw [hstatus] at hready
    exact (h.1 hready).concat c
  · rw [hstatus] at hexec
    obtain ⟨worker, hown, hclaim⟩ := h.2 hexec
    exact ⟨worker, howner.trans hown, hclaim.concat c⟩

/-- A task that is neither ready nor in execution. -/
lemma afterMessage_of_status (hready : row.status ≠ .ready) (hexec : ¬ row.status.IsExecution) :
    AfterMessage db₀ t calls row :=
  ⟨fun h => absurd h hready, fun h => absurd h hexec⟩

lemma afterMessage_movedRow {target : TaskStatus} (hmem : target ∈ restingStatuses) :
    AfterMessage db₀ t calls (movedRow target row) := by
  refine afterMessage_of_status ?_ ?_
  · rw [movedRow_status]
    rintro rfl
    exact absurd hmem (by decide)
  · rw [movedRow_status]
    exact not_isExecution_of_resting hmem

/-- **The step of `AfterMessage`.** -/
lemma AfterMessage.next (hrow : (store.exec db₀ calls).tables.agentTasks.get? t = some row)
    (h : AfterMessage db₀ t calls row) (hhttp : call.op.Http) :
    ∃ row', (store.exec db₀ (calls ++ [call])).tables.agentTasks.get? t = some row' ∧
      AfterMessage db₀ t (calls ++ [call]) row' := by
  rw [Machine.exec_concat]
  set db := store.exec db₀ calls with hdb
  have hsame : ∀ r, (db.tables.view t).row = some r → r = row := fun r hr =>
    Option.some.inj (hr.symm.trans hrow)
  rcases view_next call db t with hview | hstep
  · exact ⟨row, (congrArg TaskView.row hview).trans hrow, h.concat call rfl rfl⟩
  generalize hv' : (store.next call db).tables.view t = v' at hstep
  have hnext : (store.next call db).tables.agentTasks.get? t = v'.row := by
    rw [← hv']
    rfl
  rw [hnext]
  generalize hop : call.op = op at hstep hhttp
  cases hstep with
  | created card route hid hnone => exact absurd (hrow.symm.trans hnone) (by simp)
  | claimed role w mins r hr hready =>
      obtain rfl := hsame r hr
      have hmoved := moved_of_status hrow hnext (by simp [claimedRow, hready])
      have hclaims := claims_of_moved hmoved hop
      refine ⟨_, rfl, by simp [claimedRow], fun _ => ⟨w, rfl, ?_⟩⟩
      exact ⟨calls, call, [], rfl, h.1 hready, hclaims⟩
  | renewed w mins r hr =>
      obtain rfl := hsame r hr
      exact ⟨_, rfl, h.concat call rfl rfl⟩
  | heartbeatRejected w mins r hr | receiptRejected receipt r hid hr =>
      obtain rfl := hsame r hr
      exact ⟨r, hr, h.concat call rfl rfl⟩
  | swept ids r hr =>
      exact ⟨_, rfl, afterMessage_of_status (by simp [sweptRow])
        (not_isExecution_of_resting (show TaskStatus.recoveryRequired ∈ restingStatuses by decide))⟩
  | retryScheduled report id r delay =>
      refine ⟨_, rfl, afterMessage_of_status ?_ ?_⟩
      · rw [retriedRow_status]
        decide
      · rw [retriedRow_status]
        decide
  | released r hr hwait =>
      obtain rfl := hsame r hr
      have hmoved := moved_of_status hrow hnext (by simp [releasedRow, hwait])
      have hreleases := releases_of_moved hmoved hop
      refine ⟨_, rfl, fun _ => ⟨calls, call, [], rfl, hreleases⟩, fun hexec => ?_⟩
      exact absurd (show TaskStatus.ready.IsExecution from hexec) (by decide)
  | recovery | deadLettered | approvalRequested =>
      exact ⟨_, rfl, afterMessage_movedRow (by decide)⟩
  | stopped report id r target hid hr hadm hrec hstop =>
      refine ⟨_, rfl, afterMessage_movedRow ?_⟩
      rcases hstop with ⟨-, rfl⟩ | ⟨-, rfl⟩ <;> decide
  | receiptAccepted receipt r receiptId closing =>
      exact ⟨_, rfl, afterMessage_movedRow (receiptTarget_resting r receipt.outcome)⟩
  | approvalDecided id decision by_ reason d =>
      refine ⟨_, rfl, afterMessage_movedRow ?_⟩
      cases d <;> decide
  | transitioned => exact hhttp.elim

/-- The rule for the run after a message that left the task waiting. -/
lemma afterMessage_exec (hrow : db₀.tables.agentTasks.get? t = some row)
    (hwait : row.status = .retryWait) (hhttp : ∀ c ∈ calls, c.op.Http) :
    ∃ row', (store.exec db₀ calls).tables.agentTasks.get? t = some row' ∧
      AfterMessage db₀ t calls row' := by
  induction calls using List.reverseRecOn with
  | nil =>
      refine ⟨row, hrow, afterMessage_of_status ?_ ?_⟩
      · rw [hwait]
        decide
      · rw [hwait]
        decide
  | append_singleton calls call ih =>
      obtain ⟨row', hrow', hafter⟩ := ih fun c hc => hhttp c (List.mem_append_left _ hc)
      exact hafter.next hrow' (hhttp call (by simp))

end

/-! ### Messages that are refused -/

/-- A receipt that is not accepted leaves every table but the log alone. -/
lemma tables_of_not_receives {db : Db} {call : Call} {receipt : ResultReceiptV1}
    (hop : call.op = .submitReceipt receipt) (hno : ¬ Receives db call receipt) :
    (store.next call db).tables
      = { db.tables with agentEvents := (store.next call db).tables.agentEvents } := by
  obtain ⟨r, hout⟩ : ∃ r, store.out call db = r := ⟨_, rfl⟩
  have heff := effect_of_out hop hout
  generalize (store.next call db).tables = s' at heff ⊢
  cases heff with
  | failed | receiptRejected => rfl
  | receiptAccepted => exact absurd ⟨hop, _, hout⟩ hno

/-- A failure report that is not accepted leaves the tables alone. -/
lemma tables_of_not_reports {db : Db} {call : Call} {report : FailureReportV1} {id : UUID}
    (hop : call.op = .reportFailure report id) (hno : ¬ Reports db call report) :
    (store.next call db).tables = db.tables := by
  obtain ⟨r, hout⟩ : ∃ r, store.out call db = r := ⟨_, rfl⟩
  have heff := effect_of_out hop hout
  generalize (store.next call db).tables = s' at heff ⊢
  cases heff with
  | failed => rfl
  | recovery | retryScheduled | deadLettered | stopped =>
      exact absurd ⟨⟨id, hop⟩, _, hout⟩ hno

/-- In the run each receipt and each failure report is accepted at most once. -/
def AcceptedOnce (calls : List Call) : Prop :=
  ∀ pre x mid y post, calls = pre ++ x :: (mid ++ y :: post) →
    (∀ receipt, Receives (store.exec Db.init pre) x receipt →
      ¬ Receives (store.exec Db.init (pre ++ x :: mid)) y receipt) ∧
    ∀ report, Reports (store.exec Db.init pre) x report →
      ¬ Reports (store.exec Db.init (pre ++ x :: mid)) y report

/-- **Messages that are delivered again**: in a run of the HTTP surface at most
one receipt of a task is accepted; a failure report that was accepted is
accepted again only if it was of a retryable class and without unknown side
effects, and in between the task was released and then claimed by the worker of
the report; and a copy that is not accepted changes no table but the log. -/
theorem accepted_once (pre mid post : List Call) (x y : Call)
    (hhttp : ∀ c ∈ pre ++ x :: (mid ++ y :: post), c.op.Http) :
    (∀ receipt receipt', Receives (store.exec Db.init pre) x receipt →
        receipt'.taskId = receipt.taskId →
        ¬ Receives (store.exec Db.init (pre ++ x :: mid)) y receipt') ∧
      (∀ report, Reports (store.exec Db.init pre) x report →
        Reports (store.exec Db.init (pre ++ x :: mid)) y report →
        report.failureClass ∈ retryableFailures ∧ report.sideEffectState ≠ .unknown ∧
          ReclaimedIn (store.exec Db.init (pre ++ [x])) report.taskId report.workerInstance mid) ∧
      (∀ receipt, y.op = .submitReceipt receipt →
        ¬ Receives (store.exec Db.init (pre ++ x :: mid)) y receipt →
        (store.exec Db.init (pre ++ x :: mid ++ [y])).tables
          = { (store.exec Db.init (pre ++ x :: mid)).tables with
              agentEvents := (store.exec Db.init (pre ++ x :: mid ++ [y])).tables.agentEvents }) ∧
      ∀ report recoveryId, y.op = .reportFailure report recoveryId →
        ¬ Reports (store.exec Db.init (pre ++ x :: mid)) y report →
        (store.exec Db.init (pre ++ x :: mid ++ [y])).tables
          = (store.exec Db.init (pre ++ x :: mid)).tables := by
  have hmid : ∀ c ∈ mid, c.op.Http := fun c hc => hhttp c (by simp [hc])
  have hexec : store.exec Db.init (pre ++ x :: mid)
      = store.exec (store.next x (store.exec Db.init pre)) mid := by
    rw [Machine.exec_append, Machine.exec_cons]
  refine ⟨fun receipt receipt' hfirst hid => ?_, fun report hfirst hsecond => ?_, ?_, ?_⟩
  · rw [hexec]
    exact ((resting_exec hmid hfirst.resting).refuses y).1 receipt' hid
  · rw [hexec] at hsecond
    rcases hfirst.resting_or_wait with hrest | ⟨hretry, hknown, row, hrow, hwait⟩
    · exact absurd hsecond (((resting_exec hmid hrest).refuses y).2 report rfl)
    · obtain ⟨row', hrow', hafter⟩ := afterMessage_exec hrow hwait hmid
      obtain ⟨task, htask, hadm⟩ := hsecond.spec
      obtain rfl : row' = task := Option.some.inj (hrow'.symm.trans htask)
      obtain ⟨worker, hown, hclaimed⟩ := hafter.2 hadm.execution
      obtain rfl : worker = report.workerInstance :=
        Option.some.inj (hown.symm.trans hadm.owner)
      rw [Machine.exec_concat]
      exact ⟨hretry, hknown, hclaimed⟩
  · intro receipt hop hno
    rw [Machine.exec_concat]
    exact tables_of_not_receives hop hno
  · intro report id hop hno
    rw [Machine.exec_concat]
    exact tables_of_not_reports hop hno

/-- A receipt that is delivered twice. -/
theorem accepted_once_receipt :
    ¬ Receives (store.exec Db.init [⟨.createTask sampleCard, 0⟩,
        ⟨.claim sampleCard.taskId "hermes_local" "worker-a" 30, 0⟩,
        ⟨.submitReceipt sampleReceipt, 1⟩]) ⟨.submitReceipt sampleReceipt, 2⟩ sampleReceipt :=
  (accepted_once [⟨.createTask sampleCard, 0⟩,
      ⟨.claim sampleCard.taskId "hermes_local" "worker-a" 30, 0⟩] [] []
    ⟨.submitReceipt sampleReceipt, 1⟩ ⟨.submitReceipt sampleReceipt, 2⟩ (by decide)).1
    sampleReceipt sampleReceipt ⟨rfl, _, rfl⟩ rfl

/-- A failure report is accepted for one attempt, and its copy for the next. -/
theorem not_accepted_once :
    ¬ ∀ calls : List Call, (∀ c ∈ calls, c.op.Http) → AcceptedOnce calls := by
  intro h
  refine (h [⟨.createTask sampleCard, 0⟩,
    ⟨.claim sampleCard.taskId "hermes_local" "worker-a" 30, 0⟩,
    ⟨.reportFailure sampleReport ⟨9⟩, 1⟩, ⟨.releaseDueRetries, minutes 10⟩,
    ⟨.claim sampleCard.taskId "hermes_local" "worker-a" 30, minutes 10⟩,
    ⟨.reportFailure sampleReport ⟨10⟩, minutes 11⟩] (by decide)
    [⟨.createTask sampleCard, 0⟩, ⟨.claim sampleCard.taskId "hermes_local" "worker-a" 30, 0⟩]
    ⟨.reportFailure sampleReport ⟨9⟩, 1⟩
    [⟨.releaseDueRetries, minutes 10⟩,
      ⟨.claim sampleCard.taskId "hermes_local" "worker-a" 30, minutes 10⟩]
    ⟨.reportFailure sampleReport ⟨10⟩, minutes 11⟩ [] rfl).2 sampleReport ⟨⟨_, rfl⟩, _, rfl⟩ ?_
  exact ⟨⟨_, rfl⟩, _, rfl⟩

end ControlHarness

import ControlHarness.General.Text
import ControlHarness.Lifecycle.Orderly
import ControlHarness.Lifecycle.Outcome

/-!
The tasks that can still be finished.

From a reachable state of the HTTP surface a task can be brought to `done` in all
statuses but five: `blocked`, `failed`, `cancelled`, `recovery_required` and
`awaiting_decision` have no way out over HTTP. There is one more dead end. A
claim takes any text as the identifier of its worker, a receipt and a failure report
only a stripped one of 3 to 120 characters; a task in execution whose owner has
another name can receive neither, and ends in recovery (`finishable_iff`).

* `TaskRow.Finishable`: the statuses, and the owners, that leave a way.
* `CanFinish`: a run of the surface brings the task to `done`, however late it begins.
* `TaskStep.stranded`: a step does not bring a task back that cannot be finished.
-/

namespace ControlHarness

open Store Text

/-- The name is one that a message about the work on a task can carry. -/
def IsWorkerName (worker : String) : Prop :=
  HasLength 3 120 worker ∧ strip isWhiteSpace worker = worker

instance (worker : String) : Decidable (IsWorkerName worker) :=
  inferInstanceAs (Decidable (_ ∧ _))

/-- A task that can still be finished. -/
def TaskRow.Finishable (row : TaskRow) : Prop :=
  match row.status with
  | .ready | .retryWait | .review | .awaitingApproval | .done => True
  | .claimed | .inProgress => ∃ worker, row.ownerInstance = some worker ∧ IsWorkerName worker
  | .blocked | .failed | .cancelled | .recoveryRequired | .awaitingDecision => False

/-- The messages of the operation carry the name of a worker as the contract parses
it. -/
def Op.Parsed : Op → Prop
  | .submitReceipt receipt => strip isWhiteSpace receipt.workerInstance = receipt.workerInstance
  | .reportFailure report _ => strip isWhiteSpace report.workerInstance = report.workerInstance
  | _ => True

/-- A run of the surface that begins at `since` or later brings the task to `done`. -/
def CanFinish (db : Db) (t : UUID) (since : Timestamp) : Prop :=
  ∃ more : List Call, (∀ c ∈ more, c.op.Http ∧ c.op.Parsed ∧ since ≤ c.now) ∧
    more.Pairwise (·.now ≤ ·.now) ∧
    ∃ row, (store.exec db more).tables.agentTasks.get? t = some row ∧ row.status = .done

/-- The state is reached by operations of the surface. -/
def Reached (db : Db) : Prop :=
  ∃ calls : List Call, (∀ c ∈ calls, c.op.Http) ∧ db = store.exec Db.init calls

/-! ### Tasks that cannot be finished -/

section

variable {now : Timestamp} {t : UUID} {v v' : TaskView} {op : Op} {row : TaskRow}

lemma finishable_of_isExecution (hexec : row.status.IsExecution) {worker : String}
    (howner : row.ownerInstance = some worker) (hname : IsWorkerName worker) :
    row.Finishable := by
  rcases hexec with h | h <;> (rw [TaskRow.Finishable, h]; exact ⟨worker, howner, hname⟩)

lemma finishable_of_done (h : row.status = .done) : row.Finishable := by
  rw [TaskRow.Finishable, h]
  trivial

/-- A row that keeps its status and its owner. -/
lemma finishable_congr {row' : TaskRow} (hstatus : row'.status = row.status)
    (howner : row'.ownerInstance = row.ownerInstance) : row'.Finishable ↔ row.Finishable := by
  rw [TaskRow.Finishable, TaskRow.Finishable, hstatus, howner]

/-- The task exists and cannot be finished. -/
def Stranded (v : TaskView) : Prop := ∃ row, v.row = some row ∧ ¬ row.Finishable

/-- **No step brings a task back** that cannot be finished. -/
theorem TaskStep.stranded (hhttp : op.Http) (hparsed : op.Parsed) (h : TaskStep now t v op v')
    (horderly : Orderly v) (hv : Stranded v) : Stranded v' := by
  obtain ⟨row, hrow, hrest⟩ := hv
  have hsame : ∀ {r}, v.row = some r → r = row := fun hr => Option.some.inj (hr.symm.trans hrow)
  have hopen : ∀ {s}, row.status = s → ({ row with status := s } : TaskRow).Finishable → False := by
    intro s hs hfin
    rw [← hs] at hfin
    exact hrest hfin
  cases h with
  | created card route hid hnone => exact absurd (hrow.symm.trans hnone) (by simp)
  | claimed role worker mins r hr hready =>
      obtain rfl := hsame hr
      exact (hopen hready trivial).elim
  | renewed worker mins r hr =>
      obtain rfl := hsame hr
      exact ⟨_, rfl, fun hfin => hrest ((finishable_congr rfl rfl).mp hfin)⟩
  | heartbeatRejected | receiptRejected => exact ⟨row, hrow, hrest⟩
  | swept ids r hr => exact ⟨_, rfl, fun hfin => hfin⟩
  | recovery report id r hid hr hadm | retryScheduled report id r delay hid hr hadm
  | deadLettered report id r letterId reason hid hr hadm
  | stopped report id r target hid hr hadm =>
      obtain rfl := hsame hr
      exact absurd (finishable_of_isExecution hadm.execution hadm.owner
        ⟨report.worker_length, hparsed⟩) hrest
  | released r hr hwait =>
      obtain rfl := hsame hr
      exact (hopen hwait trivial).elim
  | receiptAccepted receipt r receiptId closing hid hr hown hexec =>
      obtain rfl := hsame hr
      exact absurd (finishable_of_isExecution hexec hown ⟨receipt.worker_length, hparsed⟩) hrest
  | approvalRequested card r hid hr hreview =>
      obtain rfl := hsame hr
      exact (hopen hreview trivial).elim
  | approvalDecided id decision by_ reason d approval r hd happ hkey hasked hr =>
      obtain rfl := hsame hr
      obtain ⟨hawait, -⟩ := (horderly.of_row hr).2.1.awaiting happ hasked
      exact (hopen hawait trivial).elim
  | transitioned => exact hhttp.elim

end

/-! ### One call after another -/

section

variable {db : Db} {t : UUID} {row : TaskRow} {since : Timestamp}

lemma Reached.orderly (h : Reached db) (t : UUID) : Orderly (db.tables.view t) := by
  obtain ⟨calls, hhttp, rfl⟩ := h
  exact orderly_exec hhttp t

lemma Reached.next (h : Reached db) (call : Call) (hhttp : call.op.Http) :
    Reached (store.next call db) := by
  obtain ⟨calls, hcalls, rfl⟩ := h
  refine ⟨calls ++ [call], fun c hc => ?_, (Machine.exec_concat ..).symm⟩
  rcases List.mem_append.mp hc with hc | hc
  · exact hcalls c hc
  · obtain rfl := List.mem_singleton.mp hc
    exact hhttp

lemma CanFinish.of_done (hrow : db.tables.agentTasks.get? t = some row) (h : row.status = .done) :
    CanFinish db t since := ⟨[], by simp, .nil, row, hrow, h⟩

/-- A call of the surface and then a run that finishes the task. -/
lemma CanFinish.of_next (call : Call) (hhttp : call.op.Http) (hparsed : call.op.Parsed)
    (hnow : since ≤ call.now) (h : CanFinish (store.next call db) t call.now) :
    CanFinish db t since := by
  obtain ⟨more, hmore, hsorted, hdone⟩ := h
  refine ⟨call :: more, fun c hc => ?_, ?_, hdone⟩
  · rcases List.mem_cons.mp hc with rfl | hc
    · exact ⟨hhttp, hparsed, hnow⟩
    · exact ⟨(hmore c hc).1, (hmore c hc).2.1, hnow.trans (hmore c hc).2.2⟩
  · exact List.pairwise_cons.mpr ⟨fun c hc => (hmore c hc).2.2, hsorted⟩

lemma CanFinish.mono {since' : Timestamp} (h : CanFinish db t since') (hle : since ≤ since') :
    CanFinish db t since := by
  obtain ⟨more, hmore, hsorted, hdone⟩ := h
  exact ⟨more, fun c hc => ⟨(hmore c hc).1, (hmore c hc).2.1, hle.trans (hmore c hc).2.2⟩,
    hsorted, hdone⟩

/-- A task that awaits an approval is approved. -/
lemma canFinish_awaiting (h : Reached db) (hrow : db.tables.agentTasks.get? t = some row)
    (hstatus : row.status = .awaitingApproval) : CanFinish db t since := by
  obtain ⟨a, happrovals, hopen⟩ : ∃ a, (db.tables.view t).approvals = [a] ∧
      a.status = .requested := by
    have hfit := ((h.orderly t).of_row hrow).2.1
    rw [hstatus] at hfit
    exact hfit
  obtain ⟨hmem, htask⟩ : a ∈ db.tables.approvals.rows ∧ a.taskId = t := by
    have ha : a ∈ (db.tables.view t).approvals := by simp [happrovals]
    simpa using List.mem_filter.mp ha
  have hget : db.tables.approvals.get? a.approvalId = some a := Table.get?_of_mem hmem
  have htarget : decisionTarget .approved ∈ transitions row.status := by
    rw [hstatus]
    decide
  obtain ⟨answer, hout⟩ := decideApproval_accepted since "panda_os" ""
    (show Decision.ofText "approved" = some .approved from rfl) hget hopen (htask ▸ hrow) htarget
  refine .of_next ⟨.decideApproval a.approvalId "approved" "panda_os" "", since⟩
    trivial trivial le_rfl ?_
  have heff := effect_of_out rfl hout
  generalize store.next ⟨.decideApproval a.approvalId "approved" "panda_os" "", since⟩ db = db'
    at heff ⊢
  obtain ⟨s', q⟩ := db'
  cases heff with
  | approvalDecided _ _ _ _ d approval task _ hd happ =>
      obtain rfl : a = approval := Option.some.inj (hget.symm.trans happ)
      obtain rfl : Decision.approved = d := Option.some.inj hd
      have hrow' : (Table.updateKey db.tables.agentTasks a.taskId (movedRow .done)
          (movedRow_taskId _)).get? t = some (movedRow .done row) := by
        rw [Table.get?_updateKey, if_pos htask.symm, hrow]
        rfl
      exact .of_done hrow' (movedRow_status _ _)

/-- The request for an approval under an identifier. -/
def reviewRequest (approvalId t : UUID) : ApprovalCardV1 :=
  { sampleApproval with
    approvalId := approvalId
    taskId := t }

/-- A task in review asks for an approval under a fresh identifier. -/
lemma canFinish_review (h : Reached db) (hrow : db.tables.agentTasks.get? t = some row)
    (hstatus : row.status = .review) {approvalId : UUID}
    (hfresh : db.tables.approvals.get? approvalId = none) : CanFinish db t since := by
  set call : Call := ⟨.requestApproval (reviewRequest approvalId t), since⟩ with hcall
  obtain ⟨answer, hout⟩ := requestApproval_accepted since
    (show db.tables.agentTasks.get? (reviewRequest approvalId t).taskId = some row from hrow)
    hstatus hfresh
  have hreach := h.next call trivial
  have heff := effect_of_out (rfl : call.op = _) hout
  refine .of_next call trivial trivial le_rfl ?_
  generalize store.next call db = db' at heff hreach ⊢
  obtain ⟨s', q⟩ := db'
  cases heff with
  | approvalRequested =>
      have hrow' : (Table.updateKey db.tables.agentTasks (reviewRequest approvalId t).taskId
          (movedRow .awaitingApproval) (movedRow_taskId _)).get? t
          = some (movedRow .awaitingApproval row) := by
        rw [Table.get?_updateKey, if_pos (show t = (reviewRequest approvalId t).taskId from rfl),
          hrow]
        rfl
      exact canFinish_awaiting hreach hrow' (movedRow_status _ _)

/-- The receipt of a worker for a task. -/
def finalReceipt (row : TaskRow) {worker : String} (h : HasLength 3 120 worker) :
    ResultReceiptV1 :=
  { sampleReceipt with
    taskId := row.taskId
    correlationId := row.correlationId
    workerInstance := worker
    worker_length := h }

/-- A task in execution takes the receipt of its owner, whatever its lease says. -/
lemma canFinish_executing (h : Reached db) (hrow : db.tables.agentTasks.get? t = some row)
    (hexec : row.status.IsExecution) {worker : String} (howner : row.ownerInstance = some worker)
    (hname : IsWorkerName worker) {approvalId : UUID}
    (hfresh : db.tables.approvals.get? approvalId = none) : CanFinish db t since := by
  have hid : row.taskId = t := Table.key_of_get? hrow
  set receipt := finalReceipt row hname.1
  set call : Call := ⟨.submitReceipt receipt, since⟩
  have hget : db.tables.agentTasks.get? receipt.taskId = some row := by
    rw [show receipt.taskId = t from hid]
    exact hrow
  obtain ⟨answer, hout⟩ := submitReceipt_accepted since hget howner hexec
  have hreach := h.next call trivial
  have heff := effect_of_out (rfl : call.op = _) hout
  refine .of_next call trivial hname.2 le_rfl ?_
  generalize store.next call db = db' at heff hreach ⊢
  obtain ⟨s', q⟩ := db'
  cases heff with
  | receiptAccepted _ task _ evs htask =>
      obtain rfl : row = task := Option.some.inj (hrow.symm.trans (hid ▸ htask))
      have hrow' : (Table.updateKey db.tables.agentTasks receipt.taskId
          (movedRow (receiptTarget row .completed)) (movedRow_taskId _)).get? t
          = some (movedRow (receiptTarget row .completed) row) := by
        rw [Table.get?_updateKey, if_pos (show t = receipt.taskId from hid.symm), hrow]
        rfl
      -- without a required approval the receipt ends the task, else it leads to review
      by_cases happ : row.approvalRequired = []
      · refine .of_done hrow' ?_
        rw [movedRow_status, receiptTarget, if_neg (not_not.mpr happ)]
      · refine canFinish_review hreach hrow' ?_ hfresh
        rw [movedRow_status, receiptTarget, if_pos happ]

/-- A late call finds every circuit over its cooldown. -/
lemma exists_unblocked (s : Tables) (row : TaskRow) (since : Timestamp) :
    ∃ n ≥ since, circuitBlocks s n row = false ∧ row.leaseExpiresAt.all (· < n) = true ∧
      row.nextAttemptAt.all (· ≤ n) = true := by
  obtain ⟨m, hm⟩ := (s.circuitBreakers.rows.filterMap (·.openUntil)).toFinset.exists_le
  obtain ⟨n, hn⟩ := ({since, m, row.leaseExpiresAt.getD 0 + 1, row.nextAttemptAt.getD 0} :
    Finset Timestamp).exists_le
  refine ⟨n, hn since (by simp), ?_, ?_, ?_⟩
  · rw [circuitBlocks, List.any_eq_false]
    intro c hc hblocks
    simp only [Bool.and_eq_true, Option.any_eq_true_iff_get] at hblocks
    obtain ⟨-, hsome, hlt⟩ := hblocks
    have hle : c.openUntil.get hsome ≤ m := by
      refine hm _ (List.mem_toFinset.mpr (List.mem_filterMap.mpr ⟨c, hc, ?_⟩))
      exact (Option.some_get hsome).symm
    exact absurd (of_decide_eq_true hlt) (not_lt.mpr (hle.trans (hn m (by simp))))
  · cases hlease : row.leaseExpiresAt with
    | none => rfl
    | some lease =>
        have := hn (row.leaseExpiresAt.getD 0 + 1) (by simp)
        rw [hlease, Option.getD_some] at this
        exact decide_eq_true (Int.lt_iff_add_one_le.mpr this)
  · cases hnext : row.nextAttemptAt with
    | none => rfl
    | some due =>
        have := hn (row.nextAttemptAt.getD 0) (by simp)
        rw [hnext, Option.getD_some] at this
        exact decide_eq_true this

/-- A ready task is claimed by a worker with a proper name. -/
lemma canFinish_ready (h : Reached db) (hrow : db.tables.agentTasks.get? t = some row)
    (hstatus : row.status = .ready) {approvalId : UUID}
    (hfresh : db.tables.approvals.get? approvalId = none) : CanFinish db t since := by
  obtain ⟨n, hn, hcircuit, hlease, -⟩ := exists_unblocked db.tables row since
  have hclaim : claimable n db.tables row = true := by
    simp [claimable, hstatus, hlease, hcircuit]
  set call : Call := ⟨.claim t "hermes_local" "worker-a" 30, n⟩
  have hmins : IntervalMins 30 := by decide
  have hout := claim_accepted n "hermes_local" "worker-a" hmins hrow hclaim
  have hreach := h.next call trivial
  have heff := effect_of_out (rfl : call.op = _) hout
  refine .of_next call trivial trivial hn ?_
  generalize claimedRow "hermes_local" "worker-a" (minutes 30) n row = answer at heff
  generalize store.next call db = db' at heff hreach ⊢
  obtain ⟨s', q⟩ := db'
  cases heff with
  | claimed _ _ _ _ task eventId htask =>
      obtain rfl : row = task := Option.some.inj (hrow.symm.trans htask)
      have hrow' : (Table.updateKey db.tables.agentTasks t
          (claimedRow "hermes_local" "worker-a" (minutes 30) n) (claimedRow_taskId _ _ _ _)).get? t
          = some (claimedRow "hermes_local" "worker-a" (minutes 30) n row) := by
        rw [Table.get?_updateKey, if_pos rfl, hrow]
        rfl
      have hname : IsWorkerName "worker-a" := by decide
      exact canFinish_executing hreach hrow' (Or.inl rfl) rfl hname hfresh

end

/-! ### The wait for a retry -/

/-- A task that waits for a retry knows when it is due. -/
def Awaits (v : TaskView) : Prop :=
  ∀ row, v.row = some row → row.status = .retryWait → row.nextAttemptAt.isSome

section

variable {now : Timestamp} {t : UUID} {v v' : TaskView} {op : Op} {row : TaskRow}

/-- A step that ends in another status. -/
lemma Awaits.of_status (hrow : v.row = some row) (h : row.status ≠ .retryWait) : Awaits v := by
  intro r hr hwait
  obtain rfl := Option.some.inj (hrow.symm.trans hr)
  exact absurd hwait h

lemma Awaits.of_moved {target : TaskStatus} (hrow : v.row = some (movedRow target row))
    (h : target ≠ .retryWait) : Awaits v :=
  .of_status hrow (by rw [movedRow_status]; exact h)

theorem TaskStep.awaits (hhttp : op.Http) (h : TaskStep now t v op v') (hv : Awaits v) :
    Awaits v' := by
  cases h with
  | created | claimed | swept | released => exact .of_status rfl TaskStatus.noConfusion
  | renewed worker mins r hr hrenew =>
      refine .of_status rfl ?_
      rcases isExecution_of_renewable hrenew with hs | hs <;> (rw [renewedRow, hs]; decide)
  | heartbeatRejected | receiptRejected => exact hv
  | recovery | deadLettered | approvalRequested => exact .of_moved rfl (by decide)
  | retryScheduled report id r delay =>
      intro row' hrow' _
      obtain rfl := Option.some.inj hrow'
      rw [retriedRow, movedRow]
      split <;> rfl
  | stopped report id r target hid hr hadm hrec hstop =>
      rcases hstop with ⟨-, rfl⟩ | ⟨-, rfl⟩ <;> exact .of_moved rfl (by decide)
  | receiptAccepted receipt r =>
      exact .of_moved rfl (receiptTarget_ne (by decide) r receipt.outcome)
  | approvalDecided id decision by_ reason d => exact .of_moved rfl (by cases d <;> decide)
  | transitioned => exact hhttp.elim

end

section

variable {db : Db} {t : UUID} {row : TaskRow} {since : Timestamp}

lemma Reached.awaits (h : Reached db) (t : UUID) : Awaits (db.tables.view t) := by
  obtain ⟨calls, hhttp, rfl⟩ := h
  exact view_exec hhttp t (by simp [Awaits, TaskView.empty])
    fun _ _ _ _ hop hstep => hstep.awaits hop

/-- A task that waits for a retry is released. -/
lemma canFinish_retryWait (h : Reached db) (hrow : db.tables.agentTasks.get? t = some row)
    (hstatus : row.status = .retryWait) {approvalId : UUID}
    (hfresh : db.tables.approvals.get? approvalId = none) : CanFinish db t since := by
  obtain ⟨n, hn, hcircuit, -, hdue⟩ := exists_unblocked db.tables row since
  have hsome := h.awaits t row hrow hstatus
  have hrel : releasable n db.tables row = true := by
    obtain ⟨due, hnext⟩ := Option.isSome_iff_exists.mp hsome
    rw [hnext] at hdue
    simp [releasable, hstatus, hcircuit, hnext, of_decide_eq_true hdue]
  set call : Call := ⟨.releaseDueRetries, n⟩
  obtain ⟨rows, hout⟩ := releaseDueRetries_accepted n db
  have hreach := h.next call trivial
  have heff := effect_of_out (rfl : call.op = _) hout
  refine .of_next call trivial trivial hn ?_
  generalize store.next call db = db' at heff hreach ⊢
  obtain ⟨s', q⟩ := db'
  cases heff with
  | released =>
      refine canFinish_ready hreach (?_ : _ = some (releasedRow row)) rfl hfresh
      dsimp only
      rw [Table.get?_updateWhere, hrow, Option.map_some, if_pos hrel]

end

/-- **The tasks that can still be finished**: in every reachable state of the HTTP
surface a task can be brought to `done` by further calls of it, however late they begin,
exactly when it is ready, waits for a retry, a review or an approval, is done, or is in
execution under an owner whose name a receipt can carry. An identifier that no
approval has is given. -/
theorem finishable_iff (calls : List Call) (hhttp : ∀ c ∈ calls, c.op.Http) (t : UUID)
    (row : TaskRow) (hrow : (store.exec Db.init calls).tables.agentTasks.get? t = some row)
    (approvalId : UUID)
    (hfresh : (store.exec Db.init calls).tables.approvals.get? approvalId = none)
    (since : Timestamp) :
    CanFinish (store.exec Db.init calls) t since ↔ row.Finishable := by
  have hreach : Reached (store.exec Db.init calls) := ⟨calls, hhttp, rfl⟩
  generalize store.exec Db.init calls = db at hrow hfresh hreach ⊢
  constructor
  · rintro ⟨more, hmore, -, row', hrow', hdone⟩
    by_contra hrest
    have halong : store.Along (fun _ call => call.op.Http ∧ call.op.Parsed) db more :=
      Machine.along_of_forall fun c hc => ⟨(hmore c hc).1, (hmore c hc).2.1⟩
    obtain ⟨-, row'', hrow'', hrest'⟩ := view_along (P := fun v => Orderly v ∧ Stranded v)
      halong t ⟨hreach.orderly t, row, hrow, hrest⟩
      fun _ _ hop hstep hv => ⟨hstep.orderly hop.1 hv.1, hstep.stranded hop.1 hop.2 hv.1 hv.2⟩
    obtain rfl := Option.some.inj (hrow'.symm.trans hrow'')
    exact hrest' (finishable_of_done hdone)
  · intro hfin
    cases hstatus : row.status with
    | ready => exact canFinish_ready hreach hrow hstatus hfresh
    | retryWait => exact canFinish_retryWait hreach hrow hstatus hfresh
    | review => exact canFinish_review hreach hrow hstatus hfresh
    | awaitingApproval => exact canFinish_awaiting hreach hrow hstatus
    | done => exact .of_done hrow hstatus
    | claimed =>
        rw [TaskRow.Finishable, hstatus] at hfin
        obtain ⟨worker, howner, hname⟩ := hfin
        exact canFinish_executing hreach hrow (Or.inl hstatus) howner hname hfresh
    | inProgress =>
        rw [TaskRow.Finishable, hstatus] at hfin
        obtain ⟨worker, howner, hname⟩ := hfin
        exact canFinish_executing hreach hrow (Or.inr hstatus) howner hname hfresh
    | blocked | failed | cancelled | recoveryRequired | awaitingDecision =>
        rw [TaskRow.Finishable, hstatus] at hfin
        exact hfin.elim

/-- A claim by a worker with a name of two characters is a dead end. -/
def shortNameRun : List Call :=
  [⟨.createTask sampleCard, 0⟩, ⟨.claim sampleCard.taskId "hermes_local" "ab" 30, 0⟩]

/-- No run of the surface finishes the task. -/
theorem finishable_iff_shortName :
    ¬ CanFinish (store.exec Db.init shortNameRun) sampleCard.taskId 0 := by
  have hstate : ((store.exec Db.init shortNameRun).tables.agentTasks.get? sampleCard.taskId).map
      (fun row => (row.status, row.ownerInstance)) = some (.claimed, some "ab") := by
    decide +kernel
  obtain ⟨row, hrow, hboth⟩ := Option.map_eq_some_iff.mp hstate
  obtain ⟨hstatus, howner⟩ := Prod.mk.inj hboth
  intro hcan
  have hfin := (finishable_iff shortNameRun (by decide) sampleCard.taskId row hrow ⟨7⟩
    (by decide +kernel) 0).mp hcan
  rw [TaskRow.Finishable, hstatus] at hfin
  obtain ⟨worker, howner', hlength, -⟩ := hfin
  obtain rfl := Option.some.inj (howner.symm.trans howner')
  exact absurd hlength (by decide)

end ControlHarness

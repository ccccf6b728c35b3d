import ControlHarness.Lifecycle.Recovery
import ControlHarness.Store.Acceptance

/-!
Expired leases.

A worker whose lease is past should find its task taken away: the sweep sends
the task to recovery and a heartbeat is refused. A receipt and a failure report
are not: they are admitted by owner and status alone, so one that comes late
moves a task whose lease is past, unless the sweep came first.

* `OnlyRecovery`: in a run, a task whose lease is past moves to recovery and to
  no other status.
* `LateMessage`: a receipt of the owner, or an admitted failure report with known
  side effects, for a task whose lease is past.
* `onlyRecovery_iff`: a run has the property exactly when it has no late message.
* `not_onlyRecovery`: not every run has it.
-/

namespace ControlHarness

open Store

/-- In the run, once the lease of a task is past at a time that the later calls
do not go behind, the task keeps its status or is in recovery. -/
def OnlyRecovery (calls : List Call) : Prop :=
  ∀ pre post t now row, calls = pre ++ post →
    (store.exec Db.init pre).tables.agentTasks.get? t = some row → expired now row = true →
    (∀ c ∈ post, now ≤ c.now) →
    ∀ mid rest, post = mid ++ rest →
      ∃ row', (store.exec Db.init (pre ++ mid)).tables.agentTasks.get? t = some row' ∧
        (row'.status = row.status ∨ row'.status = .recoveryRequired)

/-- The message of a worker reaches a task whose lease is past: a receipt of its
owner, or an admitted failure report with known side effects. -/
def LateMessage (db : Db) (call : Call) : Prop :=
  match call.op with
  | .submitReceipt receipt =>
      ∃ row, db.tables.agentTasks.get? receipt.taskId = some row ∧
        row.ownerInstance = some receipt.workerInstance ∧ expired call.now row = true
  | .reportFailure report _ =>
      ∃ row, db.tables.agentTasks.get? report.taskId = some row ∧ Admitted report row ∧
        requiresRecovery report.failureClass report.sideEffectState = false ∧
        expired call.now row = true
  | _ => False

/-- A lease that is past stays past. -/
lemma expired_mono {now now' : Timestamp} (hle : now ≤ now') {row : TaskRow}
    (h : expired now row = true) : expired now' row = true := by
  simp only [expired, Bool.and_eq_true, Option.any_eq_true, decide_eq_true_eq] at h ⊢
  obtain ⟨hexec, lease, hlease, hlt⟩ := h
  exact ⟨hexec, lease, hlease, hlt.trans_le hle⟩

/-- A lease that is past is not renewed. -/
lemma not_renewable_of_expired {now : Timestamp} {row : TaskRow} {worker : String}
    (h : expired now row = true) : renewable worker now row = false := by
  simp only [expired, Bool.and_eq_true, Option.any_eq_true, decide_eq_true_eq] at h
  obtain ⟨-, lease, hlease, hlt⟩ := h
  simp only [renewable, hlease, Option.any_some, Bool.and_eq_false_iff, decide_eq_false_iff_not]
  exact Or.inr hlt.not_gt

/-- The row is held in the status, its lease past at the time. -/
def Overdue (status : TaskStatus) (now : Timestamp) (db : Db) (t : UUID) : Prop :=
  ∃ row, db.tables.agentTasks.get? t = some row ∧ row.status = status ∧ expired now row = true

/-- A call that is not a late message leaves an overdue task overdue or sends it
to recovery. -/
lemma Overdue.next {status : TaskStatus} {now : Timestamp} {db : Db} {t : UUID} {call : Call}
    (h : Overdue status now db t) (horderly : Orderly (db.tables.view t)) (hhttp : call.op.Http)
    (hle : now ≤ call.now) (hlate : ¬ LateMessage db call) :
    Overdue status now (store.next call db) t ∨
      ∃ row, (store.next call db).tables.agentTasks.get? t = some row ∧
        row.status = .recoveryRequired := by
  obtain ⟨row, hrow, hstatus, hexp⟩ := h
  have hexp' : expired call.now row = true := expired_mono hle hexp
  have hexec : row.status.IsExecution := isExecution_of_expired hexp
  have hsame : ∀ r, (db.tables.view t).row = some r → r = row := fun r hr =>
    Option.some.inj (hr.symm.trans hrow)
  rcases view_next call db t with hview | hstep
  · have hrow' : (store.next call db).tables.agentTasks.get? t = some row :=
      (congrArg TaskView.row hview).trans hrow
    exact Or.inl ⟨row, hrow', hstatus, hexp⟩
  -- only a sweep, a report of unknown side effects or a rejection is left
  obtain ⟨op, time⟩ := call
  generalize hv' : (store.next ⟨op, time⟩ db).tables.view t = v' at hstep
  have hnext : (store.next ⟨op, time⟩ db).tables.agentTasks.get? t = v'.row := by
    rw [← hv']
    rfl
  rw [Overdue, hnext]
  dsimp only at hstep hexp' hhttp
  cases hstep with
  | created card route hid hnone => exact absurd (hrow.symm.trans hnone) (by simp)
  | claimed role worker mins r hr hready =>
      rw [hsame r hr] at hready
      rw [hready] at hexec
      exact absurd hexec (by decide)
  | renewed worker mins r hr hrenew =>
      rw [hsame r hr, not_renewable_of_expired hexp'] at hrenew
      exact Bool.noConfusion hrenew
  | heartbeatRejected worker mins r hr | receiptRejected receipt r hid hr =>
      exact Or.inl ⟨row, hrow, hstatus, hexp⟩
  | swept ids r hr => exact Or.inr ⟨sweptRow r, rfl, rfl⟩
  | recovery report id r hid hr => exact Or.inr ⟨_, rfl, movedRow_status _ r⟩
  | retryScheduled report id r delay hid hr hadm hrec
  | deadLettered report id r letterId reason hid hr hadm hrec
  | stopped report id r target hid hr hadm hrec =>
      rw [hsame r hr] at hadm
      exact absurd ⟨row, hid ▸ hrow, hadm, hrec, hexp'⟩ hlate
  | released r hr hwait =>
      rw [hsame r hr] at hwait
      rw [hwait] at hexec
      exact absurd hexec (by decide)
  | receiptAccepted receipt r receiptId closing hid hr hown =>
      rw [hsame r hr] at hown
      exact absurd ⟨row, hid ▸ hrow, hown, hexp'⟩ hlate
  | approvalRequested card r hid hr hreview =>
      rw [hsame r hr] at hreview
      rw [hreview] at hexec
      exact absurd hexec (by decide)
  | approvalDecided id decision by_ reason d approval r hd happ =>
      rw [(horderly.clear hrow (Or.inr (Or.inl hexec))).1] at happ
      exact absurd happ List.not_mem_nil
  | transitioned => exact hhttp.elim

/-- A late message is accepted: it moves the task to a status that is neither an
execution status nor recovery. -/
lemma LateMessage.moves {db : Db} {call : Call} (h : LateMessage db call) :
    ∃ t row row', db.tables.agentTasks.get? t = some row ∧ expired call.now row = true ∧
      (store.next call db).tables.agentTasks.get? t = some row' ∧
      ¬ row'.status.IsExecution ∧ row'.status ≠ .recoveryRequired := by
  obtain ⟨op, now⟩ := call
  cases op with
  | submitReceipt receipt =>
      obtain ⟨row, hrow, hown, hexp⟩ := h
      obtain ⟨answer, hout⟩ := submitReceipt_accepted now hrow hown (isExecution_of_expired hexp)
      have hreceives : Receives db ⟨.submitReceipt receipt, now⟩ receipt := ⟨rfl, answer, hout⟩
      obtain ⟨row', -, -, -, hnext⟩ := hreceives.spec
      refine ⟨receipt.taskId, row, _, hrow, hexp, hnext, ?_⟩
      rw [receiptRow, movedRow_status]
      have hmem := receiptTarget_mem_closing row' receipt.outcome
      refine ⟨not_isExecution_receiptTarget row' receipt.outcome, fun h => ?_⟩
      exact absurd (h ▸ hmem) (by decide)
  | reportFailure report id =>
      obtain ⟨row, hrow, hadm, hrec, hexp⟩ := h
      obtain ⟨d, hout⟩ := reportFailure_accepted id now hrow hadm hrec
      have hreports : Reports db ⟨.reportFailure report id, now⟩ report := ⟨⟨id, rfl⟩, d, hout⟩
      obtain ⟨row', hnext, hstatus⟩ := hreports.known hrec
      refine ⟨report.taskId, row, row', hrow, hexp, hnext, ?_⟩
      revert hstatus
      generalize row'.status = status
      cases status <;> simp [TaskStatus.IsExecution]
  | _ => exact h.elim

/-- What the run after an overdue state keeps: the task is overdue or in
recovery. -/
lemma overdue_exec {status : TaskStatus} {now : Timestamp} {db : Db} {t : UUID}
    {calls : List Call} (horderly : Orderly (db.tables.view t)) (h : Overdue status now db t)
    (hcalls : ∀ c ∈ calls, c.op.Http ∧ now ≤ c.now)
    (hlate : store.Along (fun db c => ¬ LateMessage db c) db calls) :
    Overdue status now (store.exec db calls) t ∨
      ∃ attempts, InRecovery attempts ((store.exec db calls).tables.view t) := by
  have halong := (Machine.along_of_forall (M := store) (s := db) hcalls).and hlate
  have hboth : Orderly ((store.exec db calls).tables.view t) ∧
      (Overdue status now (store.exec db calls) t ∨
        ∃ attempts, InRecovery attempts ((store.exec db calls).tables.view t)) := by
    refine halong.invariant (P := fun db : Db => Orderly (db.tables.view t) ∧
      (Overdue status now db t ∨ ∃ attempts, InRecovery attempts (db.tables.view t)))
      ⟨horderly, Or.inl h⟩ ?_
    rintro db call ⟨⟨hhttp, hle⟩, hnot⟩ ⟨hord, hstate⟩
    have hord' : Orderly ((store.next call db).tables.view t) := by
      rcases view_next call db t with hview | hstep
      · rw [hview]
        exact hord
      · exact hstep.orderly hhttp hord
    refine ⟨hord', ?_⟩
    rcases hstate with hover | ⟨attempts, hrec⟩
    · rcases hover.next hord hhttp hle hnot with hover' | ⟨row, hrow, hstatus⟩
      · exact Or.inl hover'
      · exact Or.inr ⟨_, hord'.inRecovery hrow hstatus⟩
    · rcases view_next call db t with hview | hstep
      · exact Or.inr ⟨attempts, hview ▸ hrec⟩
      · exact Or.inr ⟨attempts, hstep.inRecovery hhttp hrec⟩
  exact hboth.2

/-- **An expired lease only leads to recovery, exactly without late messages**:
in a run of the HTTP surface at non-decreasing times every task whose lease is
past moves to recovery and nowhere else, if and only if no message of a worker
reaches a task whose lease is past. -/
theorem onlyRecovery_iff (calls : List Call) (hhttp : ∀ c ∈ calls, c.op.Http)
    (hclock : calls.Pairwise (·.now ≤ ·.now)) :
    OnlyRecovery calls ↔ store.Along (fun db c => ¬ LateMessage db c) Db.init calls := by
  constructor
  · intro h pre x post hcalls hlate
    obtain ⟨t, row, row', hrow, hexp, hnext, hidle, hrec⟩ := hlate.moves
    have hlater : ∀ c ∈ x :: post, x.now ≤ c.now := by
      rw [hcalls, List.pairwise_append] at hclock
      intro c hc
      rcases List.mem_cons.mp hc with rfl | hc
      · exact le_refl _
      · exact (List.pairwise_cons.mp hclock.2.1).1 c hc
    obtain ⟨after, hafter, hstatus⟩ :=
      h pre (x :: post) t x.now row hcalls hrow hexp hlater [x] post rfl
    rw [Machine.exec_concat] at hafter
    obtain rfl : row' = after := Option.some.inj (hnext.symm.trans hafter)
    rcases hstatus with hstatus | hstatus
    · exact hidle (hstatus ▸ isExecution_of_expired hexp)
    · exact hrec hstatus
  · rintro hlate pre post t now row rfl hrow hexp hlater mid rest rfl
    rw [Machine.along_append, Machine.along_append] at hlate
    have hpre : ∀ c ∈ pre, c.op.Http := fun c hc => hhttp c (List.mem_append_left _ hc)
    have hmid : ∀ c ∈ mid, c.op.Http ∧ now ≤ c.now := fun c hc =>
      ⟨hhttp c (by simp [hc]), hlater c (List.mem_append_left _ hc)⟩
    rw [Machine.exec_append]
    rcases overdue_exec (orderly_exec hpre t) ⟨row, hrow, rfl, hexp⟩ hmid hlate.2.1 with
      ⟨row', hrow', hstatus, -⟩ | ⟨attempts, row', card, hrow', hstatus, -⟩
    · exact ⟨row', hrow', Or.inl hstatus⟩
    · exact ⟨row', hrow', Or.inr hstatus⟩

/-- A claim whose lease is past at minute 2. -/
def overdueRun : List Call :=
  [⟨.createTask sampleCard, 0⟩, ⟨.claim sampleCard.taskId "hermes_local" "worker-a" 1, 0⟩]

/-- After the sweep the receipt is no late message: the task is in recovery. -/
theorem onlyRecovery_swept : OnlyRecovery (overdueRun ++
    [⟨.expireLeases id, minutes 2⟩, ⟨.submitReceipt sampleReceipt, minutes 2⟩]) := by
  refine (onlyRecovery_iff _ (by decide) (by decide)).mpr ?_
  have hstatus : ((store.exec Db.init (overdueRun ++ [⟨.expireLeases id, minutes 2⟩])
      ).tables.agentTasks.get? sampleCard.taskId).map TaskRow.status
      = some .recoveryRequired := by decide
  refine Machine.along_cons.mpr ⟨id, Machine.along_cons.mpr ⟨id, Machine.along_cons.mpr ⟨id,
    Machine.along_cons.mpr ⟨?_, Machine.along_nil⟩⟩⟩⟩
  rintro ⟨row, hrow, -, hexp⟩
  have hrec : row.status = .recoveryRequired :=
    Option.some.inj ((congrArg (Option.map TaskRow.status) hrow).symm.trans hstatus)
  exact not_isExecution_recoveryRequired (hrec ▸ isExecution_of_expired hexp)

/-- Not every run of the HTTP surface sends expired leases to recovery only: a
late receipt takes the task to review. -/
theorem not_onlyRecovery :
    ¬ ∀ calls : List Call, (∀ c ∈ calls, c.op.Http) → calls.Pairwise (·.now ≤ ·.now) →
      OnlyRecovery calls := by
  intro h
  have hstatus : ((store.exec Db.init (overdueRun ++ [⟨.submitReceipt sampleReceipt, minutes 2⟩])
      ).tables.agentTasks.get? sampleCard.taskId).map TaskRow.status = some .review := by decide
  obtain ⟨row, hrow, hmoved⟩ := h (overdueRun ++ [⟨.submitReceipt sampleReceipt, minutes 2⟩])
    (by decide) (by decide) overdueRun _ sampleCard.taskId (minutes 2) _ rfl rfl (by decide)
    (by decide) [⟨.submitReceipt sampleReceipt, minutes 2⟩] [] rfl
  have hreview : row.status = .review :=
    Option.some.inj ((congrArg (Option.map TaskRow.status) hrow).symm.trans hstatus)
  rw [hreview] at hmoved
  exact absurd hmoved (by decide)

end ControlHarness

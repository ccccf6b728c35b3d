import ControlHarness.Lifecycle.Orderly
import ControlHarness.Lifecycle.Outcome

/-!
No blind retry.

A task whose lease was swept, or whose worker reported unknown side effects,
stays in recovery: under the operations of the HTTP surface nothing claims,
releases, decides or completes it again, its attempts stand, and its one
recovery card stays open (`no_blind_retry`). The transition table would allow a
way out; what closes it is that no operation but `transition` takes one, since
an approval that could be decided is open only while its task awaits it.
-/

namespace ControlHarness

open Store

/-- The task is in recovery after `attempts` attempts: no approval is left of
it, and its one recovery card is open. -/
def InRecovery (attempts : ℕ) (v : TaskView) : Prop :=
  ∃ row card, v.row = some row ∧ row.status = .recoveryRequired ∧
    row.attemptCount = attempts ∧ v.recoveryCards = [card] ∧ card.status = "open" ∧
    v.approvals = []

lemma not_isExecution_recoveryRequired : ¬ TaskStatus.recoveryRequired.IsExecution := by
  rintro (h | h) <;> exact absurd h (by simp)

/-- A task in recovery stays in recovery. -/
lemma TaskStep.inRecovery {now : Timestamp} {t : UUID} {v v' : TaskView} {op : Op} {attempts : ℕ}
    (hhttp : op.Http) (h : TaskStep now t v op v') (hv : InRecovery attempts v) :
    InRecovery attempts v' := by
  obtain ⟨row, card, hrow, hstatus, hattempts, hcards, hopen, happrovals⟩ := hv
  have hidle : ¬ row.status.IsExecution := by
    rw [hstatus]
    exact not_isExecution_recoveryRequired
  cases h.idle hrow hidle with
  | noted => exact ⟨row, card, hrow, hstatus, hattempts, hcards, hopen, happrovals⟩
  | claimed _ _ _ _ hready => exact absurd (hstatus.symm.trans hready) (by simp)
  | released _ hwait => exact absurd (hstatus.symm.trans hwait) (by simp)
  | approvalRequested _ _ hreview => exact absurd (hstatus.symm.trans hreview) (by simp)
  | approvalDecided _ _ _ _ _ approval _ happ =>
      rw [happrovals] at happ
      exact absurd happ List.not_mem_nil
  | transitioned => exact hhttp.elim

/-- The call sends the task to recovery: a sweep that takes it, or an accepted
failure report with unknown side effects or of the uncertain class. -/
def SendsToRecovery (db : Db) (call : Call) (t : UUID) : Prop :=
  Sweeps db call t ∨ ∃ report, Reports db call report ∧ report.taskId = t ∧
    (report.sideEffectState = .unknown ∨ report.failureClass = .uncertainSideEffect)

/-- A call that sends a task to recovery leaves its row in recovery with the
attempts it had. -/
lemma SendsToRecovery.spec {db : Db} {call : Call} {t : UUID} (h : SendsToRecovery db call t) :
    ∃ row row', db.tables.agentTasks.get? t = some row ∧
      (store.next call db).tables.agentTasks.get? t = some row' ∧
      row'.status = .recoveryRequired ∧ row'.attemptCount = row.attemptCount := by
  rcases h with hsweep | ⟨report, hreport, rfl, hunknown⟩
  · obtain ⟨row, hrow, -, hnext⟩ := hsweep.spec
    exact ⟨row, _, hrow, hnext, rfl, rfl⟩
  · have hrec : requiresRecovery report.failureClass report.sideEffectState = true := by
      rw [requiresRecovery_iff]
      exact hunknown.elim id report.uncertain_unknown
    obtain ⟨row, hrow, -, hnext⟩ := hreport.recovery hrec
    refine ⟨row, _, hrow, hnext, movedRow_status _ row, ?_⟩
    rw [movedRow]
    split <;> rfl

/-- An orderly task in recovery has its one open card and no approvals. -/
lemma Orderly.inRecovery {v : TaskView} {row : TaskRow} (h : Orderly v) (hrow : v.row = some row)
    (hstatus : row.status = .recoveryRequired) : InRecovery row.attemptCount v := by
  obtain ⟨-, happ, hcards, -⟩ := h.of_row hrow
  rw [hstatus] at happ hcards
  obtain ⟨card, hall, hopen⟩ := hcards
  exact ⟨row, card, hrow, hstatus, rfl, hall, hopen, happ⟩

/-- Nothing claims, releases, decides or completes a task in recovery. -/
lemma InRecovery.refuses {db : Db} {t : UUID} {attempts : ℕ}
    (h : InRecovery attempts (db.tables.view t)) (call : Call) :
    (∀ worker, ¬ Claims db call t worker) ∧ ¬ Releases db call t ∧
      (∀ approvalId approval, db.tables.approvals.get? approvalId = some approval →
        approval.taskId = t → ¬ Decides db call approvalId) ∧
      ∀ receipt, receipt.taskId = t → ¬ Receives db call receipt := by
  obtain ⟨row, card, hrow, hstatus, -, -, -, happ⟩ := h
  have hsame : ∀ row', db.tables.agentTasks.get? t = some row' → row' = row := fun row' hrow' =>
    Option.some.inj (hrow'.symm.trans hrow)
  refine ⟨fun worker hclaim => ?_, fun hrel => ?_, fun id approval hget ht hdec => ?_,
    fun receipt ht hrec => ?_⟩
  · obtain ⟨-, -, row', -, hrow', hclaimable, -⟩ := hclaim.spec
    rw [hsame row' hrow'] at hclaimable
    simp [claimable, hstatus] at hclaimable
  · obtain ⟨row', hrow', hreleasable⟩ := hrel.spec
    rw [hsame row' hrow'] at hreleasable
    simp [releasable, hstatus] at hreleasable
  · have hmem : approval ∈ (db.tables.view t).approvals :=
      List.mem_filter.mpr ⟨Table.mem_of_get? hget, decide_eq_true ht⟩
    rw [happ] at hmem
    exact List.not_mem_nil hmem
  · obtain ⟨row', hrow', -, hexec, -⟩ := hrec.spec
    rw [ht] at hrow'
    rw [hsame row' hrow', hstatus] at hexec
    exact not_isExecution_recoveryRequired hexec

/-- **No blind retry**: once a call `x` has sent a task to recovery, the task is
in recovery in every later state of every run of the HTTP surface, with the
attempts it had, one recovery card which is open, and no call claims, releases,
decides or completes it. -/
theorem no_blind_retry (pre post : List Call) (x : Call) (t : UUID)
    (hhttp : ∀ c ∈ pre ++ x :: post, c.op.Http)
    (hx : SendsToRecovery (store.exec Db.init pre) x t) :
    ∃ before row card,
      (store.exec Db.init pre).tables.agentTasks.get? t = some before ∧
      (store.exec Db.init (pre ++ x :: post)).tables.agentTasks.get? t = some row ∧
      row.status = .recoveryRequired ∧ row.attemptCount = before.attemptCount ∧
      (store.exec Db.init (pre ++ x :: post)).tables.recoveryCards.rows.filter
        (fun c => c.taskId = t) = [card] ∧ card.status = "open" ∧
      ∀ y, (∀ worker, ¬ Claims (store.exec Db.init (pre ++ x :: post)) y t worker) ∧
        ¬ Releases (store.exec Db.init (pre ++ x :: post)) y t ∧
        (∀ approvalId approval,
          (store.exec Db.init (pre ++ x :: post)).tables.approvals.get? approvalId
            = some approval → approval.taskId = t →
          ¬ Decides (store.exec Db.init (pre ++ x :: post)) y approvalId) ∧
        ∀ receipt, receipt.taskId = t →
          ¬ Receives (store.exec Db.init (pre ++ x :: post)) y receipt := by
  obtain ⟨before, after, hbefore, hafter, hstatus, hattempts⟩ := hx.spec
  have hpre : ∀ c ∈ pre ++ [x], c.op.Http := by
    intro c hc
    refine hhttp c ?_
    rcases List.mem_append.mp hc with hc | hc
    · exact List.mem_append_left _ hc
    · rw [List.mem_singleton.mp hc]
      simp
  have hpost : ∀ c ∈ post, c.op.Http := fun c hc => hhttp c (by simp [hc])
  have hexec : store.exec Db.init (pre ++ x :: post)
      = store.exec (store.next x (store.exec Db.init pre)) post := by
    rw [Machine.exec_append, Machine.exec_cons]
  have horderly := orderly_exec hpre t
  rw [Machine.exec_concat] at horderly
  have hstart := horderly.inRecovery hafter hstatus
  rw [hattempts] at hstart
  have hlater : InRecovery before.attemptCount
      ((store.exec (store.next x (store.exec Db.init pre)) post).tables.view t) := by
    refine view_along (A := fun _ c => c.op.Http) (Machine.along_of_forall hpost) t hstart ?_
    exact fun db call hop hstep hP => hstep.inRecovery hop hP
  rw [← hexec] at hlater
  obtain ⟨row, card, hrow, hrec, hatt, hcards, hopen, -⟩ := id hlater
  exact ⟨before, row, card, hbefore, hrow, hrec, hatt, hcards, hopen, hlater.refuses⟩

/-- A claimed task whose lease is swept; another worker then tries to claim it. -/
theorem no_blind_retry_swept :
    ∃ row, (store.exec Db.init [⟨.createTask sampleCard, 0⟩,
        ⟨.claim sampleCard.taskId "hermes_local" "worker-a" 1, 0⟩, ⟨.expireLeases id, minutes 2⟩,
        ⟨.claim sampleCard.taskId "hermes_local" "worker-b" 1, minutes 3⟩]).tables.agentTasks.get?
          sampleCard.taskId = some row ∧ row.status = .recoveryRequired := by
  obtain ⟨-, row, -, -, hrow, hstatus, -⟩ := no_blind_retry
    [⟨.createTask sampleCard, 0⟩, ⟨.claim sampleCard.taskId "hermes_local" "worker-a" 1, 0⟩]
    [⟨.claim sampleCard.taskId "hermes_local" "worker-b" 1, minutes 3⟩]
    ⟨.expireLeases id, minutes 2⟩ sampleCard.taskId (by decide)
    (Or.inl ⟨⟨id, rfl⟩, _, rfl, _, List.mem_singleton_self _, rfl⟩)
  exact ⟨row, hrow, hstatus⟩

end ControlHarness

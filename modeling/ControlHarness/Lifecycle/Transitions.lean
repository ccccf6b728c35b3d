import ControlHarness.Lifecycle.Refinement
import ControlHarness.Store.Acceptance

/-!
The transition table and the operations.

The operations write the status of a task in two ways: through the table, and by
updates of their own with a condition on the status. Either way the status
before and the status after are an edge of the table, or two edges of it where a
receipt takes a claimed task through `in_progress` (`TaskStep.followsTable`). A
call for one task writes no row of another, and what is done or cancelled stays
so (`statuses_follow_table`).

* `FollowsTable`: the two statuses of a step.
* `Op.Bulk`, `Op.addressee`: the sweeps, and the task that another operation is
  for.
-/

namespace ControlHarness

open Store

/-- The operation takes a task from one status to the other: it stays, it moves
along an edge of the table, or a receipt moves it along two. -/
def FollowsTable (op : Op) (before after : TaskStatus) : Prop :=
  after = before ∨ after ∈ transitions before ∨
    (∃ receipt, op = .submitReceipt receipt) ∧ before = .claimed ∧
      .inProgress ∈ transitions before ∧ after ∈ transitions .inProgress

/-- The operation is one of the two that look for their tasks themselves. -/
def Op.Bulk : Op → Prop
  | .expireLeases _ | .releaseDueRetries => True
  | _ => False

/-- The task that the operation is for. -/
def Op.addressee (s : Tables) : Op → Option UUID
  | .createTask card => some card.taskId
  | .claim taskId _ _ _ | .heartbeat taskId _ _ | .transition taskId _ _ => some taskId
  | .reportFailure report _ => some report.taskId
  | .submitReceipt receipt => some receipt.taskId
  | .requestApproval card => some card.taskId
  | .decideApproval approvalId _ _ _ => (s.approvals.get? approvalId).map ApprovalRow.taskId
  | .expireLeases _ | .releaseDueRetries => none

/-! ### One step -/

section

variable {now : Timestamp} {t : UUID} {v v' : TaskView} {op : Op}

/-- **Every step of a task follows the table.** -/
lemma TaskStep.followsTable {row : TaskRow} (h : TaskStep now t v op v') (hrow : v.row = some row) :
    ∃ row', v'.row = some row' ∧ FollowsTable op row.status row'.status := by
  have hsame : ∀ {r}, v.row = some r → r = row := fun hr => Option.some.inj (hr.symm.trans hrow)
  cases h with
  | created card route hid hnone => exact absurd (hrow.symm.trans hnone) (by simp)
  | claimed role worker mins r hr hready =>
      obtain rfl := hsame hr
      have hmem : TaskStatus.claimed ∈ transitions r.status := by
        rw [hready]
        decide
      exact ⟨_, rfl, Or.inr (Or.inl hmem)⟩
  | renewed worker mins r hr =>
      obtain rfl := hsame hr
      exact ⟨_, rfl, Or.inl rfl⟩
  | heartbeatRejected | receiptRejected => exact ⟨row, hrow, Or.inl rfl⟩
  | swept ids r hr hexp =>
      obtain rfl := hsame hr
      have hmem : TaskStatus.recoveryRequired ∈ transitions r.status :=
        mem_transitions_of_isExecution (isExecution_of_expired hexp) (by simp)
      exact ⟨_, rfl, Or.inr (Or.inl hmem)⟩
  | recovery report id r hid hr hadm =>
      obtain rfl := hsame hr
      refine ⟨_, rfl, Or.inr (Or.inl ?_)⟩
      rw [movedRow_status]
      exact mem_transitions_of_isExecution hadm.execution (by simp)
  | retryScheduled report id r delay hid hr hadm =>
      obtain rfl := hsame hr
      refine ⟨_, rfl, Or.inr (Or.inl ?_)⟩
      rw [retriedRow_status]
      exact mem_transitions_of_isExecution hadm.execution (by simp)
  | deadLettered report id r letterId reason hid hr hadm =>
      obtain rfl := hsame hr
      refine ⟨_, rfl, Or.inr (Or.inl ?_)⟩
      rw [movedRow_status]
      exact mem_transitions_of_isExecution hadm.execution (by simp)
  | stopped report id r target hid hr hadm hrec hstop =>
      obtain rfl := hsame hr
      refine ⟨_, rfl, Or.inr (Or.inl ?_)⟩
      rw [movedRow_status]
      refine mem_transitions_of_isExecution hadm.execution ?_
      rcases hstop with ⟨-, rfl⟩ | ⟨-, rfl⟩ <;> simp
  | released r hr hwait =>
      obtain rfl := hsame hr
      have hmem : TaskStatus.ready ∈ transitions r.status := by
        rw [hwait]
        decide
      exact ⟨_, rfl, Or.inr (Or.inl hmem)⟩
  | receiptAccepted receipt r receiptId closing hid hr hown hexec =>
      obtain rfl := hsame hr
      refine ⟨_, rfl, Or.inr ?_⟩
      rw [receiptRow, movedRow_status]
      have htarget : receiptTarget r receipt.outcome ∈ transitions .inProgress := by
        have hmem := receiptTarget_mem_closing r receipt.outcome
        simp only [List.mem_cons, List.not_mem_nil, or_false] at hmem
        rcases hmem with h | h | h | h <;> rw [h] <;> decide
      rcases hexec with hclaimed | hprogress
      · rw [hclaimed]
        exact Or.inr ⟨⟨receipt, rfl⟩, rfl, by decide, htarget⟩
      · rw [hprogress]
        exact Or.inl htarget
  | approvalRequested card r hid hr hreview =>
      obtain rfl := hsame hr
      refine ⟨_, rfl, Or.inr (Or.inl ?_)⟩
      rw [movedRow_status, hreview]
      decide
  | approvalDecided id decision by_ reason d approval r hd happ hkey hopen hr hstatus =>
      obtain rfl := hsame hr
      exact ⟨_, rfl, Or.inr (Or.inl (by rw [movedRow_status]; exact hstatus))⟩
  | transitioned target reason r hr hstatus =>
      obtain rfl := hsame hr
      exact ⟨_, rfl, Or.inr (Or.inl (by rw [movedRow_status]; exact hstatus))⟩

/-- A step of a task by an operation for one task is by one for this task. -/
lemma TaskStep.addressee {s : Tables} (h : TaskStep now t (s.view t) op v') (hbulk : ¬ op.Bulk) :
    op.addressee s = some t := by
  cases h with
  | created card route hid | recovery report id row hid | retryScheduled report id row delay hid
  | deadLettered report id row letterId reason hid | stopped report id row target hid
  | receiptRejected receipt row hid | receiptAccepted receipt row receiptId closing hid
  | approvalRequested card row hid => exact congrArg some hid
  | claimed | renewed | heartbeatRejected | transitioned => rfl
  | swept | released => exact absurd trivial hbulk
  | approvalDecided id decision by_ reason d approval row hd happ hkey =>
      obtain ⟨hmem, ht⟩ := List.mem_filter.mp happ
      rw [Op.addressee, ← hkey, Table.get?_of_mem hmem, Option.map_some]
      exact congrArg some (of_decide_eq_true ht)

end

/-! ### Runs -/

/-- Nothing leaves done or cancelled. -/
lemma FollowsTable.final {op : Op} {before after : TaskStatus} (h : FollowsTable op before after)
    (hfinal : before ∈ [.done, .cancelled]) : after = before := by
  have hnone : transitions before = [] := by
    rcases List.mem_pair.mp hfinal with rfl | rfl <;> rfl
  rcases h with h | h | ⟨-, rfl, -, -⟩
  · exact h
  · rw [hnone] at h
    exact absurd h List.not_mem_nil
  · exact absurd hfinal (by decide)

/-- A task that exists takes every call along the table. -/
lemma followsTable_next {db : Db} {t : UUID} {row : TaskRow} (call : Call)
    (hrow : db.tables.agentTasks.get? t = some row) :
    ∃ row', (store.next call db).tables.agentTasks.get? t = some row' ∧
      FollowsTable call.op row.status row'.status := by
  rcases view_next call db t with hview | hstep
  · exact ⟨row, (congrArg TaskView.row hview).trans hrow, Or.inl rfl⟩
  · exact hstep.followsTable hrow

/-- **All status writes follow the table**: whatever the state, a call takes the
status of each task along an edge of the table or along the two of a receipt; a
call for one task writes no row of another; and a task that is done or cancelled
is so in every later state of every run. -/
theorem statuses_follow_table (db : Db) (call : Call) :
    (∀ t row, db.tables.agentTasks.get? t = some row →
        ∃ row', (store.next call db).tables.agentTasks.get? t = some row' ∧
          FollowsTable call.op row.status row'.status) ∧
      (¬ call.op.Bulk → ∀ t, call.op.addressee db.tables ≠ some t →
        (store.next call db).tables.agentTasks.get? t = db.tables.agentTasks.get? t) ∧
      ∀ calls t row, db.tables.agentTasks.get? t = some row →
        row.status ∈ [.done, .cancelled] →
        ∃ row', (store.exec db calls).tables.agentTasks.get? t = some row' ∧
          row'.status = row.status := by
  refine ⟨fun t row hrow => followsTable_next call hrow, fun hbulk t hother => ?_, ?_⟩
  · rcases view_next call db t with hview | hstep
    · exact congrArg TaskView.row hview
    · exact absurd (hstep.addressee hbulk) hother
  · intro calls t row hrow hfinal
    refine Machine.invariant (M := store) (P := fun db' : Db =>
      ∃ row', db'.tables.agentTasks.get? t = some row' ∧ row'.status = row.status)
      ⟨row, hrow, rfl⟩ ?_
    rintro db' call ⟨row', hrow', hstatus⟩
    obtain ⟨row'', hrow'', hfollows⟩ := followsTable_next call hrow'
    exact ⟨row'', hrow'', (hfollows.final (hstatus ▸ hfinal)).trans hstatus⟩

/-- A claimed task that a receipt takes to review. -/
theorem statuses_follow_table_receipt :
    ∃ row', (store.next ⟨.submitReceipt sampleReceipt, 1⟩ (store.exec Db.init
        [⟨.createTask sampleCard, 0⟩,
          ⟨.claim sampleCard.taskId "hermes_local" "worker-a" 30, 0⟩])).tables.agentTasks.get?
        sampleCard.taskId = some row' ∧
      FollowsTable (.submitReceipt sampleReceipt) .claimed row'.status := by
  obtain ⟨row', hrow', hfollows⟩ := (statuses_follow_table (store.exec Db.init
    [⟨.createTask sampleCard, 0⟩,
      ⟨.claim sampleCard.taskId "hermes_local" "worker-a" 30, 0⟩])
    ⟨.submitReceipt sampleReceipt, 1⟩).1 sampleCard.taskId _ rfl
  exact ⟨row', hrow', hfollows⟩

end ControlHarness

import ControlHarness.Lifecycle.Orderly
import ControlHarness.Lifecycle.Outcome

/-!
The approval gate.

A task whose card asks for approval is done only by way of one: its log ends
with the accepted receipt of a completed task, the request of an approval and
its approval, and nothing else moved the task in between (`approval_gate`). An
approval is decided at most once, since a decision needs it open and closes it.

The gate counts approvals, not actions: a done task has exactly one approval,
and its action is whatever text the request carried
(`done_has_one_approval`). A card that lists `merge_main` is done by an approval
of any other action (`not_every_required_action_approved`).
-/

namespace ControlHarness

open Store

/-- A decided approval stays decided. -/
lemma decided_next {db : Db} {approvalId : UUID} {a : ApprovalRow}
    (ha : db.tables.approvals.get? approvalId = some a) (hdecided : a.status ≠ .requested)
    (call : Call) :
    ∃ a', (store.next call db).tables.approvals.get? approvalId = some a' ∧
      a'.status ≠ .requested := by
  have heff := store_effect call db
  generalize (store.next call db).tables = s' at heff ⊢
  generalize store.out call db = r at heff
  generalize call.op = op at heff
  cases heff with
  | approvalRequested card task eventId hrow hstatus hfresh =>
      refine ⟨a, ?_, hdecided⟩
      rw [Table.get?_insert hfresh, if_neg, ha]
      rintro rfl
      exact absurd (hfresh.symm.trans ha) (by simp)
  | approvalDecided id decision decidedBy reason d approval task eventId hd happ hopen =>
      refine ⟨a, ?_, hdecided⟩
      rw [Table.get?_updateKey, if_neg, ha]
      rintro rfl
      obtain rfl : approval = a := Option.some.inj (happ.symm.trans ha)
      exact hdecided hopen
  | _ => exact ⟨a, ha, hdecided⟩

/-- Once decided, an approval is not decided again. -/
lemma not_decides_again {db : Db} {x : Call} {approvalId : UUID} (hx : Decides db x approvalId)
    (mid : List Call) (y : Call) :
    ¬ Decides (store.exec (store.next x db) mid) y approvalId := by
  intro hy
  obtain ⟨d, approval, row, -, -, -, decidedBy, reason, hafter⟩ := hx.spec
  have hstart : ∃ a, (store.next x db).tables.approvals.get? approvalId = some a ∧
      a.status ≠ .requested := ⟨_, hafter, by simp [decidedApproval]⟩
  have hmid : ∃ a, (store.exec (store.next x db) mid).tables.approvals.get? approvalId = some a ∧
      a.status ≠ .requested := by
    refine Machine.invariant (P := fun db : Db =>
      ∃ a, db.tables.approvals.get? approvalId = some a ∧ a.status ≠ .requested) hstart ?_
    rintro db call ⟨a, ha, hdecided⟩
    exact decided_next ha hdecided call
  obtain ⟨a, ha, hdecided⟩ := hmid
  obtain ⟨-, approval', -, happ', hopen, -⟩ := hy.spec
  obtain rfl : a = approval' := Option.some.inj (ha.symm.trans happ')
  exact hdecided hopen

/-- **The approval gate**: along every run of the HTTP surface, the log of a done
task whose card asks for approval ends with its receipt, a request and its
approval, with no other event in between that moves the task; and no approval
is decided twice. -/
theorem approval_gate (calls : List Call) (hhttp : ∀ c ∈ calls, c.op.Http) :
    (∀ t row, (store.exec Db.init calls).tables.agentTasks.get? t = some row →
        row.card.approvalRequired ≠ [] → row.status = .done →
        ∃ approvalId action,
          EndsWithApproval ((store.exec Db.init calls).tables.eventLog t) approvalId action) ∧
      ∀ approvalId pre x mid y post, calls = pre ++ x :: (mid ++ y :: post) →
        Decides (store.exec Db.init pre) x approvalId →
        ¬ Decides (store.exec Db.init (pre ++ x :: mid)) y approvalId := by
  refine ⟨fun t row hrow hreq hdone => ?_, fun approvalId pre x mid y post _ hx => ?_⟩
  · obtain ⟨hfit, -, -, hgate⟩ := (orderly_exec hhttp t).of_row hrow
    rw [hfit.approvalRequired, hdone] at hgate
    obtain ⟨a, -, hlog⟩ := hgate hreq
    rw [eventLog_eq]
    exact ⟨a.approvalId, a.action, hlog⟩
  · rw [Machine.exec_append, Machine.exec_cons]
    exact not_decides_again hx mid y

/-- The approval of a task that needs one. -/
theorem approval_gate_approved :
    ∃ approvalId action, EndsWithApproval ((store.exec Db.init [⟨.createTask sampleCard, 0⟩,
      ⟨.claim sampleCard.taskId "hermes_local" "worker-a" 1, 0⟩, ⟨.submitReceipt sampleReceipt, 0⟩,
      ⟨.requestApproval sampleApproval, 0⟩,
      ⟨.decideApproval sampleApproval.approvalId "approved" "micha" "", 0⟩]).tables.eventLog
        sampleCard.taskId) approvalId action :=
  (approval_gate [⟨.createTask sampleCard, 0⟩,
      ⟨.claim sampleCard.taskId "hermes_local" "worker-a" 1, 0⟩, ⟨.submitReceipt sampleReceipt, 0⟩,
      ⟨.requestApproval sampleApproval, 0⟩,
      ⟨.decideApproval sampleApproval.approvalId "approved" "micha" "", 0⟩] (by decide)).1
    sampleCard.taskId _ rfl (by decide) (by decide)

/-! ### What the gate does not check -/

/-- **One approval, of any action**: along every run of the HTTP surface a done
task whose card asks for approval has exactly one approval, which is approved;
a listed action has an approved row exactly when it is the action of that one. -/
theorem done_has_one_approval (calls : List Call) (hhttp : ∀ c ∈ calls, c.op.Http) (t : UUID)
    (row : TaskRow) (hrow : (store.exec Db.init calls).tables.agentTasks.get? t = some row)
    (hreq : row.card.approvalRequired ≠ []) (hdone : row.status = .done) :
    ∃ a, (store.exec Db.init calls).tables.approvals.rows.filter (fun a => a.taskId = t) = [a] ∧
      a.status = .decided .approved ∧
      ∀ action ∈ row.card.approvalRequired,
        (∃ b ∈ (store.exec Db.init calls).tables.approvals.rows, b.taskId = t ∧
          b.action = action ∧ b.status = .decided .approved) ↔ action = a.action := by
  obtain ⟨hfit, happrovals, -, hgate⟩ := (orderly_exec hhttp t).of_row hrow
  rw [hfit.approvalRequired, hdone] at hgate
  rw [hdone] at happrovals
  obtain ⟨a, hall, -⟩ := hgate hreq
  have happroved : a.status = .decided .approved := by
    rcases happrovals with hnil | ⟨a', hall', ha'⟩
    · exact absurd (hall.symm.trans hnil) (by simp)
    · obtain rfl : a = a' := (List.cons.inj (hall.symm.trans hall')).1
      exact ha'
  have hrows : (store.exec Db.init calls).tables.approvals.rows.filter
      (fun a => decide (a.taskId = t)) = [a] := hall
  have hmem : ∀ b, b ∈ (store.exec Db.init calls).tables.approvals.rows ∧ b.taskId = t ↔ b = a := by
    intro b
    rw [← List.mem_singleton (b := a), ← hrows, List.mem_filter, decide_eq_true_eq]
  refine ⟨a, hall, happroved, fun action _ => ⟨?_, ?_⟩⟩
  · rintro ⟨b, hb, ht, rfl, -⟩
    rw [(hmem b).mp ⟨hb, ht⟩]
  · rintro rfl
    obtain ⟨ha, ht⟩ := (hmem a).mpr rfl
    exact ⟨a, ha, ht, rfl, happroved⟩

/-- The approval of another action. -/
def otherApproval : ApprovalCardV1 := { sampleApproval with
  action := "read the diff"
  action_length := by decide }

/-- A run that completes a card listing `merge_main` by another approval. -/
def otherActionRun : List Call :=
  [⟨.createTask sampleCard, 0⟩, ⟨.claim sampleCard.taskId "hermes_local" "worker-a" 1, 0⟩,
    ⟨.submitReceipt sampleReceipt, 0⟩, ⟨.requestApproval otherApproval, 0⟩,
    ⟨.decideApproval otherApproval.approvalId "approved" "micha" "", 0⟩]

theorem done_has_one_approval_other :
    ∃ a, (store.exec Db.init otherActionRun).tables.approvals.rows.filter
        (fun a => a.taskId = sampleCard.taskId) = [a] ∧ a.status = .decided .approved := by
  obtain ⟨a, hall, happroved, -⟩ := done_has_one_approval otherActionRun (by decide)
    sampleCard.taskId _ rfl (by decide) (by decide)
  exact ⟨a, hall, happroved⟩

/-- Not every action that a card lists is approved when the task is done. -/
theorem not_every_required_action_approved :
    ¬ ∀ calls : List Call, (∀ c ∈ calls, c.op.Http) → ∀ t row,
      (store.exec Db.init calls).tables.agentTasks.get? t = some row → row.status = .done →
      ∀ action ∈ row.card.approvalRequired,
        ∃ a ∈ (store.exec Db.init calls).tables.approvals.rows,
          a.taskId = t ∧ a.action = action ∧ a.status = .decided .approved := by
  intro h
  have happroved := h otherActionRun (by decide) sampleCard.taskId _ rfl (by decide) "merge_main"
    (by decide)
  revert happroved
  decide

end ControlHarness

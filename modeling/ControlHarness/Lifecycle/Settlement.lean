import ControlHarness.Lifecycle.Lease

/-!
Approvals, recovery cards and dead letters against the status of their task.

Under the operations of the HTTP surface an open approval, an open recovery card
and a dead letter each belong to a task in one status. `transition` changes the
status alone. It can take a task out of `awaiting_approval` and leave the
approval open, so that a later decision finds the task elsewhere
(`openApprovalsMatch_iff`); and it can take a task out of `recovery_required` or
`failed`, whose cards and dead letters no operation closes (`describesPresent_iff`).

* `ApprovalsMatch`: a task has one open approval while it awaits it, and none
  otherwise.
* `BypassesApproval`: a transition from or to `awaiting_approval`.
* `CardsMatch`, `LettersMatch`: the same of recovery cards and dead letters.
* `Displaces`: a transition or a decision that takes a task from its card or its
  dead letters, or to recovery without a card.
-/

namespace ControlHarness

open Store

/-! ### Open approvals -/

/-- The approvals that wait for a decision. -/
def openApprovals (approvals : List ApprovalRow) : List ApprovalRow :=
  approvals.filter fun a => a.status = .requested

/-- A task has one open approval while it awaits it, and none otherwise. -/
def ApprovalsMatch (v : TaskView) : Prop :=
  v.row.elim (v.approvals = []) fun row =>
    (openApprovals v.approvals).length = if row.status = .awaitingApproval then 1 else 0

/-- In every state of the run the open approvals of a task match its status, and
a decision that is accepted finds its task awaiting it. -/
def OpenApprovalsMatch (calls : List Call) : Prop :=
  (∀ pre post t row, calls = pre ++ post →
      (store.exec Db.init pre).tables.agentTasks.get? t = some row →
      (openApprovals ((store.exec Db.init pre).tables.view t).approvals).length
        = if row.status = .awaitingApproval then 1 else 0) ∧
    ∀ pre x post approvalId, calls = pre ++ x :: post →
      Decides (store.exec Db.init pre) x approvalId →
      ∃ approval row, (store.exec Db.init pre).tables.approvals.get? approvalId = some approval ∧
        (store.exec Db.init pre).tables.agentTasks.get? approval.taskId = some row ∧
        row.status = .awaitingApproval

/-- The call moves a task from or to `awaiting_approval` by a transition. -/
def BypassesApproval (db : Db) (call : Call) : Prop :=
  ∃ t row target, Moves db call t row target ∧
    (row.status = .awaitingApproval ∨ target = .awaitingApproval)

namespace ApprovalsMatch

variable {v v' : TaskView} {row row' : TaskRow}

lemma of_row (h : ApprovalsMatch v) (hrow : v.row = some row) :
    (openApprovals v.approvals).length = if row.status = .awaitingApproval then 1 else 0 := by
  rw [ApprovalsMatch, hrow] at h
  exact h

lemma none (h : ApprovalsMatch v) (hrow : v.row = some row) (hs : row.status ≠ .awaitingApproval) :
    openApprovals v.approvals = [] := by
  have hlen := h.of_row hrow
  rw [if_neg hs] at hlen
  exact List.eq_nil_of_length_eq_zero hlen

/-- A step that keeps the approvals, and whether the task awaits one. -/
lemma keep (h : ApprovalsMatch v) (hrow : v.row = some row) (hrow' : v'.row = some row')
    (happ : v'.approvals = v.approvals)
    (hs : row'.status = .awaitingApproval ↔ row.status = .awaitingApproval) :
    ApprovalsMatch v' := by
  rw [ApprovalsMatch, hrow', Option.elim_some, happ, h.of_row hrow]
  simp only [hs]

/-- A move between statuses other than `awaiting_approval`. -/
lemma move (h : ApprovalsMatch v) (hrow : v.row = some row) (hrow' : v'.row = some row')
    (happ : v'.approvals = v.approvals) (hs : row.status ≠ .awaitingApproval)
    (hs' : row'.status ≠ .awaitingApproval) : ApprovalsMatch v' :=
  h.keep hrow hrow' happ (iff_of_false hs' hs)

/-- An open approval is the only one, and its task awaits it. -/
lemma awaiting (h : ApprovalsMatch v) {approval : ApprovalRow} (hmem : approval ∈ v.approvals)
    (hopen : approval.status = .requested) (hrow : v.row = some row) :
    row.status = .awaitingApproval ∧ openApprovals v.approvals = [approval] := by
  have hin : approval ∈ openApprovals v.approvals :=
    List.mem_filter.mpr ⟨hmem, decide_eq_true hopen⟩
  have hstatus : row.status = .awaitingApproval := by
    by_contra hs
    rw [h.none hrow hs] at hin
    exact List.not_mem_nil hin
  have hlen := h.of_row hrow
  rw [if_pos hstatus] at hlen
  obtain ⟨a, ha⟩ := List.length_eq_one_iff.mp hlen
  rw [ha, List.mem_singleton] at hin
  rw [ha, hin]
  exact ⟨hstatus, rfl⟩

end ApprovalsMatch

/-- After a decision on the only open approval none is open. -/
lemma openApprovals_decided {approvals : List ApprovalRow} {approval : ApprovalRow}
    (hall : openApprovals approvals = [approval]) (d : Decision) (decidedBy reason : String)
    (now : Timestamp) :
    openApprovals (approvals.map fun a =>
      if a.approvalId = approval.approvalId then decidedApproval d decidedBy reason now a else a)
      = [] := by
  rw [openApprovals, List.filter_eq_nil_iff]
  intro b hb
  obtain ⟨a, ha, rfl⟩ := List.mem_map.mp hb
  by_cases hid : a.approvalId = approval.approvalId
  · rw [if_pos hid]
    simp [decidedApproval]
  · rw [if_neg hid, decide_eq_true_eq]
    intro hopen
    have hin : a ∈ openApprovals approvals := List.mem_filter.mpr ⟨ha, decide_eq_true hopen⟩
    rw [hall, List.mem_singleton] at hin
    exact hid (congrArg ApprovalRow.approvalId hin)

/-- Every step but a bypass keeps the open approvals of a task and its status
together. -/
lemma TaskStep.approvalsMatch {now : Timestamp} {t : UUID} {v v' : TaskView} {op : Op}
    (hbypass : ∀ target reason, op = .transition t target reason → ∀ row ∈ v.row,
      target ∈ transitions row.status →
      ¬ (row.status = .awaitingApproval ∨ target = .awaitingApproval))
    (h : TaskStep now t v op v') (hv : ApprovalsMatch v) : ApprovalsMatch v' := by
  have hmoved : ∀ {target : TaskStatus} {row : TaskRow}, v.row = some row →
      row.status ≠ .awaitingApproval → target ≠ .awaitingApproval →
      v'.row = some (movedRow target row) → v'.approvals = v.approvals → ApprovalsMatch v' := by
    intro target row hrow hs hs' hrow' happ
    exact hv.move hrow hrow' happ hs (by rw [movedRow_status]; exact hs')
  cases h with
  | created card route hid hrow =>
      have happ : v.approvals = [] := by
        rw [ApprovalsMatch, hrow] at hv
        exact hv
      change (openApprovals v.approvals).length = _
      rw [happ]
      rfl
  | claimed role worker mins row hrow hready =>
      exact hv.move hrow rfl rfl (by rw [hready]; decide) (by simp [claimedRow])
  | renewed worker mins row hrow => exact hv.keep hrow rfl rfl Iff.rfl
  | heartbeatRejected | receiptRejected => exact hv
  | swept ids row hrow hexp =>
      exact hv.move hrow rfl rfl ((isExecution_of_expired hexp).ne (by decide))
        (by simp [sweptRow])
  | recovery report id row hid hrow hadm
  | deadLettered report id row letterId reason hid hrow hadm =>
      exact hmoved hrow (hadm.execution.ne (by decide)) (by decide) rfl rfl
  | stopped report id row target hid hrow hadm hrec hstop =>
      have htarget : target ≠ .awaitingApproval := by
        rcases hstop with ⟨-, rfl⟩ | ⟨-, rfl⟩ <;> decide
      exact hmoved hrow (hadm.execution.ne (by decide)) htarget rfl rfl
  | retryScheduled report id row delay hid hrow hadm =>
      exact hv.move hrow rfl rfl (hadm.execution.ne (by decide))
        (by rw [retriedRow_status]; decide)
  | released row hrow hwait =>
      exact hv.move hrow rfl rfl (by rw [hwait]; decide) (by simp [releasedRow])
  | receiptAccepted receipt row receiptId closing hid hrow hown hexec =>
      have htarget : receiptTarget row receipt.outcome ≠ .awaitingApproval :=
        receiptTarget_ne (by decide) row receipt.outcome
      exact hmoved hrow (hexec.ne (by decide)) htarget rfl rfl
  | approvalRequested card row hid hrow hreview =>
      have hnil := hv.none hrow (by rw [hreview]; decide)
      change (openApprovals (v.approvals ++ [newApproval card now])).length = _
      rw [movedRow_status, if_pos rfl, openApprovals, List.filter_append, ← openApprovals, hnil]
      rfl
  | approvalDecided id decision by_ reason d approval row hd happ hkey hopen hrow hstatus =>
      obtain ⟨-, hall⟩ := hv.awaiting happ hopen hrow
      have htarget : decisionTarget d ≠ .awaitingApproval := by cases d <;> decide
      subst hkey
      change (openApprovals (v.approvals.map _)).length = _
      rw [openApprovals_decided hall, movedRow_status, if_neg htarget]
      rfl
  | transitioned target reason row hrow hstatus =>
      obtain ⟨hs, hs'⟩ := not_or.mp (hbypass target reason rfl row hrow hstatus)
      exact hmoved hrow hs hs' rfl rfl

/-- Along a run without a bypass the open approvals match the status. -/
lemma approvalsMatch_exec {calls : List Call}
    (h : store.Along (fun db c => ¬ BypassesApproval db c) Db.init calls) (t : UUID) :
    ApprovalsMatch ((store.exec Db.init calls).tables.view t) := by
  refine view_along h t rfl fun db call hno hstep hv => ?_
  refine hstep.approvalsMatch (fun target reason hop row hrow hmem hwaits => ?_) hv
  exact hno ⟨t, row, target, ⟨⟨reason, hop⟩, hrow, hmem⟩, hwaits⟩

/-- No status leads to itself. -/
lemma ne_of_mem_transitions {status target : TaskStatus} (h : target ∈ transitions status) :
    target ≠ status := by
  rintro rfl
  cases target <;> exact absurd h (by decide)

/-- **Open approvals match waiting tasks, exactly without bypasses**: along a run
a task has one open approval while it awaits it and none otherwise, and every
decision finds its task awaiting it, if and only if no transition takes a task
from or to `awaiting_approval`. -/
theorem openApprovalsMatch_iff (calls : List Call) :
    OpenApprovalsMatch calls ↔
      store.Along (fun db c => ¬ BypassesApproval db c) Db.init calls := by
  constructor
  · rintro ⟨hmatch, -⟩ pre x post hcalls ⟨t, row, target, hmoves, hwaits⟩
    obtain ⟨hnext, happ, -⟩ := hmoves.spec
    have hbefore := hmatch pre (x :: post) t row hcalls hmoves.2.1
    have hafter := hmatch (pre ++ [x]) post t _ (by rw [hcalls]; simp)
      (by rw [Machine.exec_concat]; exact hnext)
    -- the transition leaves the approvals, and changes whether one should be open
    rw [Machine.exec_concat, Tables.view, happ, movedRow_status] at hafter
    have heq := hbefore.symm.trans hafter
    have hne := ne_of_mem_transitions hmoves.2.2
    rcases hwaits with hs | hs
    · rw [if_pos hs, if_neg (hs ▸ hne)] at heq
      omega
    · rw [if_pos hs, if_neg (hs ▸ hne.symm)] at heq
      omega
  · intro hcalls
    refine ⟨?_, ?_⟩
    · rintro pre post t row rfl hrow
      rw [Machine.along_append] at hcalls
      exact (approvalsMatch_exec hcalls.1 t).of_row hrow
    · rintro pre x post approvalId rfl hdecides
      rw [Machine.along_append] at hcalls
      obtain ⟨d, approval, row, hget, hopen, hrow, -⟩ := hdecides.spec
      have hmem : approval ∈ ((store.exec Db.init pre).tables.view approval.taskId).approvals :=
        List.mem_filter.mpr ⟨Table.mem_of_get? hget, decide_eq_true rfl⟩
      have hawaits := (approvalsMatch_exec hcalls.1 approval.taskId).awaiting hmem hopen hrow
      exact ⟨approval, row, hget, hrow, hawaits.1⟩

/-- A task whose approval is requested, and which transitions then take back to a
claim; its lease expires. -/
def staleRun : List Call :=
  [⟨.createTask sampleCard, 0⟩, ⟨.claim sampleCard.taskId "hermes_local" "worker-a" 1, 0⟩,
    ⟨.submitReceipt sampleReceipt, 0⟩, ⟨.requestApproval sampleApproval, 0⟩,
    ⟨.transition sampleCard.taskId .blocked "", 0⟩, ⟨.transition sampleCard.taskId .ready "", 0⟩,
    ⟨.claim sampleCard.taskId "hermes_local" "worker-b" 1, 0⟩, ⟨.expireLeases id, minutes 2⟩]

/-- The decision on the old approval. -/
def staleDecision : Call :=
  ⟨.decideApproval sampleApproval.approvalId "approved" "owner" "", minutes 3⟩

/-- The old approval completes the task, which is in recovery. -/
theorem not_openApprovalsMatch : ¬ ∀ calls, OpenApprovalsMatch calls := by
  intro h
  have hstatus : ((store.exec Db.init staleRun).tables.agentTasks.get? sampleCard.taskId).map
      TaskRow.status = some .recoveryRequired := by decide +kernel
  have hid : ((store.exec Db.init staleRun).tables.approvals.get? sampleApproval.approvalId).map
      ApprovalRow.taskId = some sampleCard.taskId := by decide +kernel
  have hout : store.out staleDecision (store.exec Db.init staleRun)
      = .ok (.approval ⟨sampleApproval.approvalId, .decided .approved, .done⟩) := by decide +kernel
  have hdecides : Decides (store.exec Db.init staleRun) staleDecision sampleApproval.approvalId :=
    ⟨⟨"approved", "owner", "", rfl⟩, _, hout⟩
  have hawaiting := (h (staleRun ++ [staleDecision])).2
  obtain ⟨approval, row, hget, hrow, hawaits⟩ :=
    hawaiting staleRun staleDecision [] sampleApproval.approvalId rfl hdecides
  rw [hget, Option.map_some, Option.some.injEq] at hid
  rw [hid] at hrow
  rw [hrow, Option.map_some, Option.some.injEq, hawaits] at hstatus
  exact absurd hstatus (by decide)

/-! ### Recovery cards and dead letters -/

/-- The recovery cards that are open. -/
def openCards (cards : List RecoveryCardRow) : List RecoveryCardRow :=
  cards.filter fun c => c.status = "open"

/-- The dead letters that are not resolved. -/
def openLetters (letters : List DeadLetterRow) : List DeadLetterRow :=
  letters.filter fun l => l.resolvedAt.isNone

/-- The open recovery cards and dead letters describe the present: a task has
one open card while it is in recovery and none otherwise, and an unresolved dead
letter only while it has failed; and each open card and each unresolved dead
letter is of such a task. -/
structure DescribesPresent (s : Tables) : Prop where
  cards : ∀ t row, s.agentTasks.get? t = some row →
    (openCards (s.view t).recoveryCards).length = if row.status = .recoveryRequired then 1 else 0
  letters : ∀ t row, s.agentTasks.get? t = some row → openLetters (s.view t).deadLetters ≠ [] →
    row.status = .failed
  cardTasks : ∀ card ∈ openCards s.recoveryCards.rows,
    ∃ row, s.agentTasks.get? card.taskId = some row ∧ row.status = .recoveryRequired
  letterTasks : ∀ letter ∈ openLetters s.deadLetters,
    ∃ row, s.agentTasks.get? letter.taskId = some row ∧ row.status = .failed

/-- The call is a decision on an open approval of the task that the table
allows. -/
def Settles (db : Db) (call : Call) (t : UUID) (row : TaskRow) (target : TaskStatus) : Prop :=
  ∃ approvalId decision decidedBy reason d approval,
    call.op = .decideApproval approvalId decision decidedBy reason ∧
    Decision.ofText decision = some d ∧ db.tables.approvals.get? approvalId = some approval ∧
    approval.status = .requested ∧ approval.taskId = t ∧ target = decisionTarget d ∧
    db.tables.agentTasks.get? t = some row ∧ target ∈ transitions row.status

/-- The call takes a task from recovery, to recovery without a card, or from its
unresolved dead letters: by a transition, or by a decision on an approval that
was left open. -/
def Displaces (db : Db) (call : Call) : Prop :=
  ∃ t row target, (Moves db call t row target ∨ Settles db call t row target) ∧
    (row.status = .recoveryRequired ∨ target = .recoveryRequired ∨
      row.status = .failed ∧ openLetters (db.tables.view t).deadLetters ≠ [])

/-- The calls of the list keep the cards and dead letters of a task, and append
to them only. -/
def KeepsEvidence (v v' : TaskView) : Prop :=
  v.recoveryCards <+: v'.recoveryCards ∧ v.deadLetters <+: v'.deadLetters

/-- The invariant of a task along a run that displaces nothing. -/
structure Marked (row : TaskRow) (cards : List RecoveryCardRow) (letters : List DeadLetterRow) :
    Prop where
  cards : (openCards cards).length = if row.status = .recoveryRequired then 1 else 0
  letters : openLetters letters ≠ [] → row.status = .failed

/-- What the tables hold about a task that exists or not. -/
def DescribedView (v : TaskView) : Prop :=
  v.row.elim (v.recoveryCards = [] ∧ v.deadLetters = []) fun row =>
    Marked row v.recoveryCards v.deadLetters

namespace Marked

variable {row row' : TaskRow} {cards : List RecoveryCardRow} {letters : List DeadLetterRow}

lemma no_cards (h : Marked row cards letters) (hs : row.status ≠ .recoveryRequired) :
    openCards cards = [] := by
  have hlen := h.cards
  rw [if_neg hs] at hlen
  exact List.eq_nil_of_length_eq_zero hlen

lemma no_letters (h : Marked row cards letters) (hs : row.status ≠ .failed) :
    openLetters letters = [] := by
  by_contra hne
  exact hs (h.letters hne)

/-- A row that keeps its status. -/
lemma keep (h : Marked row cards letters) (hs : row'.status = row.status) :
    Marked row' cards letters := by
  refine ⟨?_, ?_⟩
  · rw [hs]
    exact h.cards
  · rw [hs]
    exact h.letters

/-- A move between statuses other than recovery, from a task without unresolved
dead letters. -/
lemma move (h : Marked row cards letters) (hs : row.status ≠ .recoveryRequired)
    (hs' : row'.status ≠ .recoveryRequired) (hletters : openLetters letters = []) :
    Marked row' cards letters := by
  refine ⟨?_, fun hne => absurd hletters hne⟩
  rw [h.no_cards hs, if_neg hs']
  rfl

/-- A move to recovery with a new card, from a task in execution. -/
lemma recover (h : Marked row cards letters) (hs : row.status.IsExecution)
    (hs' : row'.status = .recoveryRequired) {card : RecoveryCardRow}
    (hcard : card.status = "open") : Marked row' (cards ++ [card]) letters := by
  have hcards := h.no_cards fun hr => not_isExecution_recoveryRequired (hr ▸ hs)
  have hletters := h.no_letters fun hf => by
    rw [hf] at hs
    exact absurd hs (by decide)
  refine ⟨?_, fun hne => absurd hletters hne⟩
  rw [if_pos hs', openCards, List.filter_append, ← openCards, hcards]
  simp [hcard]

end Marked

lemma DescribedView.of_row {v : TaskView} {row : TaskRow} (h : DescribedView v)
    (hrow : v.row = some row) : Marked row v.recoveryCards v.deadLetters := by
  rw [DescribedView, hrow] at h
  exact h

/-- A task in execution is neither in recovery nor failed. -/
lemma Marked.of_isExecution {row : TaskRow} {cards : List RecoveryCardRow}
    {letters : List DeadLetterRow} (h : Marked row cards letters) (hexec : row.status.IsExecution) :
    row.status ≠ .recoveryRequired ∧ openLetters letters = [] := by
  refine ⟨fun hr => not_isExecution_recoveryRequired (hr ▸ hexec), h.no_letters fun hf => ?_⟩
  rw [hf] at hexec
  exact absurd hexec (by decide)

/-- Every step that displaces nothing keeps the cards and dead letters of a task
and its status together. -/
lemma TaskStep.described {now : Timestamp} {t : UUID} {v v' : TaskView} {op : Op}
    (hdisplaces : ∀ row ∈ v.row, ∀ target ∈ transitions row.status,
      ((∃ reason, op = .transition t target reason) ∨
        ∃ approvalId decision decidedBy reason d approval,
          op = .decideApproval approvalId decision decidedBy reason ∧
          Decision.ofText decision = some d ∧ approval ∈ v.approvals ∧
          approval.approvalId = approvalId ∧ approval.status = .requested ∧
          target = decisionTarget d) →
      ¬ (row.status = .recoveryRequired ∨ target = .recoveryRequired ∨
        row.status = .failed ∧ openLetters v.deadLetters ≠ []))
    (h : TaskStep now t v op v') (hv : DescribedView v) : DescribedView v' := by
  -- a move between statuses other than recovery, by any operation
  have hmoved : ∀ {target : TaskStatus} {row : TaskRow}, v.row = some row →
      row.status ≠ .recoveryRequired → target ≠ .recoveryRequired →
      openLetters v.deadLetters = [] →
      Marked (movedRow target row) v.recoveryCards v.deadLetters := by
    intro target row hrow hs hs' hletters
    exact (hv.of_row hrow).move hs (by rw [movedRow_status]; exact hs') hletters
  have hletters : ∀ {row : TaskRow} {target : TaskStatus}, v.row = some row →
      ¬ (row.status = .recoveryRequired ∨ target = .recoveryRequired ∨
        row.status = .failed ∧ openLetters v.deadLetters ≠ []) →
      openLetters v.deadLetters = [] := by
    intro row target hrow hno
    by_contra hne
    exact hno (Or.inr (Or.inr ⟨(hv.of_row hrow).letters hne, hne⟩))
  cases h with
  | created card route hid hrow =>
      obtain ⟨hcards, hletters⟩ : v.recoveryCards = [] ∧ v.deadLetters = [] := by
        rw [DescribedView, hrow] at hv
        exact hv
      change Marked (newTask card route now) v.recoveryCards v.deadLetters
      rw [hcards, hletters]
      exact ⟨rfl, fun hne => absurd rfl hne⟩
  | claimed role worker mins row hrow hready =>
      have hmarked := hv.of_row hrow
      exact hmarked.move (by rw [hready]; decide) (by simp [claimedRow])
        (hmarked.no_letters (by rw [hready]; decide))
  | renewed worker mins row hrow => exact (hv.of_row hrow).keep rfl
  | heartbeatRejected | receiptRejected => exact hv
  | swept ids row hrow hexp =>
      exact (hv.of_row hrow).recover (isExecution_of_expired hexp) rfl rfl
  | recovery report id row hid hrow hadm =>
      exact (hv.of_row hrow).recover hadm.execution (movedRow_status _ row) rfl
  | retryScheduled report id row delay hid hrow hadm =>
      obtain ⟨hs, hnone⟩ := (hv.of_row hrow).of_isExecution hadm.execution
      exact (hv.of_row hrow).move hs (by rw [retriedRow_status]; decide) hnone
  | deadLettered report id row letterId reason hid hrow hadm =>
      obtain ⟨hs, -⟩ := (hv.of_row hrow).of_isExecution hadm.execution
      change Marked (movedRow .failed row) v.recoveryCards (v.deadLetters ++ [_])
      refine ⟨?_, fun _ => movedRow_status _ row⟩
      rw [(hv.of_row hrow).no_cards hs, movedRow_status]
      rfl
  | stopped report id row target hid hrow hadm hrec hstop =>
      obtain ⟨hs, hnone⟩ := (hv.of_row hrow).of_isExecution hadm.execution
      have htarget : target ≠ .recoveryRequired := by
        rcases hstop with ⟨-, rfl⟩ | ⟨-, rfl⟩ <;> decide
      exact hmoved hrow hs htarget hnone
  | released row hrow hwait =>
      have hmarked := hv.of_row hrow
      exact hmarked.move (by rw [hwait]; decide) (by simp [releasedRow])
        (hmarked.no_letters (by rw [hwait]; decide))
  | receiptAccepted receipt row receiptId closing hid hrow hown hexec =>
      obtain ⟨hs, hnone⟩ := (hv.of_row hrow).of_isExecution hexec
      have htarget : receiptTarget row receipt.outcome ≠ .recoveryRequired :=
        receiptTarget_ne (by decide) row receipt.outcome
      exact hmoved hrow hs htarget hnone
  | approvalRequested card row hid hrow hreview =>
      exact hmoved hrow (by rw [hreview]; decide) (by decide)
        ((hv.of_row hrow).no_letters (by rw [hreview]; decide))
  | approvalDecided id decision by_ reason d approval row hd happ hkey hopen hrow hstatus =>
      have hno := hdisplaces row hrow _ hstatus
        (Or.inr ⟨id, decision, by_, reason, d, approval, rfl, hd, happ, hkey, hopen, rfl⟩)
      obtain ⟨hs, hs', -⟩ := (not_or.mp hno).imp_right not_or.mp
      exact hmoved hrow hs hs' (hletters hrow hno)
  | transitioned target reason row hrow hstatus =>
      have hno := hdisplaces row hrow target hstatus (Or.inl ⟨reason, rfl⟩)
      obtain ⟨hs, hs', -⟩ := (not_or.mp hno).imp_right not_or.mp
      exact hmoved hrow hs hs' (hletters hrow hno)

/-- No step resolves or removes a recovery card or a dead letter. -/
lemma TaskStep.keepsEvidence {now : Timestamp} {t : UUID} {v v' : TaskView} {op : Op}
    (h : TaskStep now t v op v') : KeepsEvidence v v' := by
  cases h with
  | swept | recovery => exact ⟨List.prefix_append _ _, List.prefix_refl _⟩
  | deadLettered => exact ⟨List.prefix_refl _, List.prefix_append _ _⟩
  | _ => exact ⟨List.prefix_refl _, List.prefix_refl _⟩

lemma keepsEvidence_exec (db : Db) (calls : List Call) (t : UUID) :
    KeepsEvidence (db.tables.view t) ((store.exec db calls).tables.view t) := by
  refine view_along (A := fun _ _ => True) (fun _ _ _ _ => trivial) t
    ⟨List.prefix_refl _, List.prefix_refl _⟩ ?_
  rintro db' call - hstep ⟨hcards, hletters⟩
  obtain ⟨hcards', hletters'⟩ := hstep.keepsEvidence
  exact ⟨hcards.trans hcards', hletters.trans hletters'⟩

/-- A decision on an open approval moves its task and leaves the cards and dead
letters alone. -/
lemma Settles.spec {db : Db} {call : Call} {t : UUID} {row : TaskRow} {target : TaskStatus}
    (h : Settles db call t row target) :
    (store.next call db).tables.agentTasks.get? t = some (movedRow target row) ∧
      (store.next call db).tables.recoveryCards = db.tables.recoveryCards ∧
      (store.next call db).tables.deadLetters = db.tables.deadLetters := by
  obtain ⟨id, decision, by_, reason, d, approval, hop, hd, happ, hopen, rfl, rfl, hrow, hmem⟩ := h
  obtain ⟨answer, hout⟩ := decideApproval_accepted call.now by_ reason hd happ hopen hrow hmem
  rw [← hop] at hout
  have heff := effect_of_out hop hout
  generalize (store.next call db).tables = s' at heff ⊢
  cases heff with
  | approvalDecided _ _ _ _ d' approval' row' _ hd' happ' hopen' hrow' =>
      obtain rfl : d = d' := Option.some.inj (hd.symm.trans hd')
      obtain rfl : approval = approval' := Option.some.inj (happ.symm.trans happ')
      refine ⟨?_, rfl, rfl⟩
      rw [Table.get?_updateKey, if_pos rfl, hrow]
      rfl

/-- Along a run that displaces nothing every task is described. -/
lemma described_exec {calls : List Call}
    (h : store.Along (fun db c => ¬ Displaces db c) Db.init calls) (t : UUID) :
    DescribedView ((store.exec Db.init calls).tables.view t) := by
  refine view_along h t ⟨rfl, rfl⟩ fun db call hno hstep hv => ?_
  refine hstep.described (fun row hrow target hmem hmoves hmarks => ?_) hv
  refine hno ⟨t, row, target, ?_, hmarks⟩
  rcases hmoves with ⟨reason, hop⟩ | ⟨id, decision, by_, reason, d, approval, hop, hd, happ, hkey,
    hopen, htarget⟩
  · exact Or.inl ⟨⟨reason, hop⟩, hrow, hmem⟩
  · obtain ⟨hin, ht⟩ := List.mem_filter.mp happ
    exact Or.inr ⟨id, decision, by_, reason, d, approval, hop, hd,
      hkey ▸ Table.get?_of_mem hin, hopen, of_decide_eq_true ht, htarget, hrow, hmem⟩

/-- A described task with an open card is in recovery, one with an unresolved
dead letter has failed. -/
lemma describesPresent_of_described {s : Tables} (h : ∀ t, DescribedView (s.view t)) :
    DescribesPresent s where
  cards t row hrow := ((h t).of_row hrow).cards
  letters t row hrow := ((h t).of_row hrow).letters
  cardTasks card hcard := by
    obtain ⟨hmem, hopen⟩ := List.mem_filter.mp hcard
    have hview : card ∈ (s.view card.taskId).recoveryCards :=
      List.mem_filter.mpr ⟨hmem, decide_eq_true rfl⟩
    have hin : card ∈ openCards (s.view card.taskId).recoveryCards :=
      List.mem_filter.mpr ⟨hview, hopen⟩
    cases hrow : s.agentTasks.get? card.taskId with
    | none =>
        have hdescribed := h card.taskId
        rw [DescribedView, show (s.view card.taskId).row = none from hrow] at hdescribed
        rw [hdescribed.1] at hview
        exact absurd hview List.not_mem_nil
    | some row =>
        refine ⟨row, rfl, ?_⟩
        by_contra hs
        rw [((h card.taskId).of_row hrow).no_cards hs] at hin
        exact List.not_mem_nil hin
  letterTasks letter hletter := by
    obtain ⟨hmem, hopen⟩ := List.mem_filter.mp hletter
    have hview : letter ∈ (s.view letter.taskId).deadLetters :=
      List.mem_filter.mpr ⟨hmem, decide_eq_true rfl⟩
    have hin : letter ∈ openLetters (s.view letter.taskId).deadLetters :=
      List.mem_filter.mpr ⟨hview, hopen⟩
    cases hrow : s.agentTasks.get? letter.taskId with
    | none =>
        have hdescribed := h letter.taskId
        rw [DescribedView, show (s.view letter.taskId).row = none from hrow] at hdescribed
        rw [hdescribed.2] at hview
        exact absurd hview List.not_mem_nil
    | some row =>
        exact ⟨row, rfl, ((h letter.taskId).of_row hrow).letters (List.ne_nil_of_mem hin)⟩

/-- A call that displaces a task leaves cards or dead letters that do not
describe it. -/
lemma Displaces.not_describes {db : Db} {call : Call} (h : Displaces db call)
    (hbefore : DescribesPresent db.tables) : ¬ DescribesPresent (store.next call db).tables := by
  obtain ⟨t, row, target, hmoves, hmarks⟩ := h
  have hmem : target ∈ transitions row.status := by
    rcases hmoves with hmoves | ⟨_, _, _, _, _, _, -, -, -, -, -, -, -, hmem⟩
    · exact hmoves.2.2
    · exact hmem
  have hrow : db.tables.agentTasks.get? t = some row := by
    rcases hmoves with hmoves | ⟨_, _, _, _, _, _, -, -, -, -, -, -, hrow, -⟩
    · exact hmoves.2.1
    · exact hrow
  have hnext : (store.next call db).tables.agentTasks.get? t = some (movedRow target row) ∧
      (store.next call db).tables.recoveryCards = db.tables.recoveryCards ∧
      (store.next call db).tables.deadLetters = db.tables.deadLetters := by
    rcases hmoves with hmoves | hsettles
    · obtain ⟨hnext, -, hcards, hletters⟩ := hmoves.spec
      exact ⟨hnext, hcards, hletters⟩
    · exact hsettles.spec
  obtain ⟨hnext, hcards, hletters⟩ := hnext
  have hne := ne_of_mem_transitions hmem
  intro hafter
  have hlen := hbefore.cards t row hrow
  have hlen' := hafter.cards t _ hnext
  rw [Tables.view, hcards, movedRow_status] at hlen'
  have heq := hlen.symm.trans hlen'
  rcases hmarks with hs | hs | ⟨hs, hopen⟩
  · rw [if_pos hs, if_neg (hs ▸ hne)] at heq
    omega
  · rw [if_pos hs, if_neg (hs ▸ hne.symm)] at heq
    omega
  · have hopen' : openLetters ((store.next call db).tables.view t).deadLetters ≠ [] := by
      rw [Tables.view, hletters]
      exact hopen
    have hfailed := hafter.letters t _ hnext hopen'
    rw [movedRow_status] at hfailed
    exact hne (hfailed.trans hs.symm)

/-- **Recovery cards and dead letters are evidence**: no run resolves or removes
one. So the open ones describe the present along a run if and only if no
transition, and no decision on an approval left open, takes a task from or to
recovery or from its dead letters. -/
theorem describesPresent_iff (calls : List Call) :
    (∀ pre post t, calls = pre ++ post →
        KeepsEvidence ((store.exec Db.init pre).tables.view t)
          ((store.exec Db.init calls).tables.view t)) ∧
      ((∀ pre post, calls = pre ++ post → DescribesPresent (store.exec Db.init pre).tables) ↔
        store.Along (fun db c => ¬ Displaces db c) Db.init calls) := by
  refine ⟨?_, ?_, ?_⟩
  · rintro pre post t rfl
    rw [Machine.exec_append]
    exact keepsEvidence_exec _ post t
  · rintro h pre x post hcalls hdisplaces
    refine hdisplaces.not_describes (h pre (x :: post) hcalls) ?_
    rw [← Machine.exec_concat]
    exact h (pre ++ [x]) post (by rw [hcalls]; simp)
  · rintro hcalls pre post rfl
    rw [Machine.along_append] at hcalls
    exact describesPresent_of_described fun t => described_exec hcalls.1 t

/-- A task that a transition takes from recovery leaves its card open. -/
theorem not_describesPresent :
    ¬ ∀ calls : List Call, DescribesPresent (store.exec Db.init calls).tables := by
  intro h
  have hrow : ((store.exec Db.init (overdueRun ++ [⟨.expireLeases id, minutes 2⟩,
      ⟨.transition sampleCard.taskId .ready "", minutes 3⟩])).tables.agentTasks.get?
        sampleCard.taskId).map TaskRow.status = some .ready := by decide +kernel
  obtain ⟨row, hrow, hstatus⟩ := Option.map_eq_some_iff.mp hrow
  have hcards := (h _).cards _ row hrow
  rw [hstatus] at hcards
  exact absurd hcards (by decide +kernel)

end ControlHarness

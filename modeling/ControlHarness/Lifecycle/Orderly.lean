import ControlHarness.Lifecycle.Replay

/-!
What the operations of the HTTP surface keep of a task.

`transition` apart, an approval is open exactly while its task awaits it, a
recovery card exists exactly while its task is in recovery, and a task that
needs approval leaves review only through one. `Orderly` says this of the view
of a task, status by status, and every step by an operation of the HTTP surface
keeps it (`TaskStep.orderly`).

* `ApprovalsFit`, `CardsFit`: the approvals and recovery cards that each status
  admits.
* `GateLog`: the trail of an approval in the log, as far as the status says it
  has come; `changesStatus` tells the events that move a task from the three
  that do not.
* `FitsCard`: the columns of a row that repeat the card.
-/

namespace ControlHarness

open Store

/-! ### The columns that repeat the card -/

/-- The columns of a row that `create_task` copies from the card. -/
structure FitsCard (row : TaskRow) : Prop where
  taskId : row.taskId = row.card.taskId
  correlationId : row.correlationId = row.card.correlationId
  title : row.title = row.card.title
  project : row.project = row.card.project
  idempotencyKey : row.idempotencyKey = row.card.idempotencyKey
  approvalRequired : row.approvalRequired = row.card.approvalRequired

lemma FitsCard.newTask (card : TaskCardV1) (route : String) (now : Timestamp) :
    FitsCard (newTask card route now) := ⟨rfl, rfl, rfl, rfl, rfl, rfl⟩

/-- The two rows agree on the columns that no operation writes. -/
structure SameCard (row row' : TaskRow) : Prop where
  taskId : row'.taskId = row.taskId
  correlationId : row'.correlationId = row.correlationId
  title : row'.title = row.title
  project : row'.project = row.project
  card : row'.card = row.card
  idempotencyKey : row'.idempotencyKey = row.idempotencyKey
  approvalRequired : row'.approvalRequired = row.approvalRequired
  circuitKey : row'.circuitKey = row.circuitKey
  createdAt : row'.createdAt = row.createdAt

namespace SameCard

lemma refl (row : TaskRow) : SameCard row row := ⟨rfl, rfl, rfl, rfl, rfl, rfl, rfl, rfl, rfl⟩

lemma movedRow (target : TaskStatus) (row : TaskRow) : SameCard row (movedRow target row) := by
  rw [Store.movedRow]
  split <;> exact ⟨rfl, rfl, rfl, rfl, rfl, rfl, rfl, rfl, rfl⟩

lemma retriedRow (retryAt : Timestamp) (cls : FailureClass) (row : TaskRow) :
    SameCard row (retriedRow retryAt cls row.circuitKey row) := by
  rw [Store.retriedRow, Store.movedRow]
  split <;> exact ⟨rfl, rfl, rfl, rfl, rfl, rfl, rfl, rfl, rfl⟩

lemma trans {row row' row'' : TaskRow} (h : SameCard row row') (h' : SameCard row' row'') :
    SameCard row row'' where
  taskId := h'.taskId.trans h.taskId
  correlationId := h'.correlationId.trans h.correlationId
  title := h'.title.trans h.title
  project := h'.project.trans h.project
  card := h'.card.trans h.card
  idempotencyKey := h'.idempotencyKey.trans h.idempotencyKey
  approvalRequired := h'.approvalRequired.trans h.approvalRequired
  circuitKey := h'.circuitKey.trans h.circuitKey
  createdAt := h'.createdAt.trans h.createdAt

lemma fitsCard {row row' : TaskRow} (h : SameCard row row') (hrow : FitsCard row) :
    FitsCard row' where
  taskId := by rw [h.taskId, h.card, hrow.taskId]
  correlationId := by rw [h.correlationId, h.card, hrow.correlationId]
  title := by rw [h.title, h.card, hrow.title]
  project := by rw [h.project, h.card, hrow.project]
  idempotencyKey := by rw [h.idempotencyKey, h.card, hrow.idempotencyKey]
  approvalRequired := by rw [h.approvalRequired, h.card, hrow.approvalRequired]

end SameCard

/-- **No step writes the columns of the card**: a step inserts the row of a new
task or leaves those columns alone. -/
theorem TaskStep.sameCard {now : Timestamp} {t : UUID} {v v' : TaskView} {op : Op}
    (h : TaskStep now t v op v') :
    (∃ card route, op = .createTask card ∧ card.taskId = t ∧ v.row = none ∧
        v'.row = some (newTask card route now)) ∨
      ∃ row row', v.row = some row ∧ v'.row = some row' ∧ SameCard row row' := by
  cases h with
  | created card route hid hrow => exact Or.inl ⟨card, route, rfl, hid, hrow, rfl⟩
  | claimed role worker mins row hrow | renewed worker mins row hrow | swept ids row hrow
  | released row hrow =>
      exact Or.inr ⟨row, _, hrow, rfl, ⟨rfl, rfl, rfl, rfl, rfl, rfl, rfl, rfl, rfl⟩⟩
  | heartbeatRejected worker mins row hrow | receiptRejected receipt row hid hrow =>
      exact Or.inr ⟨row, row, hrow, hrow, .refl row⟩
  | recovery report id row hid hrow | deadLettered report id row letterId reason hid hrow
  | stopped report id row target hid hrow | receiptAccepted receipt row receiptId es hid hrow
  | approvalRequested card row hid hrow | transitioned target reason row hrow =>
      exact Or.inr ⟨row, _, hrow, rfl, .movedRow _ row⟩
  | retryScheduled report id row delay hid hrow =>
      exact Or.inr ⟨row, _, hrow, rfl, .retriedRow _ _ row⟩
  | approvalDecided id decision by_ reason d approval row hd happ hkey hopen hrow =>
      exact Or.inr ⟨row, _, hrow, rfl, .movedRow _ row⟩

/-- A task that exists keeps its card: one call. -/
lemma sameCard_next {db : Db} {t : UUID} {row : TaskRow} (call : Call)
    (hrow : db.tables.agentTasks.get? t = some row) :
    ∃ row', (store.next call db).tables.agentTasks.get? t = some row' ∧ SameCard row row' := by
  rcases view_next call db t with hview | hstep
  · exact ⟨row, (congrArg TaskView.row hview).trans hrow, .refl row⟩
  · rcases hstep.sameCard with ⟨card, route, -, -, hnone, -⟩ | ⟨r, row', hr, hrow', hsame⟩
    · exact absurd (hrow.symm.trans hnone) (by simp)
    · obtain rfl : row = r := Option.some.inj (hrow.symm.trans hr)
      exact ⟨row', hrow', hsame⟩

/-- A task that exists keeps its card along every run. -/
lemma sameCard_exec {db : Db} {t : UUID} {row : TaskRow} (calls : List Call)
    (hrow : db.tables.agentTasks.get? t = some row) :
    ∃ row', (store.exec db calls).tables.agentTasks.get? t = some row' ∧ SameCard row row' := by
  refine Machine.invariant (M := store) (P := fun db' : Db =>
    ∃ row', db'.tables.agentTasks.get? t = some row' ∧ SameCard row row') ⟨row, hrow, .refl row⟩ ?_
  rintro db' call ⟨row', hrow', hsame⟩
  obtain ⟨row'', hrow'', hsame'⟩ := sameCard_next call hrow'
  exact ⟨row'', hrow'', hsame.trans hsame'⟩

/-! ### Approvals, recovery cards and the trail in the log -/

/-- The approvals of a task in a status: one open approval while the task awaits
it, at most one decided approval after it, and none before. -/
def ApprovalsFit : TaskStatus → List ApprovalRow → Prop
  | .awaitingApproval, as => ∃ a, as = [a] ∧ a.status = .requested
  | .done, as => as = [] ∨ ∃ a, as = [a] ∧ a.status = .decided .approved
  | .blocked, as => as = [] ∨ ∃ a, as = [a] ∧ a.status = .decided .rejected
  | _, as => as = []

/-- The recovery cards of a task in a status: one open card in recovery, and
none elsewhere. -/
def CardsFit : TaskStatus → List RecoveryCardRow → Prop
  | .recoveryRequired, cs => ∃ c, cs = [c] ∧ c.status = "open"
  | _, cs => cs = []

/-- The event moves the task to a status. The rejections and the closing of a
circuit do not. -/
def changesStatus : HarnessEvent → Bool
  | .heartbeatRejected .. | .receiptRejected .. | .circuitClosed .. => false
  | _ => true

/-- No event of the list moves the task. -/
def Quiet (es : List HarnessEvent) : Prop := ∀ e ∈ es, changesStatus e = false

lemma quiet_nil : Quiet [] := by simp [Quiet]

lemma Quiet.append {es es' : List HarnessEvent} (h : Quiet es) (h' : Quiet es') :
    Quiet (es ++ es') := by
  intro e he
  rcases List.mem_append.mp he with he | he
  · exact h e he
  · exact h' e he

/-- The log ends with an accepted receipt of a completed task and quiet events. -/
def EndsWithReceipt (log : List HarnessEvent) : Prop :=
  ∃ before model provider quiet, Quiet quiet ∧
    log = before ++ .receiptAccepted .completed .review model provider :: quiet

/-- The log ends with such a receipt, the request of an approval and quiet
events. -/
def EndsWithRequest (log : List HarnessEvent) (approvalId : UUID) (action : String) : Prop :=
  ∃ before quiet, EndsWithReceipt before ∧ Quiet quiet ∧
    log = before ++ .approvalRequested approvalId action :: quiet

/-- The log ends with such a receipt, the request of an approval, its approval
and quiet events. -/
def EndsWithApproval (log : List HarnessEvent) (approvalId : UUID) (action : String) : Prop :=
  ∃ before decidedBy quiet, EndsWithRequest before approvalId action ∧ Quiet quiet ∧
    log = before ++ .approvalDecided approvalId .approved decidedBy :: quiet

/-- How far the trail of an approval has come in each status. -/
def GateLog (log : List HarnessEvent) (approvals : List ApprovalRow) : TaskStatus → Prop
  | .review => EndsWithReceipt log
  | .awaitingApproval => ∃ a, approvals = [a] ∧ EndsWithRequest log a.approvalId a.action
  | .done => ∃ a, approvals = [a] ∧ EndsWithApproval log a.approvalId a.action
  | _ => True

/-- The invariant of a task under the operations of the HTTP surface. -/
def Orderly (v : TaskView) : Prop :=
  match v.row with
  | none => v.approvals = [] ∧ v.recoveryCards = []
  | some row =>
      FitsCard row ∧ ApprovalsFit row.status v.approvals ∧
        CardsFit row.status v.recoveryCards ∧
        (row.approvalRequired ≠ [] → GateLog v.log v.approvals row.status)

lemma EndsWithReceipt.append {log es : List HarnessEvent} (h : EndsWithReceipt log)
    (hes : Quiet es) : EndsWithReceipt (log ++ es) := by
  obtain ⟨before, model, provider, quiet, hquiet, rfl⟩ := h
  exact ⟨before, model, provider, quiet ++ es, hquiet.append hes, by simp⟩

lemma EndsWithRequest.append {log es : List HarnessEvent} {approvalId : UUID} {action : String}
    (h : EndsWithRequest log approvalId action) (hes : Quiet es) :
    EndsWithRequest (log ++ es) approvalId action := by
  obtain ⟨before, quiet, hbefore, hquiet, rfl⟩ := h
  exact ⟨before, quiet ++ es, hbefore, hquiet.append hes, by simp⟩

lemma EndsWithApproval.append {log es : List HarnessEvent} {approvalId : UUID} {action : String}
    (h : EndsWithApproval log approvalId action) (hes : Quiet es) :
    EndsWithApproval (log ++ es) approvalId action := by
  obtain ⟨before, decidedBy, quiet, hbefore, hquiet, rfl⟩ := h
  exact ⟨before, decidedBy, quiet ++ es, hbefore, hquiet.append hes, by simp⟩

lemma GateLog.append {log es : List HarnessEvent} {approvals : List ApprovalRow}
    {status : TaskStatus} (h : GateLog log approvals status) (hes : Quiet es) :
    GateLog (log ++ es) approvals status := by
  cases status with
  | review => exact EndsWithReceipt.append h hes
  | awaitingApproval =>
      obtain ⟨a, ha, hlog⟩ := h
      exact ⟨a, ha, hlog.append hes⟩
  | done =>
      obtain ⟨a, ha, hlog⟩ := h
      exact ⟨a, ha, hlog.append hes⟩
  | _ => trivial

lemma Orderly.of_row {v : TaskView} {row : TaskRow} (h : Orderly v) (hrow : v.row = some row) :
    FitsCard row ∧ ApprovalsFit row.status v.approvals ∧ CardsFit row.status v.recoveryCards ∧
      (row.approvalRequired ≠ [] → GateLog v.log v.approvals row.status) := by
  rw [Orderly, hrow] at h
  exact h

/-- A step that leaves the row's status and the approvals and cards alone and
appends quiet events. -/
lemma Orderly.note {v v' : TaskView} {row row' : TaskRow} {es : List HarnessEvent}
    (h : Orderly v) (hrow : v.row = some row) (hrow' : v'.row = some row')
    (hcard : SameCard row row') (hstatus : row'.status = row.status)
    (hlog : v'.log = v.log ++ es) (hes : Quiet es) (happ : v'.approvals = v.approvals)
    (hcards : v'.recoveryCards = v.recoveryCards) : Orderly v' := by
  obtain ⟨hfit, happrovals, hrecovery, hgate⟩ := h.of_row hrow
  rw [Orderly, hrow']
  dsimp only
  rw [hstatus, happ, hcards, hlog, hcard.approvalRequired]
  exact ⟨hcard.fitsCard hfit, happrovals, hrecovery, fun hreq => (hgate hreq).append hes⟩

/-- A task on which a worker is at work, or that waits for one, has neither
approvals nor recovery cards. -/
lemma Orderly.clear {v : TaskView} {row : TaskRow} (h : Orderly v) (hrow : v.row = some row)
    (hstatus : row.status = .ready ∨ row.status.IsExecution ∨ row.status = .review ∨
      row.status = .retryWait) :
    v.approvals = [] ∧ v.recoveryCards = [] := by
  obtain ⟨-, happrovals, hrecovery, -⟩ := h.of_row hrow
  rcases hstatus with hs | (hs | hs) | hs | hs <;> rw [hs] at happrovals hrecovery <;>
    exact ⟨happrovals, hrecovery⟩

/-- A step that moves a task without approvals and cards to a status that admits
none. -/
lemma Orderly.move {v v' : TaskView} {row row' : TaskRow} (h : Orderly v)
    (hrow : v.row = some row) (hrow' : v'.row = some row') (hcard : SameCard row row')
    (happ : ApprovalsFit row'.status v'.approvals) (hcards : CardsFit row'.status v'.recoveryCards)
    (hgate : row'.approvalRequired ≠ [] → GateLog v'.log v'.approvals row'.status) :
    Orderly v' := by
  rw [Orderly, hrow']
  exact ⟨hcard.fitsCard (h.of_row hrow).1, happ, hcards, hgate⟩

/-- An approval that is open belongs to a task that awaits it. -/
lemma ApprovalsFit.awaiting {status : TaskStatus} {approvals : List ApprovalRow}
    {approval : ApprovalRow} (h : ApprovalsFit status approvals) (hmem : approval ∈ approvals)
    (hopen : approval.status = .requested) :
    status = .awaitingApproval ∧ approvals = [approval] := by
  cases status with
  | awaitingApproval =>
      obtain ⟨a, rfl, -⟩ := h
      rw [List.mem_singleton.mp hmem]
      exact ⟨rfl, rfl⟩
  | done | blocked =>
      rcases h with rfl | ⟨a, rfl, ha⟩
      · exact absurd hmem (List.not_mem_nil)
      · rw [List.mem_singleton.mp hmem, ha] at hopen
        exact absurd hopen (by simp)
  | _ =>
      obtain rfl : approvals = [] := h
      exact absurd hmem (List.not_mem_nil)

/-- A receipt leads to a status that admits no approvals. -/
lemma approvalsFit_receiptTarget (row : TaskRow) (outcome : ReceiptOutcome)
    {approvals : List ApprovalRow} (h : approvals = []) :
    ApprovalsFit (receiptTarget row outcome) approvals := by
  cases outcome with
  | completed =>
      rw [receiptTarget]
      split
      · exact h
      · exact Or.inl h
  | failed => exact h
  | blocked => exact Or.inl h

/-- A receipt leads to a status that admits no recovery cards. -/
lemma cardsFit_receiptTarget (row : TaskRow) (outcome : ReceiptOutcome)
    {cards : List RecoveryCardRow} (h : cards = []) :
    CardsFit (receiptTarget row outcome) cards := by
  cases outcome with
  | completed =>
      rw [receiptTarget]
      split <;> exact h
  | failed | blocked => exact h

/-- **Every step by an operation of the HTTP surface keeps a task orderly.** -/
theorem TaskStep.orderly {now : Timestamp} {t : UUID} {v v' : TaskView} {op : Op}
    (hhttp : op.Http) (h : TaskStep now t v op v') (hv : Orderly v) : Orderly v' := by
  cases h with
  | created card route hid hrow =>
      rw [Orderly, hrow] at hv
      exact ⟨.newTask card route now, hv.1, hv.2, fun _ => trivial⟩
  | claimed role worker mins row hrow hready =>
      obtain ⟨happ, hcards⟩ := hv.clear hrow (Or.inl hready)
      exact hv.move hrow rfl ⟨rfl, rfl, rfl, rfl, rfl, rfl, rfl, rfl, rfl⟩ happ hcards
        fun _ => trivial
  | renewed worker mins row hrow =>
      exact hv.note hrow rfl ⟨rfl, rfl, rfl, rfl, rfl, rfl, rfl, rfl, rfl⟩ rfl rfl
        quiet_nil rfl rfl
  | heartbeatRejected worker mins row hrow =>
      exact hv.note hrow hrow (.refl row) rfl rfl (by simp [Quiet, changesStatus]) rfl rfl
  | receiptRejected receipt row hid hrow =>
      exact hv.note hrow hrow (.refl row) rfl rfl (by simp [Quiet, changesStatus]) rfl rfl
  | swept ids row hrow hexp =>
      obtain ⟨happ, hcards⟩ := hv.clear hrow (Or.inr (Or.inl (isExecution_of_expired hexp)))
      refine hv.move hrow rfl ⟨rfl, rfl, rfl, rfl, rfl, rfl, rfl, rfl, rfl⟩ happ ?_
        fun _ => trivial
      exact ⟨_, by rw [hcards, List.nil_append], rfl⟩
  | recovery report id row hid hrow hadm =>
      obtain ⟨happ, hcards⟩ := hv.clear hrow (Or.inr (Or.inl hadm.execution))
      refine hv.move hrow rfl (.movedRow _ row) ?_ ?_ fun _ => ?_
      · rw [movedRow_status]
        exact happ
      · rw [movedRow_status]
        exact ⟨_, by rw [hcards, List.nil_append], rfl⟩
      · rw [movedRow_status]
        trivial
  | retryScheduled report id row delay hid hrow hadm =>
      obtain ⟨happ, hcards⟩ := hv.clear hrow (Or.inr (Or.inl hadm.execution))
      refine hv.move hrow rfl (.retriedRow _ _ row) ?_ ?_ fun _ => ?_ <;> rw [retriedRow_status]
      · exact happ
      · exact hcards
      · trivial
  | deadLettered report id row letterId reason hid hrow hadm =>
      obtain ⟨happ, hcards⟩ := hv.clear hrow (Or.inr (Or.inl hadm.execution))
      refine hv.move hrow rfl (.movedRow _ row) ?_ ?_ fun _ => ?_ <;> rw [movedRow_status]
      · exact happ
      · exact hcards
      · trivial
  | stopped report id row target hid hrow hadm hrec hstop =>
      obtain ⟨happ, hcards⟩ := hv.clear hrow (Or.inr (Or.inl hadm.execution))
      refine hv.move hrow rfl (.movedRow _ row) ?_ ?_ fun _ => ?_ <;> rw [movedRow_status]
      · rcases hstop with ⟨-, rfl⟩ | ⟨-, rfl⟩
        · exact happ
        · exact Or.inl happ
      · rcases hstop with ⟨-, rfl⟩ | ⟨-, rfl⟩ <;> exact hcards
      · rcases hstop with ⟨-, rfl⟩ | ⟨-, rfl⟩ <;> trivial
  | released row hrow hwait =>
      obtain ⟨happ, hcards⟩ := hv.clear hrow (Or.inr (Or.inr (Or.inr hwait)))
      exact hv.move hrow rfl ⟨rfl, rfl, rfl, rfl, rfl, rfl, rfl, rfl, rfl⟩ happ hcards
        fun _ => trivial
  | receiptAccepted receipt row receiptId closing hid hrow hown hexec hclosing =>
      obtain ⟨happ, hcards⟩ := hv.clear hrow (Or.inr (Or.inl hexec))
      have hquiet : Quiet closing := by
        intro e he
        obtain ⟨key, rfl⟩ := hclosing e he
        rfl
      refine hv.move hrow rfl (.movedRow _ row) ?_ ?_ fun hreq => ?_
      · rw [receiptRow, movedRow_status]
        exact approvalsFit_receiptTarget row receipt.outcome happ
      · rw [receiptRow, movedRow_status]
        exact cardsFit_receiptTarget row receipt.outcome hcards
      · rw [receiptRow, (SameCard.movedRow _ row).approvalRequired] at hreq
        rw [receiptRow, movedRow_status]
        cases hout : receipt.outcome with
        | completed =>
            have htarget : receiptTarget row .completed = .review := if_pos hreq
            rw [htarget]
            refine ⟨v.log, receipt.costReceipt.modelRef, receipt.costReceipt.providerClass,
              closing, hquiet, ?_⟩
            rw [accepted, hout, htarget]
            rfl
        | failed => trivial
        | blocked => trivial
  | approvalRequested card row hid hrow hstatus =>
      obtain ⟨happ, hcards⟩ := hv.clear hrow (Or.inr (Or.inr (Or.inl hstatus)))
      have hgate := (hv.of_row hrow).2.2.2
      rw [hstatus] at hgate
      refine hv.move hrow rfl (.movedRow _ row) ?_ ?_ fun hreq => ?_
      · rw [movedRow_status]
        exact ⟨newApproval card now, by rw [happ, List.nil_append], rfl⟩
      · rw [movedRow_status]
        exact hcards
      · rw [(SameCard.movedRow _ row).approvalRequired] at hreq
        rw [movedRow_status]
        refine ⟨newApproval card now, by rw [happ, List.nil_append], ?_⟩
        exact ⟨v.log, [], hgate hreq, quiet_nil, rfl⟩
  | approvalDecided id decision by_ reason d approval row hd happ hkey hopen hrow hstatus =>
      obtain ⟨-, hfit, hcards, hgate⟩ := hv.of_row hrow
      obtain ⟨hawait, hall⟩ := hfit.awaiting happ hopen
      rw [hawait] at hcards hgate
      have hdecided : (v.approvals.map fun a =>
          if a.approvalId = id then decidedApproval d by_ reason now a else a)
            = [decidedApproval d by_ reason now approval] := by
        rw [hall, List.map_singleton, if_pos hkey]
      refine hv.move hrow rfl (.movedRow _ row) ?_ ?_ fun hreq => ?_
      · rw [movedRow_status, hdecided]
        cases d with
        | approved => exact Or.inr ⟨_, rfl, rfl⟩
        | rejected => exact Or.inr ⟨_, rfl, rfl⟩
      · rw [movedRow_status]
        cases d <;> exact hcards
      · rw [(SameCard.movedRow _ row).approvalRequired] at hreq
        rw [movedRow_status, hdecided]
        cases d with
        | rejected => trivial
        | approved =>
            obtain ⟨a, ha, hlog⟩ := hgate hreq
            obtain rfl : approval = a := by
              rw [hall] at ha
              exact (List.cons.inj ha).1
            exact ⟨_, rfl, v.log, by_, [], hlog, quiet_nil, by rw [← hkey]; rfl⟩
  | transitioned => exact hhttp.elim

/-- Along every run of the HTTP surface every task is orderly. -/
theorem orderly_exec {calls : List Call} (hhttp : ∀ c ∈ calls, c.op.Http) (t : UUID) :
    Orderly ((store.exec Db.init calls).tables.view t) :=
  view_exec hhttp t ⟨rfl, rfl⟩ fun _ _ _ _ hop hstep => hstep.orderly hop

end ControlHarness

import ControlHarness.Lifecycle.Orderly
import ControlHarness.Lifecycle.Outcome
import ControlHarness.Scopes
import ControlHarness.Store.Ledger

/-!
The confinement of roles.

Each task is meant for one role, that of its card, and the role is looked at in
four places: at the creation, in the body of a claim, in the `owner_role` column
before a read, and in the prefix of the worker for the other messages. The two
things that the four places are for, the column repeats the card and the NAS
worker neither changes nor receives a task of another role, hold along a run
exactly when no claim names another role than the card and no message of the NAS
worker comes from the owner of a task of another role (`role_confinement`). The
claim writes the role of its body into the column and never looks at the card,
so the NAS worker takes a task of another role by its own claim
(`not_role_confined`). All this is said of requests of the NAS worker whose URL has the path
that they are routed by: the scope is looked up by the one, the handler by the other.

* `App.op`: the call of the store behind a request.
* `Op.Reaches`: the message of a worker finds the task as it has to be.
* `App.Confined`: the condition of a step; `App.RoleConfined`: what holds along
  a run that meets it.
-/

namespace ControlHarness

open Store Text

/-! ### The calls behind the requests -/

namespace App

/-- The principal and the endpoint of a request that passes the middleware. -/
def passed (app : App) (call : HttpCall) : Option (Principal × Endpoint) :=
  match app.authorize call.files call.request with
  | .ok principal => call.request.endpoint.map (principal, ·)
  | .error _ => none

lemma action_length {body : ApprovalRequest}
    (h : HasLength 3 80 (strip isWhiteSpace body.action) ∧
      HasLength 3 120 (strip isWhiteSpace body.requestedBy)) :
    HasLength 3 80 (strip isWhiteSpace body.action) := h.1

lemma requestedBy_length {body : ApprovalRequest}
    (h : HasLength 3 80 (strip isWhiteSpace body.action) ∧
      HasLength 3 120 (strip isWhiteSpace body.requestedBy)) :
    HasLength 3 120 (strip isWhiteSpace body.requestedBy) := h.2

/-- The call of the store that a handler makes, once its own checks pass. -/
def op (app : App) (principal : Principal) : Endpoint → Option Op
  | .createTask card =>
    match Policy.assertTaskAllowed card app.bundle with
    | .ok () => some (.createTask card)
    | .error _ => none
  | .claim taskId body =>
    if (enforceNasWorker principal body.ownerRole body.workerId).isNone then
      some (.claim taskId body.ownerRole body.workerId body.leaseMinutes)
    else none
  | .heartbeat taskId body =>
    if (enforceNasWorker principal "hermes_nas" body.workerId).isNone then
      some (.heartbeat taskId body.workerId body.leaseMinutes)
    else none
  | .receipts taskId receipt =>
    if (enforceNasWorker principal "hermes_nas" receipt.workerInstance).isNone ∧
        receipt.taskId = taskId then some (.submitReceipt receipt)
    else none
  | .reportFailure taskId report recoveryId =>
    if (enforceNasWorker principal "hermes_nas" report.workerInstance).isNone ∧
        report.taskId = taskId then some (.reportFailure report recoveryId)
    else none
  | .approvalRequest taskId body approvalId =>
    if h : HasLength 3 80 (strip isWhiteSpace body.action) ∧
        HasLength 3 120 (strip isWhiteSpace body.requestedBy) then
      some (.requestApproval ⟨approvalId, taskId, strip isWhiteSpace body.action,
        strip isWhiteSpace body.requestedBy, action_length h, requestedBy_length h⟩)
    else none
  | .decide approvalId body =>
    some (.decideApproval approvalId body.decision body.decidedBy body.reason)
  | .expireLeases recoveryIds => some (.expireLeases recoveryIds)
  | .releaseRetries => some .releaseDueRetries
  | .health | .cockpit | .qualityMetrics | .pandaosProjection _ _ | .getTask _ | .trace _
  | .resilience => none

variable {app : App} {principal : Principal} {now : Timestamp} {db : Db}

lemma callStore_snd (o : Op) (view : Reply → Response) :
    (callStore o now view db).2 = store.next ⟨o, now⟩ db := by
  rw [callStore]
  split <;> rfl

lemma callStore_ok {o : Op} {reply : Reply} (view : Reply → Response)
    (h : store.out ⟨o, now⟩ db = .ok reply) : (callStore o now view db).1 = view reply := by
  have hstep : (store.step ⟨o, now⟩ db).1 = .ok reply := h
  rw [callStore, hstep]

/-- An error has no rows. -/
lemma rows_callStore {o : Op} {view : Reply → Response} {row : TaskRow}
    (h : row ∈ (callStore o now view db).1.rows) :
    ∃ reply, store.out ⟨o, now⟩ db = .ok reply ∧ row ∈ (view reply).rows := by
  cases hout : store.out ⟨o, now⟩ db with
  | ok reply =>
      rw [callStore_ok view hout] at h
      exact ⟨reply, rfl, h⟩
  | error e =>
      have hstep : (store.step ⟨o, now⟩ db).1 = .error e := hout
      rw [callStore, hstep] at h
      cases e <;> exact absurd h List.not_mem_nil

/-- **A request makes one call of the store or none.** -/
lemma handle_snd (e : Endpoint) :
    (app.handle principal now db e).2
      = (app.op principal e).elim db fun o => store.next ⟨o, now⟩ db := by
  cases e with
  | health | cockpit | qualityMetrics | pandaosProjection _ _ | getTask _ | trace _
  | resilience => rfl
  | expireLeases ids | releaseRetries | decide id body => exact callStore_snd _ _
  | createTask card =>
      rw [handle, createTask, op]
      cases Policy.assertTaskAllowed card app.bundle with
      | ok u => exact callStore_snd _ _
      | error e => cases e <;> rfl
  | claim taskId body =>
      rw [handle, claim, op]
      cases enforceNasWorker principal body.ownerRole body.workerId with
      | none => exact callStore_snd _ _
      | some denied => rfl
  | heartbeat taskId body =>
      rw [handle, heartbeat, op]
      cases enforceNasWorker principal "hermes_nas" body.workerId with
      | none => exact callStore_snd _ _
      | some denied => rfl
  | receipts taskId receipt =>
      rw [handle, receipts, op]
      cases enforceNasWorker principal "hermes_nas" receipt.workerInstance with
      | none =>
          by_cases hid : receipt.taskId = taskId
          · dsimp only
            rw [if_neg (not_not.mpr hid), if_pos ⟨rfl, hid⟩]
            exact callStore_snd _ _
          · dsimp only
            rw [if_pos hid, if_neg fun h => hid h.2]
            rfl
      | some denied => rfl
  | reportFailure taskId report recoveryId =>
      rw [handle, reportFailure, op]
      cases enforceNasWorker principal "hermes_nas" report.workerInstance with
      | none =>
          by_cases hid : report.taskId = taskId
          · dsimp only
            rw [if_neg (not_not.mpr hid), if_pos ⟨rfl, hid⟩]
            exact callStore_snd _ _
          · dsimp only
            rw [if_pos hid, if_neg fun h => hid h.2]
            rfl
      | some denied => rfl
  | approvalRequest taskId body approvalId =>
      rw [handle, approvalRequest, op]
      split
      · exact callStore_snd _ _
      · rfl

/-- The state after a request. -/
lemma next_http (call : HttpCall) :
    app.http.next call db = (app.passed call).elim db fun x =>
      (app.op x.1 x.2).elim db fun o => store.next ⟨o, call.now⟩ db := by
  have hnext : app.http.next call db = (app.respond call.files call.request call.now db).2 := rfl
  rw [hnext, respond, passed]
  cases app.authorize call.files call.request with
  | error denied => rfl
  | ok principal =>
      cases call.request.endpoint with
      | none => rfl
      | some e => exact handle_snd e

/-- The answer to a request that passes the middleware. -/
lemma out_http {call : HttpCall} {e : Endpoint} (h : app.passed call = some (principal, e)) :
    app.http.out call db = (app.handle principal call.now db e).1 := by
  have hout : app.http.out call db = (app.respond call.files call.request call.now db).1 := rfl
  rw [passed] at h
  rw [hout, respond]
  cases hauth : app.authorize call.files call.request with
  | error denied =>
      rw [hauth] at h
      exact absurd h (by simp)
  | ok p =>
      rw [hauth] at h
      obtain ⟨e', he, hpair⟩ := Option.map_eq_some_iff.mp h
      obtain ⟨rfl, rfl⟩ := Prod.mk.inj hpair
      rw [he]

end App

/-! ### The messages of the workers -/

/-- The message of a worker is accepted of the task: its claim, heartbeat,
receipt or failure report. -/
def Op.Reaches (now : Timestamp) (s : Tables) (row : TaskRow) : Op → Prop
  | .claim taskId _ _ mins => taskId = row.taskId ∧ IntervalMins mins ∧ claimable now s row = true
  | .heartbeat taskId worker mins =>
      taskId = row.taskId ∧ IntervalMins mins ∧ renewable worker now row = true
  | .submitReceipt receipt => receipt.taskId = row.taskId ∧
      row.ownerInstance = some receipt.workerInstance ∧ row.status.IsExecution
  | .reportFailure report recoveryId => report.taskId = row.taskId ∧ Admitted report row ∧
      (requiresRecovery report.failureClass report.sideEffectState = true →
        s.recoveryCards.get? recoveryId = none)
  | _ => False

instance (now : Timestamp) (s : Tables) (row : TaskRow) : DecidablePred (Op.Reaches now s row)
  | .claim .. | .heartbeat .. | .submitReceipt _ => inferInstanceAs (Decidable (_ ∧ _ ∧ _))
  | .reportFailure .. => inferInstanceAs (Decidable (_ ∧ _ ∧ (_ → _)))
  | .createTask _ | .expireLeases _ | .releaseDueRetries | .requestApproval _
  | .decideApproval .. | .transition .. => isFalse id

/-- The operation is the message of a worker. -/
def Op.IsMessage : Op → Prop
  | .claim .. | .heartbeat .. | .submitReceipt _ | .reportFailure .. => True
  | _ => False

/-- The role that a claim names. -/
def Op.claimedRole : Op → Option String
  | .claim _ role _ _ => some role
  | _ => none

/-- The rows of tasks in a reply to the message of a worker. -/
def Reply.messageRows : Reply → List TaskRow
  | .claimed (some r) => [r]
  | .row r => [r]
  | _ => []

section

variable {db : Db} {call : Call} {t : UUID} {row : TaskRow}

variable (call) in
/-- A message that moves a task reaches it. -/
lemma reaches_of_moved (hmessage : call.op.IsMessage)
    (hmoved : (store.next call db).tables.agentTasks.get? t ≠ db.tables.agentTasks.get? t) :
    ∃ row, db.tables.agentTasks.get? t = some row ∧ call.op.Reaches call.now db.tables row := by
  obtain ⟨op, now⟩ := call
  obtain ⟨r, hout⟩ : ∃ r, store.out ⟨op, now⟩ db = r := ⟨_, rfl⟩
  have heff := effect_of_out rfl hout
  dsimp only at heff
  generalize (store.next ⟨op, now⟩ db).tables = s' at heff hmoved
  have hkey : ∀ {t' : UUID} {f : TaskRow → TaskRow} (hf : ∀ r, (f r).taskId = r.taskId),
      (db.tables.agentTasks.updateKey t' f hf).get? t ≠ db.tables.agentTasks.get? t → t = t' := by
    intro t' f hf hne
    by_contra hother
    rw [Table.get?_updateKey, if_neg hother] at hne
    exact hne rfl
  cases heff with
  | failed | notClaimed | heartbeatRejected | receiptRejected => exact absurd rfl hmoved
  | created | existing | swept | released | approvalRequested | approvalDecided | transitioned =>
      exact absurd hmessage id
  | claimed taskId role worker mins row eventId hrow hclaim =>
      obtain rfl := hkey (claimedRow_taskId _ _ _ _) hmoved
      have hid : row.taskId = t := Table.key_of_get? hrow
      have hmins := (intervalMins_of_succeeded (by rw [hout]; rfl)).1 _ _ _ _ rfl
      exact ⟨row, hrow, hid.symm, hmins, hclaim⟩
  | renewed taskId worker mins row hrow hrenew =>
      obtain rfl := hkey (renewedRow_taskId _ _) hmoved
      have hid : row.taskId = t := Table.key_of_get? hrow
      have hmins := (intervalMins_of_succeeded (by rw [hout]; rfl)).2 _ _ _ rfl
      exact ⟨row, hrow, hid.symm, hmins, hrenew⟩
  | receiptAccepted receipt task receiptId evs hrow hown hexec =>
      obtain rfl := hkey (movedRow_taskId _) hmoved
      have hid : task.taskId = receipt.taskId := Table.key_of_get? hrow
      exact ⟨task, hrow, hid.symm, hown, hexec⟩
  | recovery report recoveryId task e₁ e₂ hrow hadm hrec hfresh =>
      obtain rfl := hkey (movedRow_taskId _) hmoved
      have hid : task.taskId = report.taskId := Table.key_of_get? hrow
      exact ⟨task, hrow, hid.symm, hadm, fun _ => hfresh⟩
  | retryScheduled report recoveryId task _ _ _ hrow hadm hknown =>
      obtain rfl := hkey (retriedRow_taskId _ _ _) hmoved
      have hid : task.taskId = report.taskId := Table.key_of_get? hrow
      exact ⟨task, hrow, hid.symm, hadm, fun hrec => absurd (hrec.symm.trans hknown) (by simp)⟩
  | deadLettered report recoveryId task _ _ _ _ hrow hadm hknown
  | stopped report recoveryId task _ _ _ hrow hadm hknown =>
      obtain rfl := hkey (movedRow_taskId _) hmoved
      have hid : task.taskId = report.taskId := Table.key_of_get? hrow
      exact ⟨task, hrow, hid.symm, hadm, fun hrec => absurd (hrec.symm.trans hknown) (by simp)⟩

variable (call) in
/-- The rows in the reply to a message are those of the tasks that it reaches. -/
lemma reaches_of_out {reply : Reply} (hmessage : call.op.IsMessage)
    (hout : store.out call db = .ok reply) {row' : TaskRow} (hrow' : row' ∈ reply.messageRows) :
    ∃ row, db.tables.agentTasks.get? row'.taskId = some row ∧
      call.op.Reaches call.now db.tables row ∧ row'.card = row.card := by
  obtain ⟨op, now⟩ := call
  have heff := effect_of_out rfl hout
  dsimp only at heff
  generalize (store.next ⟨op, now⟩ db).tables = s' at heff
  cases heff with
  | created | existing | swept | released | approvalRequested | approvalDecided | transitioned =>
      exact absurd hmessage id
  | notClaimed | recovery | retryScheduled | deadLettered | stopped =>
      exact absurd hrow' List.not_mem_nil
  | claimed taskId role worker mins row eventId hrow hclaim =>
      obtain rfl := List.mem_singleton.mp hrow'
      have hid : row.taskId = taskId := Table.key_of_get? hrow
      have hmins := (intervalMins_of_succeeded (by rw [hout]; rfl)).1 _ _ _ _ rfl
      refine ⟨row, ?_, ⟨hid.symm, hmins, hclaim⟩, rfl⟩
      rw [claimedRow_taskId, hid, hrow]
  | renewed taskId worker mins row hrow hrenew =>
      obtain rfl := List.mem_singleton.mp hrow'
      have hid : row.taskId = taskId := Table.key_of_get? hrow
      have hmins := (intervalMins_of_succeeded (by rw [hout]; rfl)).2 _ _ _ rfl
      refine ⟨row, ?_, ⟨hid.symm, hmins, hrenew⟩, rfl⟩
      rw [renewedRow_taskId, hid, hrow]
  | receiptAccepted receipt task receiptId evs hrow hown hexec =>
      obtain rfl := List.mem_singleton.mp hrow'
      have hid : task.taskId = receipt.taskId := Table.key_of_get? hrow
      refine ⟨task, ?_, ⟨hid.symm, hown, hexec⟩, (SameCard.movedRow _ task).card⟩
      rw [receiptRow, movedRow_taskId, hid, hrow]

end

/-! ### The role of a row -/

/-- The `owner_role` column of each task repeats the role of its card. -/
def Tables.RolesAgree (s : Tables) : Prop :=
  ∀ row ∈ s.agentTasks.rows, row.ownerRole = row.card.ownerRole.value

instance (s : Tables) : Decidable s.RolesAgree := inferInstanceAs (Decidable (∀ row ∈ _, _))

lemma movedRow_ownerRole (target : TaskStatus) (row : TaskRow) :
    (movedRow target row).ownerRole = row.ownerRole := by
  rw [movedRow]
  split <;> rfl

/-- Only claims write the `owner_role` column of a task that exists. -/
lemma TaskStep.ownerRole {now : Timestamp} {t : UUID} {v v' : TaskView} {op : Op} {row : TaskRow}
    (h : TaskStep now t v op v') (hrow : v.row = some row) :
    (∃ role worker mins, op = .claim t role worker mins) ∨
      ∃ row', v'.row = some row' ∧ row'.ownerRole = row.ownerRole := by
  cases h with
  | created card route hid hnone => exact absurd (hrow.symm.trans hnone) (by simp)
  | claimed role worker mins => exact Or.inl ⟨role, worker, mins, rfl⟩
  | heartbeatRejected | receiptRejected => exact Or.inr ⟨row, hrow, rfl⟩
  | renewed _ _ r hr | swept _ r hr | released r hr =>
      obtain rfl : row = r := Option.some.inj (hrow.symm.trans hr)
      exact Or.inr ⟨_, rfl, rfl⟩
  | recovery _ _ r _ hr | deadLettered _ _ r _ _ _ hr | stopped _ _ r _ _ hr
  | receiptAccepted _ r _ _ _ hr | approvalRequested _ r _ hr | transitioned _ _ r hr =>
      obtain rfl : row = r := Option.some.inj (hrow.symm.trans hr)
      exact Or.inr ⟨_, rfl, movedRow_ownerRole _ row⟩
  | retryScheduled _ _ r _ _ hr =>
      obtain rfl : row = r := Option.some.inj (hrow.symm.trans hr)
      exact Or.inr ⟨_, rfl, movedRow_ownerRole _ row⟩
  | approvalDecided _ _ _ _ _ _ r _ _ _ _ hr =>
      obtain rfl : row = r := Option.some.inj (hrow.symm.trans hr)
      exact Or.inr ⟨_, rfl, movedRow_ownerRole _ row⟩

/-- The roles still agree after a call, when its claim names the role of the
card. -/
lemma Tables.RolesAgree.next {db : Db} {call : Call} (h : db.tables.RolesAgree)
    (hclaim : ∀ role ∈ call.op.claimedRole, ∀ row ∈ db.tables.agentTasks.rows,
      call.op.Reaches call.now db.tables row → role = row.card.ownerRole.value) :
    (store.next call db).tables.RolesAgree := by
  intro row' hmem
  have hrow' := Table.get?_of_mem hmem
  rcases view_next call db row'.taskId with hview | hstep
  · have hrow : db.tables.agentTasks.get? row'.taskId = some row' :=
      (congrArg TaskView.row hview).symm.trans hrow'
    exact h row' (Table.mem_of_get? hrow)
  · cases hold : db.tables.agentTasks.get? row'.taskId with
    | none =>
        rcases hstep.sameCard with ⟨card, route, -, -, -, hnew⟩ | ⟨row, -, hrow, -⟩
        · obtain rfl : row' = newTask card route call.now :=
            Option.some.inj (hrow'.symm.trans hnew)
          rfl
        · exact absurd (hold.symm.trans hrow) (by simp)
    | some row =>
        obtain ⟨row'', hrow'', hsame⟩ := sameCard_next call hold
        obtain rfl : row' = row'' := Option.some.inj (hrow'.symm.trans hrow'')
        rw [hsame.card]
        rcases hstep.ownerRole hold with ⟨role, worker, mins, hop⟩ | ⟨row'', hrow'', hrole⟩
        · by_cases hmoved : (store.next call db).tables.agentTasks.get? row'.taskId
            = db.tables.agentTasks.get? row'.taskId
          · obtain rfl : row' = row := Option.some.inj (hrow'.symm.trans (hmoved.trans hold))
            exact h row' (Table.mem_of_get? hold)
          · have hmessage : call.op.IsMessage := by
              rw [hop]
              trivial
            obtain ⟨row₁, hrow₁, hreach⟩ := reaches_of_moved call hmessage hmoved
            obtain rfl : row = row₁ := Option.some.inj (hold.symm.trans hrow₁)
            have hrole : role = row.card.ownerRole.value :=
              hclaim role (by rw [hop]; rfl) row (Table.mem_of_get? hold) hreach
            obtain ⟨role', mins', row₂, hop', hrow₂, -, hnext⟩ :=
              (claims_of_moved hmoved hop).spec
            obtain ⟨-, rfl, -, rfl⟩ := Op.claim.inj (hop.symm.trans hop')
            rw [Option.some.inj (hrow'.symm.trans hnext), ← hrole]
            rfl
        · obtain rfl : row' = row'' := Option.some.inj (hrow'.symm.trans hrow'')
          exact hrole.trans (h row (Table.mem_of_get? hold))

/-! ### The requests of the NAS worker -/

namespace App

variable {app : App} {principal : Principal} {call : HttpCall} {db : Db} {e : Endpoint}

lemma passed_eq_some (h : app.passed call = some (principal, e)) :
    app.authorize call.files call.request = .ok principal ∧ call.request.endpoint = some e := by
  rw [passed] at h
  cases hauth : app.authorize call.files call.request with
  | error denied =>
      rw [hauth] at h
      exact absurd h (by simp)
  | ok p =>
      rw [hauth] at h
      obtain ⟨e', he, hpair⟩ := Option.map_eq_some_iff.mp h
      obtain ⟨rfl, rfl⟩ := Prod.mk.inj hpair
      exact ⟨rfl, he⟩

/-- The NAS worker is authorized for one of its scopes. -/
lemma scope_of_nas {files : Files} {request : Request}
    (h : app.authorize files request = .ok principal) (hnas : principal.NasWorker) :
    ∃ scope ∈ nasScopes, requiredScope request.method request.urlPath = some scope := by
  have hdevelopment : principal ≠ development := by
    rintro rfl
    exact absurd hnas.1 (by decide)
  rw [authorize] at h
  cases hscope : requiredScope request.method request.urlPath with
  | none =>
      rw [hscope] at h
      exact absurd (Except.ok.inj h).symm hdevelopment
  | some scope =>
      rw [hscope] at h
      dsimp only at h
      refine ⟨scope, ?_, rfl⟩
      cases hauth : app.auth.authenticate files request.authorization scope with
      | error err =>
          rw [hauth] at h
          cases err <;> exact absurd h (by simp)
      | ok p =>
          rw [hauth] at h
          obtain rfl := Except.ok.inj h
          cases henabled : app.auth.enabled with
          | false =>
              have hdisabled : app.auth.authenticate files request.authorization scope
                  = .ok development := by
                rw [TokenAuthorizer.authenticate.eq_def, henabled, Bool.not_false, if_pos rfl]
              exact absurd (Except.ok.inj (hauth.symm.trans hdisabled)) hdevelopment
          | true => exact hnas.scope (TokenAuthorizer.authenticate_eq_ok henabled hauth).2

/-- The request is plain if it is one of the NAS worker. -/
def NasPlain (app : App) (call : HttpCall) : Prop :=
  ∀ principal, app.authorize call.files call.request = .ok principal → principal.NasWorker →
    call.request.Plain

/-- **What the NAS worker can reach** by plain requests: the read of a task and the messages
of workers. -/
lemma openToNas_of_passed (h : app.passed call = some (principal, e))
    (hplain : app.NasPlain call) (hnas : principal.NasWorker) : e.OpenToNas := by
  obtain ⟨hauth, he⟩ := passed_eq_some h
  obtain ⟨scope, hmem, hscope⟩ := scope_of_nas hauth hnas
  rw [hplain principal hauth hnas] at hscope
  rcases requiredScope_route (call.request.route e he) with hmeant | ⟨-, -, stray, hstray, heq⟩
  · have hspec : (⟨"svc-hermes-nas", "hermes_nas", "HARNESS_NAS_WORKER_TOKEN_FILE", nasScopes⟩
        : PrincipalSpec) ∈ principalSpecs := List.mem_cons_of_mem _ List.mem_cons_self
    rcases (Endpoint.mem_scopes_iff (hmeant.symm.trans hscope) hspec).mp hmem
      with ⟨-, hopen⟩ | ⟨hrole, -⟩
    · exact hopen
    · exact absurd hrole (by simp)
  · obtain rfl := Option.some.inj (hscope.symm.trans heq)
    have hnone : ∀ scope ∈ strayScopes, scope ∉ nasScopes := by decide
    exact absurd hmem (hnone scope hstray)

lemma isMessage_of_openToNas {o : Op} (hopen : e.OpenToNas) (hop : app.op principal e = some o) :
    o.IsMessage := by
  cases e with
  | getTask taskId => exact absurd hop (by simp [op])
  | claim taskId body | heartbeat taskId body | receipts taskId receipt
  | reportFailure taskId report recoveryId =>
      rw [op] at hop
      split at hop
      · obtain rfl := Option.some.inj hop
        trivial
      · exact absurd hop (by simp)
  | _ => exact absurd hopen id

/-- A claim that the NAS worker makes names its role. -/
lemma claimedRole_of_nas {o : Op} (hnas : principal.NasWorker) (hopen : e.OpenToNas)
    (hop : app.op principal e = some o) {role : String} (hrole : role ∈ o.claimedRole) :
    role = "hermes_nas" := by
  cases e with
  | getTask taskId => exact absurd hop (by simp [op])
  | heartbeat taskId body | receipts taskId receipt | reportFailure taskId report recoveryId =>
      rw [op] at hop
      split at hop
      · obtain rfl := Option.some.inj hop
        exact absurd hrole (by simp [Op.claimedRole])
      · exact absurd hop (by simp)
  | claim taskId body =>
      rw [op] at hop
      split at hop
      · rename_i hnone
        obtain rfl := Option.some.inj hop
        obtain rfl := Option.some.inj hrole
        by_contra hne
        rw [enforceNasWorker, if_neg (not_not.mpr hnas.1), if_pos (by simp [hne])] at hnone
        exact absurd hnone (by simp)
      · exact absurd hop (by simp)
  | _ => exact absurd hopen id

end App

/-! ### The rows that the NAS worker receives -/

namespace App

variable {app : App} {principal : Principal} {now : Timestamp} {db : Db} {e : Endpoint}

/-- A read returns the row of the task, and to the NAS worker only one whose
column has its role. -/
lemma rows_getTask {taskId : UUID} {row : TaskRow} (hnas : principal.NasWorker)
    (h : row ∈ (getTask principal taskId db).rows) :
    db.tables.agentTasks.get? taskId = some row ∧ row.ownerRole = "hermes_nas" := by
  rw [getTask] at h
  cases hrow : db.tables.agentTasks.get? taskId with
  | none =>
      rw [hrow] at h
      exact absurd h List.not_mem_nil
  | some task =>
      rw [hrow] at h
      dsimp only at h
      by_cases hrole : task.ownerRole = "hermes_nas"
      · rw [enforceNasTaskAccess, if_neg (by simp [hrole])] at h
        obtain rfl := List.mem_singleton.mp h
        exact ⟨rfl, hrole⟩
      · rw [enforceNasTaskAccess, if_pos (by simp [hrole, hnas.1])] at h
        exact absurd h List.not_mem_nil

lemma rows_enforceNasWorker {ownerRole workerId : String} {denied : Response} {row : TaskRow}
    (h : enforceNasWorker principal ownerRole workerId = some denied) : row ∉ denied.rows := by
  rw [enforceNasWorker] at h
  split at h
  · exact absurd h (by simp)
  · split at h
    · obtain rfl := Option.some.inj h
      exact List.not_mem_nil
    · exact absurd h (by simp)

lemma messageRows_of_rowView {reply : Reply} {row : TaskRow} (h : row ∈ (rowView reply).rows) :
    row ∈ reply.messageRows := by
  cases reply with
  | row r => exact h
  | _ => exact absurd h List.not_mem_nil

/-- The rows in the answer to the message of a worker are those in the reply of
the store. -/
lemma rows_message {row : TaskRow} (hopen : e.OpenToNas)
    (h : row ∈ (app.handle principal now db e).1.rows) :
    (∃ taskId, e = .getTask taskId) ∨ ∃ o reply, app.op principal e = some o ∧
      store.out ⟨o, now⟩ db = .ok reply ∧ row ∈ reply.messageRows := by
  cases e with
  | getTask taskId => exact Or.inl ⟨taskId, rfl⟩
  | claim taskId body =>
      rw [handle, claim] at h
      cases hnone : enforceNasWorker principal body.ownerRole body.workerId with
      | some denied =>
          rw [hnone] at h
          exact absurd h (rows_enforceNasWorker hnone)
      | none =>
          rw [hnone] at h
          obtain ⟨reply, hout, hmem⟩ := rows_callStore h
          refine Or.inr ⟨_, reply, by rw [op, hnone]; rfl, hout, ?_⟩
          split at hmem
          · exact hmem
          · exact absurd hmem List.not_mem_nil
  | heartbeat taskId body =>
      rw [handle, heartbeat] at h
      cases hnone : enforceNasWorker principal "hermes_nas" body.workerId with
      | some denied =>
          rw [hnone] at h
          exact absurd h (rows_enforceNasWorker hnone)
      | none =>
          rw [hnone] at h
          obtain ⟨reply, hout, hmem⟩ := rows_callStore h
          exact Or.inr ⟨_, reply, by rw [op, hnone]; rfl, hout, messageRows_of_rowView hmem⟩
  | receipts taskId receipt =>
      rw [handle, receipts] at h
      cases hnone : enforceNasWorker principal "hermes_nas" receipt.workerInstance with
      | some denied =>
          rw [hnone] at h
          exact absurd h (rows_enforceNasWorker hnone)
      | none =>
          rw [hnone] at h
          dsimp only at h
          split at h
          · exact absurd h List.not_mem_nil
          · rename_i hid
            obtain ⟨reply, hout, hmem⟩ := rows_callStore h
            refine Or.inr ⟨_, reply, ?_, hout, messageRows_of_rowView hmem⟩
            rw [op, hnone, if_pos ⟨rfl, not_not.mp hid⟩]
  | reportFailure taskId report recoveryId =>
      rw [handle, reportFailure] at h
      cases hnone : enforceNasWorker principal "hermes_nas" report.workerInstance with
      | some denied =>
          rw [hnone] at h
          exact absurd h (rows_enforceNasWorker hnone)
      | none =>
          rw [hnone] at h
          dsimp only at h
          split at h
          · exact absurd h List.not_mem_nil
          · obtain ⟨reply, -, hmem⟩ := rows_callStore h
            split at hmem <;> exact absurd hmem List.not_mem_nil
  | _ => exact absurd hopen id

end App

/-! ### The roles along a run -/

/-- A step of the surface. -/
abbrev HttpStep := Machine.Occ Db HttpCall Response

namespace App

/-- The message of a worker is accepted where it should be: a claim names the
role of the task that it takes, and the NAS worker is not the owner of a task of
another role that its message is accepted of. -/
def Confined (app : App) (db : Db) (call : HttpCall) : Prop :=
  ∀ x ∈ app.passed call, ∀ o ∈ app.op x.1 x.2, ∀ row ∈ db.tables.agentTasks.rows,
    o.Reaches call.now db.tables row →
      (∀ role ∈ o.claimedRole, role = row.card.ownerRole.value) ∧
        (x.1.NasWorker → row.card.ownerRole = .hermesNas)

instance (app : App) (db : Db) (call : HttpCall) : Decidable (app.Confined db call) :=
  inferInstanceAs (Decidable (∀ x ∈ _, _))

/-- The step keeps the tasks of other roles from the NAS worker: a request of
it changes no such row and receives none. -/
def KeepsOthers (app : App) (o : HttpStep) : Prop :=
  ∀ principal, app.authorize o.input.files o.input.request = .ok principal →
    principal.NasWorker →
      (∀ t row, o.before.tables.agentTasks.get? t = some row → row.card.ownerRole ≠ .hermesNas →
        o.after.tables.agentTasks.get? t = some row) ∧
      ∀ row ∈ o.output.rows, row.card.ownerRole = .hermesNas

/-- **The confinement of roles** along a run: in every state reached the roles of
the rows are those of the cards, and every step keeps the tasks of other roles
from the NAS worker. -/
structure RoleConfined (app : App) (calls : List HttpCall) : Prop where
  roles : ∀ pre post, calls = pre ++ post → (app.http.exec Db.init pre).tables.RolesAgree
  others : ∀ o ∈ app.http.occs Db.init calls, app.KeepsOthers o

variable {app : App} {call : HttpCall} {db : Db}

lemma Confined.rolesAgree (h : app.Confined db call) (hroles : db.tables.RolesAgree) :
    (app.http.next call db).tables.RolesAgree := by
  rw [next_http]
  cases hpassed : app.passed call with
  | none => exact hroles
  | some x =>
      obtain ⟨principal, e⟩ := x
      rw [Option.elim_some]
      dsimp only
      cases hop : app.op principal e with
      | none => exact hroles
      | some o =>
          refine hroles.next fun role hrole row hmem hreach => ?_
          exact (h _ hpassed o hop row hmem hreach).1 role hrole

lemma Confined.keepsOthers (h : app.Confined db call) (hplain : app.NasPlain call)
    (hroles : db.tables.RolesAgree) : app.KeepsOthers (app.http.occ db call) := by
  intro principal hauth hnas
  have hauth' : app.authorize call.files call.request = .ok principal := hauth
  cases he : call.request.endpoint with
  | none =>
      have hstep : app.respond call.files call.request call.now db = (.unprocessable, db) := by
        rw [respond, hauth', he]
      constructor
      · intro t row hrow _
        have hafter : (app.http.occ db call).after
            = (app.respond call.files call.request call.now db).2 := rfl
        rw [hafter, hstep]
        exact hrow
      · intro row hrow
        have hout : (app.http.occ db call).output
            = (app.respond call.files call.request call.now db).1 := rfl
        rw [hout, hstep] at hrow
        exact absurd hrow List.not_mem_nil
  | some e =>
      have hpassed : app.passed call = some (principal, e) := by
        rw [passed, hauth', he]
        rfl
      have hopen := openToNas_of_passed hpassed hplain hnas
      constructor
      · intro t row hrow hforeign
        have hafter : (app.http.occ db call).after = app.http.next call db := rfl
        rw [hafter, next_http, hpassed, Option.elim_some]
        dsimp only
        cases hop : app.op principal e with
        | none => exact hrow
        | some o =>
            by_contra hchanged
            have hmoved : (store.next ⟨o, call.now⟩ db).tables.agentTasks.get? t
                ≠ db.tables.agentTasks.get? t := fun hsame => hchanged (hsame.trans hrow)
            obtain ⟨row', hrow', hreach⟩ :=
              reaches_of_moved ⟨o, call.now⟩ (isMessage_of_openToNas hopen hop) hmoved
            obtain rfl : row = row' := Option.some.inj (hrow.symm.trans hrow')
            exact hforeign ((h _ hpassed o hop row (Table.mem_of_get? hrow) hreach).2 hnas)
      · intro row hrow
        have hout : (app.http.occ db call).output = app.http.out call db := rfl
        rw [hout, out_http hpassed] at hrow
        rcases rows_message hopen hrow with ⟨taskId, rfl⟩ | ⟨o, reply, hop, hreply, hmem⟩
        · obtain ⟨hget, hrole⟩ := rows_getTask hnas hrow
          have hvalue := (hroles row (Table.mem_of_get? hget)).symm.trans hrole
          cases hcard : row.card.ownerRole with
          | hermesNas => rfl
          | hermesLocal =>
              rw [hcard] at hvalue
              exact absurd hvalue (by decide)
        · obtain ⟨row', hrow', hreach, hcard⟩ :=
            reaches_of_out ⟨o, call.now⟩ (isMessage_of_openToNas hopen hop) hreply hmem
          rw [hcard]
          exact (h _ hpassed o hop row' (Table.mem_of_get? hrow') hreach).2 hnas

end App

/-! ### The condition is needed -/

namespace App

variable {app : App} {call : HttpCall} {db : Db}

lemma hermesNas_of_value {role : ExecutorRole} (h : role.value = "hermes_nas") :
    role = .hermesNas := by
  cases role with
  | hermesNas => rfl
  | hermesLocal => exact absurd h (by decide)

/-- A report that is accepted takes its task out of execution. -/
lemma reported_moves {report : FailureReportV1} {recoveryId : UUID} {row : TaskRow}
    {now : Timestamp} (hmem : row ∈ db.tables.agentTasks.rows)
    (hreach : (Op.reportFailure report recoveryId).Reaches now db.tables row) :
    (store.next ⟨.reportFailure report recoveryId, now⟩ db).tables.agentTasks.get? row.taskId
      ≠ some row := by
  obtain ⟨hid, hadm, hfresh⟩ := hreach
  have hrow : db.tables.agentTasks.get? report.taskId = some row := by
    rw [hid]
    exact Table.get?_of_mem hmem
  intro hsame
  rw [← hid] at hsame
  cases hrec : requiresRecovery report.failureClass report.sideEffectState with
  | true =>
      obtain ⟨d, hout⟩ := reportFailure_recovery now hrow hadm hrec (hfresh hrec)
      have hreports : Reports db ⟨.reportFailure report recoveryId, now⟩ report :=
        ⟨⟨recoveryId, rfl⟩, d, hout⟩
      obtain ⟨row', -, -, hnext⟩ := hreports.recovery hrec
      have hstatus : row.status = .recoveryRequired := by
        rw [Option.some.inj (hsame.symm.trans hnext), movedRow_status]
      rcases hadm.execution with h | h <;> exact absurd (h.symm.trans hstatus) (by decide)
  | false =>
      obtain ⟨d, hout⟩ := reportFailure_accepted recoveryId now hrow hadm hrec
      have hreports : Reports db ⟨.reportFailure report recoveryId, now⟩ report :=
        ⟨⟨recoveryId, rfl⟩, d, hout⟩
      obtain ⟨row', hnext, hstatus⟩ := hreports.known hrec
      obtain rfl : row = row' := Option.some.inj (hsame.symm.trans hnext)
      rcases hadm.execution with h | h <;> rw [h] at hstatus <;> exact absurd hstatus (by decide)

lemma confined_of_kept (hplain : app.NasPlain call)
    (hroles : (app.http.next call db).tables.RolesAgree)
    (hkeeps : app.KeepsOthers (app.http.occ db call)) : app.Confined db call := by
  rintro ⟨principal, e⟩ hpassed o hop row hmem hreach
  have hafter : app.http.next call db = store.next ⟨o, call.now⟩ db := by
    rw [next_http, Option.mem_def.mp hpassed, Option.elim_some, Option.mem_def.mp hop]
    rfl
  have hget := Table.get?_of_mem hmem
  have hrole : ∀ role ∈ o.claimedRole, role = row.card.ownerRole.value := by
    intro role hrole
    cases o with
    | claim taskId role' worker mins =>
        obtain rfl : role' = role := Option.some.inj hrole
        obtain ⟨rfl, hmins, hclaim⟩ := hreach
        have hout := claim_accepted call.now role' worker hmins hget hclaim
        have hclaims : Claims db ⟨.claim row.taskId role' worker mins, call.now⟩ row.taskId
            worker := ⟨⟨role', mins, rfl⟩, _, hout⟩
        obtain ⟨role'', mins', row', hop', hrow', -, hnext⟩ := hclaims.spec
        obtain ⟨-, rfl, -, rfl⟩ := Op.claim.inj hop'
        obtain rfl : row = row' := Option.some.inj (hget.symm.trans hrow')
        rw [hafter] at hroles
        exact hroles _ (Table.mem_of_get? hnext)
    | _ => exact absurd hrole (by simp [Op.claimedRole])
  refine ⟨hrole, fun hnas => ?_⟩
  obtain ⟨hauth, -⟩ := passed_eq_some hpassed
  obtain ⟨hsame, hrows⟩ := hkeeps principal hauth hnas
  have hopen := openToNas_of_passed hpassed hplain hnas
  have hout : (app.http.occ db call).output = (app.handle principal call.now db e).1 :=
    out_http hpassed
  rw [hout] at hrows
  cases e with
  | getTask taskId => exact absurd hop (by simp [op])
  | claim taskId body =>
      have hnamed : ∀ role ∈ o.claimedRole, role = "hermes_nas" :=
        fun role => claimedRole_of_nas hnas hopen hop
      rw [op] at hop
      split at hop
      · obtain rfl := Option.some.inj hop
        exact hermesNas_of_value ((hrole _ rfl).symm.trans (hnamed _ rfl))
      · exact absurd hop (by simp)
  | heartbeat taskId body =>
      rw [op] at hop
      split at hop
      · rename_i hnone
        obtain rfl := Option.some.inj hop
        obtain ⟨rfl, hmins, hrenew⟩ := hreach
        rw [handle, heartbeat, Option.isNone_iff_eq_none.mp hnone] at hrows
        dsimp only at hrows
        rw [callStore_ok rowView (heartbeat_accepted call.now hmins hget hrenew)] at hrows
        exact hrows (renewedRow (minutes body.leaseMinutes) call.now row)
          (List.mem_singleton_self _)
      · exact absurd hop (by simp)
  | receipts taskId receipt =>
      rw [op] at hop
      split at hop
      · rename_i hnone
        obtain rfl := Option.some.inj hop
        obtain ⟨hid, hown, hexec⟩ := hreach
        have hrow : db.tables.agentTasks.get? receipt.taskId = some row := by
          rw [hid]
          exact hget
        obtain ⟨row', haccepted⟩ := submitReceipt_accepted call.now hrow hown hexec
        obtain ⟨row'', hrow'', ⟨hid', -⟩, hcard⟩ :=
          reaches_of_out ⟨.submitReceipt receipt, call.now⟩ trivial haccepted
            (List.mem_singleton_self row')
        have hkey : row''.taskId = row'.taskId := Table.key_of_get? hrow''
        obtain rfl : row = row'' := by
          rw [← hkey, ← hid', hrow] at hrow''
          exact Option.some.inj hrow''
        rw [← hcard]
        rw [handle, receipts, Option.isNone_iff_eq_none.mp hnone.1] at hrows
        dsimp only at hrows
        rw [if_neg (not_not.mpr hnone.2), callStore_ok rowView haccepted] at hrows
        exact hrows row' (List.mem_singleton_self row')
      · exact absurd hop (by simp)
  | reportFailure taskId report recoveryId =>
      by_contra hforeign
      have hnext := hsame row.taskId row hget hforeign
      rw [op] at hop
      split at hop
      · obtain rfl := Option.some.inj hop
        exact reported_moves hmem hreach (hafter ▸ hnext)
      · exact absurd hop (by simp)
  | _ => exact absurd hopen id

end App

/-- **Role confinement, exactly**: along a run of the surface in which the requests of the NAS
worker are plain, the roles of the rows are those of the cards and the NAS worker neither
changes nor receives the row of a task of another role, if and only if every step is
confined. -/
theorem role_confinement (app : App) (calls : List HttpCall)
    (hplain : ∀ call ∈ calls, app.NasPlain call) :
    app.RoleConfined calls ↔ app.http.Along app.Confined Db.init calls := by
  constructor
  · intro h pre call post hcalls
    refine App.confined_of_kept (hplain call (by rw [hcalls]; simp)) ?_ (h.others _ ?_)
    · rw [← Machine.exec_concat]
      refine h.roles _ post ?_
      rw [hcalls, List.append_assoc]
      rfl
    · rw [hcalls, Machine.occs_append, Machine.occs_cons]
      exact List.mem_append_right _ List.mem_cons_self
  · intro h
    have hroles : ∀ pre post, calls = pre ++ post →
        (app.http.exec Db.init pre).tables.RolesAgree := by
      rintro pre post rfl
      have hpre := (Machine.along_append.mp h).1
      refine hpre.invariant (P := fun db : Db => db.tables.RolesAgree) ?_ ?_
      · intro row hrow
        exact absurd hrow List.not_mem_nil
      · intro db call hconf hroles
        exact hconf.rolesAgree hroles
    refine ⟨hroles, fun o ho => ?_⟩
    obtain ⟨pre, call, post, hcalls, rfl⟩ := app.http.mem_occs ho
    exact (h pre call post hcalls).keepsOthers (hplain call (by rw [hcalls]; simp))
      (hroles pre (call :: post) hcalls)

/-! ### A claim of a task of another role -/

/-- Token files of the two principals. -/
def pilotFiles : Files := fun path =>
  if path = "/run/secrets/orchestrator" then .text "orchestrator-token-0123456789abcdef"
  else if path = "/run/secrets/nas" then .text "nas-worker-token-0123456789abcdef"
  else .osError

/-- An environment that configures both. -/
def pilotEnv : String → Option String
  | "HARNESS_AUTH_REQUIRED" => some "1"
  | "HARNESS_ORCHESTRATOR_TOKEN_FILE" => some "/run/secrets/orchestrator"
  | "HARNESS_NAS_WORKER_TOKEN_FILE" => some "/run/secrets/nas"
  | _ => none

/-- The surface with the authorizer of that environment. -/
def pilot : App where
  auth := (TokenAuthorizer.fromEnvironment pilotEnv pilotFiles).toOption.getD ⟨[], false⟩
  bundle := Policy.bundle
  rendering := sampleRendering

/-- The orchestrator creates a task. -/
def createRequest (card : TaskCardV1) : Request where
  method := "POST"
  path := "/v1/tasks"
  urlPath := "/v1/tasks"
  authorization := some "Bearer orchestrator-token-0123456789abcdef"
  endpoint := some (.createTask card)
  route := by
    intro e he
    obtain rfl := Option.some.inj he
    exact ⟨rfl, rfl⟩

/-- The NAS worker claims the task. -/
def claimRequest (body : ClaimRequest) : Request where
  method := "POST"
  path := "/v1/tasks/00000000-0000-0000-0000-000000000001/claim"
  urlPath := "/v1/tasks/00000000-0000-0000-0000-000000000001/claim"
  authorization := some "Bearer nas-worker-token-0123456789abcdef"
  endpoint := some (.claim ⟨1⟩ body)
  route := by
    intro e he
    obtain rfl := Option.some.inj he
    exact ⟨rfl, "00000000-0000-0000-0000-000000000001", by decide, by decide, by decide⟩

/-- The NAS worker claims a task of the local role as its own. -/
def foreignClaimRun : List HttpCall :=
  [⟨createRequest sampleCard, pilotFiles, 0⟩,
    ⟨claimRequest { ownerRole := "hermes_nas", workerId := "svc-hermes-nas:a" }, pilotFiles, 0⟩]

/-- Roles are not confined: by its claim the NAS worker changes a task of another
role, receives it, and makes it one of its own. -/
theorem not_role_confined :
    ¬ ∀ (app : App) (calls : List HttpCall), app.auth.enabled = true → app.RoleConfined calls := by
  intro h
  have hroles := (h pilot foreignClaimRun (by decide +kernel)).roles foreignClaimRun [] rfl
  revert hroles
  decide +kernel

/-- The claim of a task of its own role is confined. -/
theorem role_confinement_own : pilot.RoleConfined
    [⟨createRequest monitorCard, pilotFiles, 0⟩,
      ⟨claimRequest { ownerRole := "hermes_nas", workerId := "svc-hermes-nas:a" }, pilotFiles,
        0⟩] :=
  (role_confinement pilot _ fun call hcall _ _ _ => by
    rcases List.mem_pair.mp hcall with rfl | rfl <;> rfl).mpr (by decide +kernel)

end ControlHarness

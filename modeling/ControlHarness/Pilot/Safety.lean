import ControlHarness.Authority
import ControlHarness.Lifecycle.Redelivery
import ControlHarness.Pilot.Access

/-!
The tenure of the pilot: what holds of its task and of the worker's place in its
program, in every interleaving with the requests of others, with restarts and
with lost requests and answers.

* `Tenure`: the worker has claimed its task at most once; once it has, nobody
  else owns the task, which is in execution for the worker or at rest; and the
  task has at most one receipt.
* `Stage`: what the worker may rely on at each point of its program.
* `TaskStep.tenure`, `Stage.next`: what a request of somebody else leaves of
  both; `Stage.answer` what a call of the worker leads to.
* `pilot_safety`: the two hold in every run, and a run that ends with the exit
  code of success has left the one receipt of the worker.

Others may repeat what the worker itself does, so a request of an earlier
incarnation may arrive at any later time.
-/

namespace ControlHarness

open Store Text

/-! ### The tenure of a task -/

/-- The event is a claim by the worker. -/
def HarnessEvent.claimedBy (worker : String) : HarnessEvent → Bool
  | .taskClaimed w _ => w = worker
  | _ => false

namespace NasWatcher

variable (w : NasWatcher)

/-- The operation does nothing in the name of the worker on its task that the
worker does not do: it claims for its role only, submits receipts of a completed
task only, and reports no failure. -/
def Tolerates : Op → Prop
  | .claim taskId role worker _ => taskId = w.taskId → worker = w.workerId → role = "hermes_nas"
  | .submitReceipt receipt => receipt.taskId = w.taskId → receipt.workerInstance = w.workerId →
      receipt.outcome = .completed
  | .reportFailure report _ => report.taskId = w.taskId → report.workerInstance ≠ w.workerId
  | _ => True

/-- The claims of the worker in the log of a task. -/
def claims (v : TaskView) : ℕ := v.log.countP (HarnessEvent.claimedBy w.workerId)

/-- The task is the worker's: in execution for it, or at rest. -/
def Keeps (v : TaskView) : Prop :=
  ∃ row, v.row = some row ∧ row.ownerInstance = some w.workerId ∧ row.ownerRole = "hermes_nas" ∧
    (row.status.IsExecution ∨ row.status ∈ restingStatuses)

/-- The task is not the worker's. -/
def Strange (v : TaskView) : Prop :=
  ∀ row, v.row = some row → row.ownerInstance ≠ some w.workerId

/-- The tenure of the worker. -/
structure Tenure (v : TaskView) : Prop where
  owner : w.claims v = 0 ∧ w.Strange v ∨ w.claims v = 1 ∧ w.Keeps v
  receipts : v.receipts = [] ∨ ∃ r, v.receipts = [r] ∧ Resting v ∧
    (r.workerInstance = w.workerId → r.outcome = .completed)

variable {w} {v v' : TaskView} {row row' : TaskRow} {now : Timestamp} {t : UUID} {op : Op}

lemma Keeps.not_strange (h : w.Keeps v) : ¬ w.Strange v := by
  obtain ⟨row, hrow, hown, -⟩ := h
  exact fun hstrange => hstrange row hrow hown

lemma Tenure.keeps (h : w.Tenure v) (hrow : v.row = some row)
    (hown : row.ownerInstance = some w.workerId) : w.Keeps v := by
  rcases h.owner with ⟨-, hstrange⟩ | ⟨-, hkeeps⟩
  · exact absurd hown (hstrange row hrow)
  · exact hkeeps

/-- A step that is no claim and leaves the owner of a task alone. -/
lemma owner_carried (h : w.claims v = 0 ∧ w.Strange v ∨ w.claims v = 1 ∧ w.Keeps v)
    (hrow : v.row = some row) (hrow' : v'.row = some row')
    (hown : row'.ownerInstance = row.ownerInstance) (hrole : row'.ownerRole = row.ownerRole)
    (hstatus : row.status.IsExecution ∨ row.status ∈ restingStatuses →
      row'.status.IsExecution ∨ row'.status ∈ restingStatuses)
    {es : List HarnessEvent} (hlog : v'.log = v.log ++ es)
    (hes : es.countP (HarnessEvent.claimedBy w.workerId) = 0) :
    w.claims v' = 0 ∧ w.Strange v' ∨ w.claims v' = 1 ∧ w.Keeps v' := by
  have hclaims : w.claims v' = w.claims v := by
    rw [claims, hlog, List.countP_append, hes, Nat.add_zero, claims]
  rw [hclaims]
  refine h.imp ?_ ?_
  · rintro ⟨hzero, hstrange⟩
    refine ⟨hzero, fun r hr => ?_⟩
    obtain rfl := Option.some.inj (hrow'.symm.trans hr)
    rw [hown]
    exact hstrange row hrow
  · rintro ⟨hone, r, hr, hrown, hrrole, hrstatus⟩
    obtain rfl := Option.some.inj (hrow.symm.trans hr)
    exact ⟨hone, row', hrow', hown.trans hrown, hrole.trans hrrole, hstatus hrstatus⟩

/-- A step that is no claim and brings a task to rest. -/
lemma owner_moved (h : w.claims v = 0 ∧ w.Strange v ∨ w.claims v = 1 ∧ w.Keeps v)
    {target : TaskStatus} (hrow : v.row = some row) (hrow' : v'.row = some (movedRow target row))
    (htarget : target ∈ restingStatuses) {es : List HarnessEvent} (hlog : v'.log = v.log ++ es)
    (hes : es.countP (HarnessEvent.claimedBy w.workerId) = 0) :
    w.claims v' = 0 ∧ w.Strange v' ∨ w.claims v' = 1 ∧ w.Keeps v' :=
  owner_carried h hrow hrow' (movedRow_ownerInstance target row) (movedRow_ownerRole target row)
    (fun _ => Or.inr (by rw [movedRow_status]; exact htarget)) hlog hes

/-- A step that is no claim, of a task that is not the worker's, after which it is
not the worker's either. -/
lemma owner_strange (h : w.claims v = 0 ∧ w.Strange v ∨ w.claims v = 1 ∧ w.Keeps v)
    (hnot : ¬ w.Keeps v) (hstrange : w.Strange v')
    {es : List HarnessEvent} (hlog : v'.log = v.log ++ es)
    (hes : es.countP (HarnessEvent.claimedBy w.workerId) = 0) :
    w.claims v' = 0 ∧ w.Strange v' ∨ w.claims v' = 1 ∧ w.Keeps v' := by
  rcases h with ⟨hzero, -⟩ | ⟨-, hkeeps⟩
  · refine Or.inl ⟨?_, hstrange⟩
    rw [claims, hlog, List.countP_append, hes, Nat.add_zero]
    exact hzero
  · exact absurd hkeeps hnot

end NasWatcher

/-- **A step keeps the tenure** of the worker, as long as the worker tolerates it. -/
theorem TaskStep.tenure {w : NasWatcher} {now : Timestamp} {v v' : TaskView} {op : Op}
    (hhttp : op.Http) (htolerated : w.Tolerates op) (h : TaskStep now w.taskId v op v')
    (hv : w.Tenure v) : w.Tenure v' := by
  have hrest := h.resting hhttp
  have howner := hv.owner
  -- all but an accepted receipt leave the receipts alone
  have hreceipts : v'.receipts = v.receipts → v'.receipts = [] ∨ ∃ r, v'.receipts = [r] ∧
      Resting v' ∧ (r.workerInstance = w.workerId → r.outcome = .completed) := by
    intro hsame
    rw [hsame]
    exact hv.receipts.imp_right fun ⟨r, hr, hresting, hmine⟩ => ⟨r, hr, hrest hresting, hmine⟩
  have hgone : ∀ {row : TaskRow}, v.row = some row → ¬ (row.status.IsExecution ∨
      row.status ∈ restingStatuses) → ¬ w.Keeps v := by
    rintro row hrow hno ⟨r, hr, -, -, hstatus⟩
    obtain rfl := Option.some.inj (hrow.symm.trans hr)
    exact hno hstatus
  cases h with
  | created card route hid hrow =>
      refine ⟨NasWatcher.owner_strange howner ?_ ?_ rfl rfl, hreceipts rfl⟩
      · rintro ⟨r, hr, -⟩
        exact absurd (hr.symm.trans hrow) (by simp)
      · intro r hr
        obtain rfl := Option.some.inj hr
        exact Option.some_ne_none _ |>.symm
  | claimed role worker mins row hrow hready =>
      refine ⟨?_, hreceipts rfl⟩
      rcases howner with ⟨hzero, -⟩ | ⟨-, hkeeps⟩
      · by_cases hworker : worker = w.workerId
        · obtain rfl : role = "hermes_nas" := htolerated rfl hworker
          refine Or.inr ⟨?_, _, rfl, congrArg some hworker, rfl, Or.inl (Or.inl rfl)⟩
          rw [NasWatcher.claims, TaskView.write, List.countP_append, ← NasWatcher.claims, hzero]
          simp [HarnessEvent.claimedBy, hworker]
        · refine Or.inl ⟨?_, fun r hr => ?_⟩
          · rw [NasWatcher.claims, TaskView.write, List.countP_append, ← NasWatcher.claims, hzero]
            simp [HarnessEvent.claimedBy, hworker]
          · obtain rfl := Option.some.inj hr
            exact fun hsame => hworker (Option.some.inj hsame)
      · refine absurd hkeeps (hgone hrow ?_)
        rw [hready]
        decide
  | renewed worker mins row hrow hrenew =>
      exact ⟨NasWatcher.owner_carried howner hrow rfl rfl rfl id rfl rfl, hreceipts rfl⟩
  | heartbeatRejected worker mins row hrow | receiptRejected receipt row hid hrow =>
      exact ⟨NasWatcher.owner_carried howner hrow hrow rfl rfl id rfl rfl, hreceipts rfl⟩
  | swept ids row hrow hexp =>
      have hmem : (sweptRow row).status ∈ restingStatuses := by simp [sweptRow, restingStatuses]
      exact ⟨NasWatcher.owner_carried howner hrow rfl rfl rfl (fun _ => Or.inr hmem) rfl rfl,
        hreceipts rfl⟩
  | recovery report id row hid hrow hadm =>
      exact ⟨NasWatcher.owner_moved howner hrow rfl (by decide) rfl rfl, hreceipts rfl⟩
  | retryScheduled report id row delay hid hrow hadm =>
      -- the one report after which a task may come back to a worker
      have hother : ∀ r, some (retriedRow (now + seconds delay) report.failureClass row.circuitKey
          row) = some r → r.ownerInstance ≠ some w.workerId := by
        intro r hr
        obtain rfl := Option.some.inj hr
        rw [retriedRow, scheduledRow, movedRow_ownerInstance, hadm.owner]
        exact fun hsame => htolerated hid (Option.some.inj hsame)
      refine ⟨NasWatcher.owner_strange howner ?_ hother rfl rfl, hreceipts rfl⟩
      rintro ⟨r, hr, hown, -⟩
      obtain rfl := Option.some.inj (hrow.symm.trans hr)
      exact htolerated hid (Option.some.inj (hadm.owner.symm.trans hown))
  | deadLettered report id row letterId reason hid hrow hadm =>
      exact ⟨NasWatcher.owner_moved howner hrow rfl (by decide) rfl rfl, hreceipts rfl⟩
  | stopped report id row target hid hrow hadm hrec hstop =>
      refine ⟨NasWatcher.owner_moved howner hrow rfl ?_ rfl rfl, hreceipts rfl⟩
      rcases hstop with ⟨-, rfl⟩ | ⟨-, rfl⟩ <;> decide
  | released row hrow hwait =>
      refine ⟨NasWatcher.owner_strange howner (hgone hrow ?_) ?_ rfl rfl, hreceipts rfl⟩
      · rw [hwait]
        decide
      · intro r hr
        obtain rfl := Option.some.inj hr
        exact Option.some_ne_none _ |>.symm
  | receiptAccepted receipt row receiptId closing hid hrow hown hexec hclosing =>
      have hresting := receiptTarget_resting row receipt.outcome
      refine ⟨NasWatcher.owner_moved howner hrow rfl hresting rfl ?_, Or.inr ?_⟩
      · rw [List.countP_eq_zero]
        intro e he
        rcases List.mem_cons.mp he with rfl | he
        · exact Bool.false_ne_true
        · obtain ⟨key, rfl⟩ := hclosing e he
          exact Bool.false_ne_true
      · have hnone : v.receipts = [] := by
          refine hv.receipts.resolve_right ?_
          rintro ⟨r, -, ⟨row', hrow', hrest'⟩, -⟩
          obtain rfl := Option.some.inj (hrow.symm.trans hrow')
          exact not_isExecution_of_resting hrest' hexec
        refine ⟨_, by rw [hnone, List.nil_append], ⟨_, rfl, ?_⟩, htolerated hid⟩
        rw [receiptRow, movedRow_status]
        exact hresting
  | approvalRequested card row hid hrow hstatus =>
      exact ⟨NasWatcher.owner_moved howner hrow rfl (by decide) rfl rfl, hreceipts rfl⟩
  | approvalDecided id decision by_ reason d approval row hd happ hkey hopen hrow hstatus =>
      refine ⟨NasWatcher.owner_moved howner hrow rfl ?_ rfl rfl, hreceipts rfl⟩
      cases d <;> decide
  | transitioned => exact hhttp.elim

lemma TaskStep.receipts_prefix {now : Timestamp} {t : UUID} {v v' : TaskView} {op : Op}
    (h : TaskStep now t v op v') : v.receipts <+: v'.receipts := by
  cases h with
  | receiptAccepted => exact List.prefix_append _ _
  | _ => exact List.prefix_refl _

/-! ### What others may do -/

/-- The worker tolerates what the request does. -/
def NasWatcher.Allows (w : NasWatcher) (app : App) (call : HttpCall) : Prop :=
  ∀ p e o, app.passed call = some (p, e) → app.op p e = some o → w.Tolerates o

/-- The calls of the worker are tolerated themselves. -/
lemma ApiCall.allowed (w : NasWatcher) (app : App) (token : String) (x : Moment) (c : ApiCall) :
    w.Allows app (c.httpCall token x) := by
  intro p e o hpassed hop
  have he : c.endpoint x.now = some e := (App.passed_eq_some hpassed).2
  cases c with
  | claim taskId workerId leaseMinutes | heartbeat taskId workerId leaseMinutes =>
      obtain rfl := Option.some.inj he
      rw [App.op] at hop
      split at hop
      · obtain rfl := Option.some.inj hop
        first | exact fun _ _ => rfl | trivial
      · exact absurd hop (by simp)
  | getTask taskId =>
      obtain rfl := Option.some.inj he
      exact absurd hop (by simp [App.op])
  | submitReceipt taskId correlationId workerId summary =>
      rw [endpoint] at he
      split at he
      · obtain rfl := Option.some.inj he
        rw [App.op] at hop
        split at hop
        · obtain rfl := Option.some.inj hop
          exact fun _ _ => rfl
        · exact absurd hop (by simp)
      · exact absurd he (by simp)

/-! ### What the worker may rely on -/

namespace NasWatcher

variable (w : NasWatcher)

/-- The document is that of the worker's task, which it keeps. -/
def Held (v : TaskView) (task : TaskJson) : Prop :=
  w.Keeps v ∧ task.taskId = some w.taskId ∧
    ∃ row, v.row = some row ∧ task.correlationId = some row.correlationId

/-- The worker's receipt is on record, and is the only one of its task. -/
def Done (v : TaskView) : Prop :=
  ∃ r cycles, v.receipts = [r] ∧ r.workerInstance = w.workerId ∧ r.outcome = .completed ∧
    r.receipt.summary = strip isWhiteSpace (summary cycles) ∧
    ∃ row, v.row = some row ∧ r.receipt.correlationId = row.correlationId

/-- What holds of the task at each point of the program. -/
def Stage (v : TaskView) : Phase → Prop
  | .claiming | .resuming | .raised _ => True
  | .checking task _ | .beating task _ | .stamping task _ | .probing task _ _
  | .probingRuns task _ _ _ | .emitting task _ _ | .sleeping task _ => w.Held v task
  | .submitting taskId correlationId _ => taskId = w.taskId ∧ w.Keeps v ∧
      ∃ row, v.row = some row ∧ row.correlationId = correlationId
  | .finished _ => w.Done v

variable {w} {v v' : TaskView} {op : Op} {now : Timestamp} {s : Phase}

/-- What the worker keeps it keeps. -/
lemma Keeps.next (h : w.Keeps v) (ht : w.Tenure v) (ht' : w.Tenure v') (hlog : v.log <+: v'.log) :
    w.Keeps v' := by
  have hone : w.claims v = 1 :=
    (ht.owner.resolve_left fun hno => h.not_strange hno.2).1
  refine (ht'.owner.resolve_left ?_).2
  rintro ⟨hzero, -⟩
  have hle : w.claims v ≤ w.claims v' := hlog.sublist.countP_le
  omega

lemma correlation_next (h : TaskStep now w.taskId v op v') {correlationId : UUID}
    (hrow : ∃ row, v.row = some row ∧ row.correlationId = correlationId) :
    ∃ row, v'.row = some row ∧ row.correlationId = correlationId := by
  obtain ⟨row, hrow, hcorrelation⟩ := hrow
  rcases h.sameCard with ⟨card, route, -, -, hnone, -⟩ | ⟨r, row', hr, hrow', hsame⟩
  · exact absurd (hrow.symm.trans hnone) (by simp)
  · obtain rfl := Option.some.inj (hrow.symm.trans hr)
    exact ⟨row', hrow', hsame.correlationId.trans hcorrelation⟩

/-- **A step of the task leaves the worker what it relies on.** -/
lemma Stage.next (h : TaskStep now w.taskId v op v') (ht : w.Tenure v) (ht' : w.Tenure v')
    (hs : w.Stage v s) : w.Stage v' s := by
  have hheld : ∀ {task}, w.Held v task → w.Held v' task := by
    rintro task ⟨hkeeps, hid, row, hrow, hcorrelation⟩
    obtain ⟨row', hrow', hsame⟩ := correlation_next h ⟨row, hrow, rfl⟩
    exact ⟨hkeeps.next ht ht' h.log_prefix, hid, row', hrow', hsame ▸ hcorrelation⟩
  cases s with
  | claiming | resuming | raised => trivial
  | checking | beating | stamping | probing | probingRuns | emitting | sleeping =>
      exact hheld hs
  | submitting taskId correlationId cycles =>
      obtain ⟨hid, hkeeps, hrow⟩ := hs
      exact ⟨hid, hkeeps.next ht ht' h.log_prefix, correlation_next h hrow⟩
  | finished task =>
      obtain ⟨r, cycles, hr, hworker, houtcome, hsummary, row, hrow, hcorrelation⟩ := hs
      obtain ⟨row', hrow', hsame⟩ := correlation_next h ⟨row, hrow, rfl⟩
      refine ⟨r, cycles, ?_, hworker, houtcome, hsummary, row', hrow',
        hcorrelation.trans hsame.symm⟩
      obtain ⟨rest, hrest⟩ := h.receipts_prefix
      rw [hr] at hrest
      rcases ht'.receipts with hnone | ⟨r', hr', -⟩
      · rw [hnone] at hrest
        exact absurd hrest (by simp)
      · rw [hr'] at hrest ⊢
        exact congrArg (fun r => [r]) (List.cons.inj hrest).1.symm

end NasWatcher

/-! ### What the answers tell -/

lemma readResponse_eq_ok {path : String} {r : Response} {task : TaskJson}
    (h : readResponse path r = .ok task) :
    ∃ status body, r = .ok status body ∧ body.json = task := by
  cases r with
  | ok status body => exact ⟨status, body, rfl, Except.ok.inj h⟩
  | _ =>
      rw [readResponse] at h
      · split at h
        · exact absurd h (by simp)
        · split at h <;> exact absurd h (by simp)
      · simp

section

variable {app : App} {token : String} {x : Moment} {c : ApiCall} {db : Db} {task : TaskJson}

/-- The middleware answers with errors only. -/
lemma App.denied_ne_ok {files : Files} {request : Request} {denied : Response} {status : ℕ}
    {body : Body} (h : app.authorize files request = .error denied) :
    denied ≠ .ok status body := by
  rw [App.authorize] at h
  split at h
  · exact absurd h (by simp)
  · split at h
    · exact absurd h (by simp)
    all_goals
      obtain rfl := Except.error.inj h
      simp

/-- An answer that is accepted is one of a handler. -/
lemma App.answered (h : (app.callApi token x c db).1 = .ok task) :
    (app.callApi token x c db).2 = app.http.next (c.httpCall token x) db ∧
      ∃ p e status body, app.passed (c.httpCall token x) = some (p, e) ∧ c.endpoint x.now = some e ∧
        (app.handle p x.now db e).1 = .ok status body ∧ body.json = task := by
  rw [App.callApi] at h ⊢
  cases hdelivery : x.delivery with
  | requestLost | answerLost =>
      rw [hdelivery] at h
      exact absurd h (by simp)
  | delivered =>
      rw [hdelivery] at h
      refine ⟨rfl, ?_⟩
      obtain ⟨status, body, hout, hjson⟩ := readResponse_eq_ok h
      have hrespond : (app.respond x.files (c.request token x.now) x.now db).1 = .ok status body :=
        hout
      rw [App.respond] at hrespond
      cases hauth : app.authorize x.files (c.request token x.now) with
      | error denied =>
          rw [hauth] at hrespond
          exact absurd hrespond (App.denied_ne_ok hauth)
      | ok p =>
          rw [hauth] at hrespond
          cases he : c.endpoint x.now with
          | none =>
              rw [show (c.request token x.now).endpoint = c.endpoint x.now from rfl, he] at hrespond
              exact absurd hrespond (by simp)
          | some e =>
              rw [show (c.request token x.now).endpoint = c.endpoint x.now from rfl, he] at hrespond
              refine ⟨p, e, status, body, ?_, rfl, hrespond, hjson⟩
              rw [App.passed, show (c.httpCall token x).files = x.files from rfl,
                show (c.httpCall token x).request = c.request token x.now from rfl, hauth]
              exact congrArg (Option.map (p, ·)) he

/-- The answer of a call of the store. -/
lemma App.callStore_eq_ok {o : Op} {view : Reply → Response} {now : Timestamp} {status : ℕ}
    {body : Body} (h : (App.callStore o now view db).1 = .ok status body) :
    ∃ reply, store.out ⟨o, now⟩ db = .ok reply ∧ view reply = .ok status body := by
  cases hout : store.out ⟨o, now⟩ db with
  | ok reply =>
      rw [App.callStore_ok view hout] at h
      exact ⟨reply, rfl, h⟩
  | error e =>
      have hstep : (store.step ⟨o, now⟩ db).1 = .error e := hout
      rw [App.callStore, hstep] at h
      cases e <;> exact absurd h (by simp [App.toHttp])

/-- The state after a call that makes one call of the store. -/
lemma App.next_op {call : HttpCall} {p : Principal} {e : Endpoint} {o : Op}
    (hpassed : app.passed call = some (p, e)) (hop : app.op p e = some o) :
    app.http.next call db = store.next ⟨o, call.now⟩ db := by
  rw [App.next_http, hpassed, Option.elim_some, hop, Option.elim_some]

/-- The answer to a claim that takes the task is its row afterwards. -/
lemma claim_told {taskId : UUID} {role worker : String} {mins : ℤ} {now : Timestamp}
    {row : TaskRow} (h : store.out ⟨.claim taskId role worker mins, now⟩ db
      = .ok (.claimed (some row))) :
    (store.next ⟨.claim taskId role worker mins, now⟩ db).tables.agentTasks.get? taskId = some row ∧
      row.ownerInstance = some worker := by
  have heff := store_effect ⟨.claim taskId role worker mins, now⟩ db
  rw [h] at heff
  generalize (store.next ⟨.claim taskId role worker mins, now⟩ db).tables = s' at heff ⊢
  cases heff with
  | claimed _ _ _ _ before eventId hrow hclaim =>
      refine ⟨?_, rfl⟩
      rw [Table.get?_updateKey, if_pos rfl, hrow]
      rfl

variable {w : NasWatcher}

/-- What the tenure makes of a row of the worker. -/
lemma NasWatcher.Tenure.held (h : w.Tenure (db.tables.view w.taskId)) {row : TaskRow}
    (hrow : db.tables.agentTasks.get? w.taskId = some row)
    (hown : row.ownerInstance = some w.workerId) :
    w.Held (db.tables.view w.taskId) row.json :=
  ⟨h.keeps hrow hown, congrArg some (Table.key_of_get? hrow), row, hrow, rfl⟩

/-- After a claim that is answered the worker holds its task. -/
lemma held_of_claim
    (h : (app.callApi token x (.claim w.taskId w.workerId w.leaseMinutes) db).1 = .ok task)
    (ht : w.Tenure ((app.callApi token x (.claim w.taskId w.workerId w.leaseMinutes)
      db).2.tables.view w.taskId)) :
    w.Held ((app.callApi token x (.claim w.taskId w.workerId w.leaseMinutes)
      db).2.tables.view w.taskId) task := by
  obtain ⟨hnext, p, e, status, body, hpassed, he, hhandle, rfl⟩ := App.answered h
  obtain rfl := Option.some.inj he
  rw [hnext] at ht ⊢
  rw [App.handle, App.claim] at hhandle
  rw [enforceNasWorker_named w.namespaced] at hhandle
  obtain ⟨reply, hout, hview⟩ := App.callStore_eq_ok hhandle
  have hop : app.op p (.claim w.taskId ⟨"hermes_nas", w.workerId, w.leaseMinutes⟩)
      = some (.claim w.taskId "hermes_nas" w.workerId w.leaseMinutes) := by
    rw [App.op, enforceNasWorker_named w.namespaced]
    rfl
  rw [App.next_op hpassed hop] at ht ⊢
  cases reply with
  | claimed row =>
      cases row with
      | none => exact absurd hview (by simp)
      | some row =>
          obtain ⟨-, rfl⟩ := Response.ok.inj hview
          obtain ⟨hrow, hown⟩ := claim_told hout
          exact ht.held hrow hown
  | _ => exact absurd hview (by simp)

/-- A read that is answered shows the row. -/
lemma held_of_read (h : (app.callApi token x (.getTask w.taskId) db).1 = .ok task)
    (hresumes : w.resumes task = true)
    (ht : w.Tenure ((app.callApi token x (.getTask w.taskId) db).2.tables.view w.taskId)) :
    w.Held ((app.callApi token x (.getTask w.taskId) db).2.tables.view w.taskId) task := by
  obtain ⟨hnext, p, e, status, body, hpassed, he, hhandle, rfl⟩ := App.answered h
  obtain rfl := Option.some.inj he
  have hsame : app.http.next ((ApiCall.getTask w.taskId).httpCall token x) db = db := by
    rw [App.next_http, hpassed]
    rfl
  rw [hnext, hsame] at ht ⊢
  rw [App.handle, App.getTask] at hhandle
  cases hrow : db.tables.agentTasks.get? w.taskId with
  | none =>
      rw [hrow] at hhandle
      exact absurd hhandle (by simp [App.toHttp, taskNotFound])
  | some row =>
      rw [hrow] at hhandle
      dsimp only at hhandle
      rw [App.enforceNasTaskAccess] at hhandle
      split at hhandle
      · exact absurd hhandle (by simp)
      · obtain ⟨-, rfl⟩ := Response.ok.inj hhandle
        rw [NasWatcher.resumes, Bool.and_eq_true, decide_eq_true_eq] at hresumes
        exact ht.held hrow hresumes.1

/-- An accepted receipt is put on record. -/
lemma Receives.recorded {call : Call} {receipt : ResultReceiptV1} (h : Receives db call receipt) :
    ∃ receiptId, ((store.next call db).tables.view receipt.taskId).receipts
      = (db.tables.view receipt.taskId).receipts ++ [⟨receiptId, receipt.taskId,
        receipt.workerInstance, receipt.outcome, receipt, call.now⟩] := by
  obtain ⟨row, hrow, hown, hexec, -⟩ := h.spec
  obtain ⟨row', hrow', hrest⟩ := h.resting
  have hmoved : (store.next call db).tables.view receipt.taskId ≠ db.tables.view receipt.taskId ∧
      ∀ e, (store.next call db).tables.view receipt.taskId
        ≠ (db.tables.view receipt.taskId).note e := by
    have hno : some row ≠ some row' := fun hsame =>
      not_isExecution_of_resting hrest (Option.some.inj hsame ▸ hexec)
    have hrow₀ : (db.tables.view receipt.taskId).row = some row := hrow
    constructor
    · exact fun hsame => hno (hrow₀.symm.trans ((congrArg TaskView.row hsame).symm.trans hrow'))
    · exact fun e hsame => hno (hrow₀.symm.trans ((congrArg TaskView.row hsame).symm.trans hrow'))
  rcases view_next call db receipt.taskId with hsame | hstep
  · exact absurd hsame hmoved.1
  · rw [h.1] at hstep
    generalize (store.next call db).tables.view receipt.taskId = v' at hstep hmoved ⊢
    cases hstep with
    | receiptRejected => exact absurd rfl (hmoved.2 _)
    | receiptAccepted _ _ receiptId => exact ⟨receiptId, rfl⟩

/-- After its receipt is accepted the worker is done. -/
lemma Receives.done {call : Call} {receipt : ResultReceiptV1} {cycles : ℕ}
    (h : Receives db call receipt) (hid : receipt.taskId = w.taskId)
    (houtcome : receipt.outcome = .completed)
    (hsummary : receipt.summary = strip isWhiteSpace (NasWatcher.summary cycles))
    (hkeeps : w.Keeps (db.tables.view w.taskId))
    (hrow : ∃ row, (db.tables.view w.taskId).row = some row ∧
      row.correlationId = receipt.correlationId)
    (ht : w.Tenure ((store.next call db).tables.view w.taskId)) :
    w.Done ((store.next call db).tables.view w.taskId) := by
  obtain ⟨receiptId, hrecorded⟩ := h.recorded
  obtain ⟨row₀, hrow₀, hown₀, -, hafter⟩ := h.spec
  rw [hid] at hrecorded hrow₀ hafter
  obtain ⟨row₁, hrow₁, hown₁, -⟩ := hkeeps
  obtain ⟨row₂, hrow₂, hcorrelation⟩ := hrow
  obtain rfl : row₀ = row₁ := Option.some.inj (hrow₀.symm.trans hrow₁)
  obtain rfl : row₀ = row₂ := Option.some.inj (hrow₀.symm.trans hrow₂)
  refine ⟨⟨receiptId, w.taskId, receipt.workerInstance, receipt.outcome, receipt, call.now⟩, cycles,
    ?_, Option.some.inj (hown₀.symm.trans hown₁), houtcome, hsummary, _, hafter, ?_⟩
  · -- one receipt is all a task has
    rcases ht.receipts with hnone | ⟨r, hr, -⟩
    · exact absurd (hrecorded.symm.trans hnone) (by simp)
    · have hlength := congrArg List.length (hrecorded.symm.trans hr)
      rw [List.length_append, List.length_singleton, List.length_singleton] at hlength
      rw [List.eq_nil_of_length_eq_zero (Nat.add_right_cancel hlength), List.nil_append]
        at hrecorded
      exact hrecorded
  · rw [receiptRow, (SameCard.movedRow _ _).correlationId]
    exact hcorrelation.symm

/-- After a receipt that is answered the worker is done. -/
lemma done_of_receipt {correlationId : UUID} {cycles : ℕ}
    (h : (app.callApi token x (.submitReceipt w.taskId correlationId w.workerId
      (NasWatcher.summary cycles)) db).1 = .ok task)
    (hkeeps : w.Keeps (db.tables.view w.taskId))
    (hrow : ∃ row, (db.tables.view w.taskId).row = some row ∧ row.correlationId = correlationId)
    (ht : w.Tenure ((app.callApi token x (.submitReceipt w.taskId correlationId w.workerId
      (NasWatcher.summary cycles)) db).2.tables.view w.taskId)) :
    w.Done ((app.callApi token x (.submitReceipt w.taskId correlationId w.workerId
      (NasWatcher.summary cycles)) db).2.tables.view w.taskId) := by
  obtain ⟨hnext, p, e, status, body, hpassed, he, hhandle, -⟩ := App.answered h
  rw [ApiCall.endpoint] at he
  split at he
  swap
  · exact absurd he (by simp)
  rename_i hfits
  obtain rfl := Option.some.inj he
  obtain ⟨receipt, hreceipt⟩ : ∃ r, r = ApiCall.receipt w.taskId correlationId hfits x.now :=
    ⟨_, rfl⟩
  have hworker : receipt.workerInstance = strip isWhiteSpace w.workerId := by rw [hreceipt]; rfl
  have hid : receipt.taskId = w.taskId := by rw [hreceipt]; rfl
  rw [← hreceipt] at hpassed hhandle
  have hname : App.enforceNasWorker p "hermes_nas" receipt.workerInstance = none := by
    rw [hworker]
    exact enforceNasWorker_named (startsWith_stripped w.namespaced)
  have hop : app.op p (.receipts w.taskId receipt) = some (.submitReceipt receipt) := by
    rw [App.op, hname]
    exact if_pos ⟨rfl, hid⟩
  rw [hnext, App.next_op hpassed hop] at ht ⊢
  rw [App.handle, App.receipts, hname] at hhandle
  dsimp only at hhandle
  rw [if_neg (not_not.mpr hid)] at hhandle
  obtain ⟨reply, hout, hview⟩ := App.callStore_eq_ok hhandle
  have hreceives : Receives db ⟨.submitReceipt receipt, x.now⟩ receipt := by
    refine ⟨rfl, ?_⟩
    cases reply with
    | row row => exact ⟨row, hout⟩
    | _ => exact absurd hview (by simp [App.rowView])
  refine hreceives.done hid (by rw [hreceipt]; rfl) (by rw [hreceipt]; rfl) hkeeps ?_ ht
  rw [hreceipt]
  exact hrow

end

/-! ### The run -/

section

variable {w : NasWatcher} {app : App} {token : String}

/-- A request that the worker tolerates keeps the tenure and the stage. -/
lemma NasWatcher.kept_http {call : HttpCall} {db : Db} {s : Phase} (hallows : w.Allows app call)
    (ht : w.Tenure (db.tables.view w.taskId)) (hs : w.Stage (db.tables.view w.taskId) s) :
    w.Tenure ((app.http.next call db).tables.view w.taskId) ∧
      w.Stage ((app.http.next call db).tables.view w.taskId) s := by
  rcases app.view_http call db w.taskId with hsame | ⟨p, e, o, hpassed, hop, hstep⟩
  · rw [hsame]
    exact ⟨ht, hs⟩
  · have ht' := hstep.tenure (App.http_of_op hop) (hallows p e o hpassed hop) ht
    exact ⟨ht', hs.next hstep ht ht'⟩

/-- So does a call of the worker, whatever becomes of it on the way. -/
lemma NasWatcher.kept_call {x : Moment} {c : ApiCall} {db : Db} {s : Phase}
    (ht : w.Tenure (db.tables.view w.taskId)) (hs : w.Stage (db.tables.view w.taskId) s) :
    w.Tenure ((app.callApi token x c db).2.tables.view w.taskId) ∧
      w.Stage ((app.callApi token x c db).2.tables.view w.taskId) s := by
  rw [App.callApi]
  cases x.delivery with
  | requestLost => exact ⟨ht, hs⟩
  | answerLost | delivered => exact NasWatcher.kept_http (c.allowed w app token x) ht hs

lemma NasWatcher.stage_submission {v : TaskView} {task : TaskJson} {cycles : ℕ}
    (h : w.Held v task) : w.Stage v (submission task cycles) := by
  obtain ⟨hkeeps, hid, row, hrow, hcorrelation⟩ := h
  rw [submission, hid, hcorrelation]
  exact ⟨rfl, hkeeps, row, hrow, rfl⟩

/-- **A step of the worker keeps the tenure and leads to a stage that holds.** -/
lemma NasWatcher.kept_own {x : Moment} {db : Db} {s : Phase} {q : Ask} {k : q.Answer → Phase}
    (hnext : w.process.next s = some ⟨q, k⟩) (ht : w.Tenure (db.tables.view w.taskId))
    (hs : w.Stage (db.tables.view w.taskId) s) :
    w.Tenure ((app.serve token x q db).2.tables.view w.taskId) ∧
      w.Stage ((app.serve token x q db).2.tables.view w.taskId)
        (k (app.serve token x q db).1) := by
  have hcall : ∀ c : ApiCall, w.Tenure ((app.callApi token x c db).2.tables.view w.taskId) ∧
      w.Stage ((app.callApi token x c db).2.tables.view w.taskId) s :=
    fun c => NasWatcher.kept_call ht hs
  cases s with
  | claiming =>
      cases hnext
      obtain ⟨ht', -⟩ := hcall (.claim w.taskId w.workerId w.leaseMinutes)
      refine ⟨ht', ?_⟩
      cases hanswer :
          (app.serve token x (.api (.claim w.taskId w.workerId w.leaseMinutes)) db).1 with
      | ok task => exact held_of_claim hanswer ht'
      | error e => cases e <;> trivial
  | resuming =>
      cases hnext
      obtain ⟨ht', -⟩ := hcall (.getTask w.taskId)
      refine ⟨ht', ?_⟩
      cases hanswer : (app.serve token x (.api (.getTask w.taskId)) db).1 with
      | ok task =>
          dsimp only
          split
          · rename_i hresumes
            exact held_of_read hanswer hresumes ht'
          · trivial
      | error e => trivial
  | checking task cycles =>
      cases hnext
      refine ⟨ht, ?_⟩
      dsimp only
      split
      · exact hs
      · exact NasWatcher.stage_submission hs
  | beating task cycles =>
      cases hnext
      obtain ⟨ht', hs'⟩ := hcall (.heartbeat w.taskId w.workerId w.leaseMinutes)
      refine ⟨ht', ?_⟩
      cases (app.serve token x (.api (.heartbeat w.taskId w.workerId w.leaseMinutes)) db).1 with
      | ok answer => exact hs'
      | error e => trivial
  | stamping task cycles =>
      cases hnext
      exact ⟨ht, hs⟩
  | probing task cycles timestamp =>
      cases hnext
      refine ⟨ht, ?_⟩
      cases (app.serve token x (.publicJson w.probe.commitUrl) db).1 with
      | ok commit => exact hs
      | error e => trivial
  | probingRuns task cycles timestamp commit =>
      cases hnext
      refine ⟨ht, ?_⟩
      cases (app.serve token x (.publicJson w.probe.runsUrl) db).1 with
      | ok runs =>
          dsimp only
          split
          · exact hs
          · trivial
      | error e => trivial
  | emitting task cycles report =>
      cases hnext
      refine ⟨ht, ?_⟩
      cases (app.serve token x (.emit report) db).1 with
      | ok u => exact hs
      | error e => trivial
  | sleeping task cycles =>
      cases hnext
      refine ⟨ht, ?_⟩
      cases (app.serve token x (.sleep w.intervalSeconds) db).1 with
      | ok u => exact hs
      | error e => trivial
  | submitting taskId correlationId cycles =>
      cases hnext
      obtain ⟨rfl, hkeeps, hrow⟩ := hs
      obtain ⟨ht', -⟩ := hcall (.submitReceipt w.taskId correlationId w.workerId
        (NasWatcher.summary cycles))
      refine ⟨ht', ?_⟩
      cases hanswer : (app.serve token x (.api (.submitReceipt w.taskId correlationId w.workerId
        (NasWatcher.summary cycles))) db).1 with
      | ok task => exact done_of_receipt hanswer hkeeps hrow ht'
      | error e => trivial
  | finished task | raised e => exact absurd hnext (by simp [NasWatcher.process])

/-- What the worker keeps it keeps under the requests of others. -/
lemma NasWatcher.keeps_http {call : HttpCall} {db : Db} (hallows : w.Allows app call)
    (ht : w.Tenure (db.tables.view w.taskId)) (h : w.Keeps (db.tables.view w.taskId)) :
    w.Keeps ((app.http.next call db).tables.view w.taskId) := by
  rcases app.view_http call db w.taskId with hsame | ⟨p, e, o, hpassed, hop, hstep⟩
  · rw [hsame]
    exact h
  · have ht' := hstep.tenure (App.http_of_op hop) (hallows p e o hpassed hop) ht
    exact h.next ht ht' hstep.log_prefix

/-- And under its own. -/
lemma NasWatcher.keeps_own {x : Moment} {db : Db} (q : Ask)
    (ht : w.Tenure (db.tables.view w.taskId)) (h : w.Keeps (db.tables.view w.taskId)) :
    w.Keeps ((app.serve token x q db).2.tables.view w.taskId) := by
  cases q with
  | api c =>
      rw [App.serve, App.callApi]
      cases x.delivery with
      | requestLost => exact h
      | answerLost | delivered => exact NasWatcher.keeps_http (c.allowed w app token x) ht h
  | _ => exact h

/-- Tenure and stage along a run. -/
lemma NasWatcher.kept_exec {σ : Phase × Db} {turns : List (Process.Turn HttpCall Moment)}
    (hothers : ∀ call, .other call ∈ turns → w.Allows app call)
    (ht : w.Tenure (σ.2.tables.view w.taskId)) (hs : w.Stage (σ.2.tables.view w.taskId) σ.1) :
    let σ' := (w.pilot token app).exec σ turns
    w.Tenure (σ'.2.tables.view w.taskId) ∧ w.Stage (σ'.2.tables.view w.taskId) σ'.1 ∧
      (w.Keeps (σ.2.tables.view w.taskId) → w.Keeps (σ'.2.tables.view w.taskId)) := by
  have halong : (w.pilot token app).Along (fun _ turn => turn ∈ turns) σ turns :=
    Machine.along_of_forall fun turn hturn => hturn
  refine Process.Along.beside (J := fun σ' : Phase × Db => w.Tenure (σ'.2.tables.view w.taskId) ∧
    w.Stage (σ'.2.tables.view w.taskId) σ'.1 ∧ (w.Keeps (σ.2.tables.view w.taskId) →
      w.Keeps (σ'.2.tables.view w.taskId))) halong ⟨ht, hs, id⟩ ?_ ?_ ?_
  · rintro s db call hcall ⟨ht, hs, hkeeps⟩
    obtain ⟨ht', hs'⟩ := NasWatcher.kept_http (hothers call hcall) ht hs
    exact ⟨ht', hs', fun h => NasWatcher.keeps_http (hothers call hcall) ht (hkeeps h)⟩
  · rintro s db x q k hnext - ⟨ht, hs, hkeeps⟩
    obtain ⟨ht', hs'⟩ := NasWatcher.kept_own hnext ht hs
    exact ⟨ht', hs', fun h => NasWatcher.keeps_own q ht (hkeeps h)⟩
  · rintro s db - ⟨ht, -, hkeeps⟩
    exact ⟨ht, trivial, hkeeps⟩

/-- Tenure and stage along a run from the start. -/
lemma NasWatcher.safe_exec {turns : List (Process.Turn HttpCall Moment)}
    (hothers : ∀ call, .other call ∈ turns → w.Allows app call) :
    let σ := (w.pilot token app).exec (.claiming, Db.init) turns
    w.Tenure (σ.2.tables.view w.taskId) ∧ w.Stage (σ.2.tables.view w.taskId) σ.1 := by
  have hinit : w.Tenure (Db.init.tables.view w.taskId) :=
    ⟨Or.inl ⟨rfl, fun row hrow => absurd hrow (by simp [Tables.view, Db.init, Tables.init])⟩,
      Or.inl rfl⟩
  obtain ⟨ht, hs, -⟩ := NasWatcher.kept_exec (σ := (.claiming, Db.init)) hothers hinit trivial
  exact ⟨ht, hs⟩

/-- **The pilot is safe**: in every interleaving of the worker, restarted at any
time and with requests and answers lost, with requests of others that it
tolerates, the worker claims its task at most once, owns it from then on, and the
task has at most one receipt; the worker relies on what holds; and where it ends
with the exit code of success, its receipt is on record. -/
theorem pilot_safety (w : NasWatcher) (app : App) (token : String)
    (turns more : List (Process.Turn HttpCall Moment))
    (hothers : ∀ call, .other call ∈ turns ++ more → w.Allows app call) :
    let σ := (w.pilot token app).exec (.claiming, Db.init) turns
    let σ' := (w.pilot token app).exec σ more
    w.Tenure (σ.2.tables.view w.taskId) ∧ w.Stage (σ.2.tables.view w.taskId) σ.1 ∧
      (σ.1.exitCode = some 0 → w.Done (σ.2.tables.view w.taskId)) ∧
      (w.Keeps (σ.2.tables.view w.taskId) → w.Keeps (σ'.2.tables.view w.taskId)) := by
  intro σ σ'
  obtain ⟨ht, hs⟩ := NasWatcher.safe_exec (w := w) fun call hcall =>
    hothers call (List.mem_append_left _ hcall)
  have hmore : ∀ call, .other call ∈ more → w.Allows app call :=
    fun call hcall => hothers call (List.mem_append_right _ hcall)
  obtain ⟨-, -, hkeeps⟩ := NasWatcher.kept_exec (σ := σ) hmore ht hs
  refine ⟨ht, hs, fun hexit => ?_, hkeeps⟩
  generalize σ.1 = s at hs hexit
  cases s with
  | finished task => exact hs
  | raised e => cases e <;> exact absurd hexit (by simp [Phase.exitCode])
  | _ => exact absurd hexit (by simp [Phase.exitCode])

end

/-! ### A session -/

/-- The creation of a task is tolerated. -/
lemma NasWatcher.allows_create (w : NasWatcher) (app : App) (card : TaskCardV1) (files : Files)
    (now : Timestamp) : w.Allows app ⟨createRequest card, files, now⟩ := by
  intro p e o hpassed hop
  obtain rfl : Endpoint.createTask card = e := Option.some.inj (App.passed_eq_some hpassed).2
  rw [App.op] at hop
  split at hop
  · obtain rfl := Option.some.inj hop
    trivial
  · exact absurd hop (by simp)

/-- The worker's task is created, and the worker runs until it submits, with one
cycle. -/
def sessionTurns : List (Process.Turn HttpCall Moment) :=
  .other ⟨createRequest monitorCard, pilotFiles, 0⟩ ::
    [1, 2, 3, 4, 5, 6, 7, 8, 100, 101].map fun n => .own (sampleMoment n)

/-- The session ends with the receipt on record. -/
theorem pilot_safety_session :
    let σ := (sampleWatcher.pilot sampleToken pilot).exec
      (.claiming, Db.init) sessionTurns
    sampleWatcher.Done (σ.2.tables.view ⟨1⟩) := by
  refine (pilot_safety sampleWatcher pilot sampleToken sessionTurns []
    ?_).2.2.1 (by decide +kernel)
  intro call hcall
  obtain rfl : call = ⟨createRequest monitorCard, pilotFiles, 0⟩ := by
    simpa [sessionTurns] using hcall
  exact NasWatcher.allows_create _ _ _ _ _

end ControlHarness

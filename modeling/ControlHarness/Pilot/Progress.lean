import ControlHarness.Answers
import ControlHarness.Pilot.Safety

/-!
The progress of the pilot: a worker that is started while its task waits for it,
or is in execution for it, comes to its end.

This needs surroundings in which nothing goes wrong at the worker's own turns, a
lease that is renewed in time, and others that neither claim the task nor act for
the worker on it, and make no request after the lease of the task has passed. Restarts
are allowed.

* `Healthy`: nothing goes wrong at a moment.
* `NasWatcher.Smooth`: the condition on a turn of the run.
* `OnCourse`: the invariant, where `Phase.rest` counts the steps of the worker
  that are left once the end of the pilot has passed.
* `pilot_finishes`: no run on such turns raises, and eight steps past the end of
  the pilot at most complete it.
-/

namespace ControlHarness

open Store Text

/-! ### The surroundings -/

/-- A document from which the commit can be read. -/
def IsCommit (doc : PublicJson) : Prop :=
  ∃ ms sha, doc.members = some ms ∧ member "sha" ms = some sha

/-- A document from which the latest run can be read. -/
def IsRuns (doc : PublicJson) : Prop :=
  ∃ ms run latest, doc.members = some ms ∧
    ((member "workflow_runs" ms).getD (.list [.dict []])).head = some run ∧
    run.members = some latest

/-- The probe makes its report of two such documents. -/
lemma collectChecks_isSome (repository : String) {commit runs : PublicJson}
    (hcommit : IsCommit commit) (hruns : IsRuns runs) :
    ∃ checks, collectChecks repository commit runs = some checks := by
  obtain ⟨head, sha, hhead, hsha⟩ := hcommit
  obtain ⟨listed, run, latest, hlisted, hrun, hlatest⟩ := hruns
  rw [collectChecks]
  simp only [Option.bind_eq_bind, hlisted, hrun, hlatest, hhead, hsha, Option.bind_some]
  exact ⟨_, rfl⟩

/-- Nothing goes wrong at the moment. -/
structure Healthy (w : NasWatcher) (auth : TokenAuthorizer) (token : String) (x : Moment) :
    Prop where
  recognised : Recognised auth x.files token
  delivered : x.delivery = .delivered
  commit : ∃ doc, x.published w.probe.commitUrl = .ok doc ∧ IsCommit doc
  runs : ∃ doc, x.published w.probe.runsUrl = .ok doc ∧ IsRuns doc
  printed : x.printed = .ok ()
  slept : x.slept = .ok ()

/-- The lease of a task in execution is not past. -/
def InTime (now : Timestamp) (v : TaskView) : Prop :=
  ∀ row, v.row = some row → row.status.IsExecution → row.leaseExpiresAt.any (now < ·) = true

/-- The number of cycles so far. -/
def Phase.cycles : Phase → ℕ
  | checking _ cycles | beating _ cycles | stamping _ cycles | probing _ cycles _
  | probingRuns _ cycles _ _ | emitting _ cycles _ | sleeping _ cycles
  | submitting _ _ cycles => cycles
  | claiming | resuming | finished _ | raised _ => 0

namespace NasWatcher

variable (w : NasWatcher)

/-- The operation does not take the task of the worker and does not act for the
worker on it. -/
def Spares : Op → Prop
  | .claim taskId _ _ _ => taskId ≠ w.taskId
  | .submitReceipt receipt => receipt.taskId = w.taskId → receipt.workerInstance ≠ w.workerId
  | .reportFailure report _ => report.taskId = w.taskId → report.workerInstance ≠ w.workerId
  | _ => True

lemma Spares.tolerates {w : NasWatcher} {op : Op} (h : w.Spares op) : w.Tolerates op := by
  cases op with
  | claim taskId role worker mins => exact fun hid => absurd hid h
  | submitReceipt receipt => exact fun hid hworker => absurd hworker (h hid)
  | _ => exact h

/-- The turn is one of a run in which nothing goes wrong: the requests of the others come
while the lease of the task lasts and leave the task to the worker; at its own turns the
worker is healthy, in time for its lease, and may claim the task if it waits; and it is
started again on a failure only. -/
def Smooth (app : App) (token : String) (σ : Phase × Db) :
    Process.Turn HttpCall Moment → Prop
  | .other call => InTime call.now (σ.2.tables.view w.taskId) ∧
      ∀ p e o, app.passed call = some (p, e) → app.op p e = some o → w.Spares o
  | .own x => Healthy w app.auth token x ∧ InTime x.now (σ.2.tables.view w.taskId) ∧
      (∀ row, σ.2.tables.agentTasks.get? w.taskId = some row → row.status = .ready →
        claimable x.now σ.2.tables row = true) ∧
      ApiCall.FitsReceipt w.workerId (summary σ.1.cycles)
  | .restart => σ.1.exitCode ≠ some 0

/-- The task is in execution for the worker. -/
def Runs (v : TaskView) : Prop :=
  ∃ row, v.row = some row ∧ row.ownerInstance = some w.workerId ∧ row.ownerRole = "hermes_nas" ∧
    row.status.IsExecution

/-- The task waits for a worker. -/
def Waits (v : TaskView) : Prop := ∃ row, v.row = some row ∧ row.status = .ready

/-- The worker is on its way to its end. -/
def OnCourse (v : TaskView) : Phase → Prop
  | .claiming => w.Runs v ∨ Waits v
  | .probingRuns _ _ _ commit => w.Runs v ∧ IsCommit commit
  | .raised _ => False
  | .finished _ => True
  | _ => w.Runs v

end NasWatcher

/-- The steps of the worker that are left once the end of the pilot has passed. -/
def Phase.rest : Phase → ℕ
  | claiming => 4
  | resuming => 3
  | checking _ _ => 2
  | beating _ _ => 8
  | stamping _ _ => 7
  | probing _ _ _ => 6
  | probingRuns _ _ _ _ => 5
  | emitting _ _ _ => 4
  | sleeping _ _ => 3
  | submitting _ _ _ => 1
  | finished _ | raised _ => 0

/-! ### The steps of the others -/

section

variable {w : NasWatcher} {v v' : TaskView} {now : Timestamp} {op : Op} {s : Phase}

/-- A task in execution for the worker stays so. -/
lemma TaskStep.runs (hhttp : op.Http) (hspares : w.Spares op) (htime : InTime now v)
    (h : TaskStep now w.taskId v op v') (hv : Orderly v) (hruns : w.Runs v) : w.Runs v' := by
  obtain ⟨row, hrow, hown, hrole, hexec⟩ := hruns
  have hsame : ∀ {r}, v.row = some r → r = row := fun hr => Option.some.inj (hr.symm.trans hrow)
  have hstatus : ∀ {target : TaskStatus}, row.status = target → ¬ target.IsExecution → False :=
    fun hs hno => hno (hs ▸ hexec)
  cases h with
  | created card route hid hnone => exact absurd (hrow.symm.trans hnone) (by simp)
  | claimed => exact absurd rfl hspares
  | renewed worker mins r hr hrenew =>
      obtain rfl := hsame hr
      exact ⟨_, rfl, hown, hrole, hexec⟩
  | heartbeatRejected | receiptRejected => exact ⟨row, hrow, hown, hrole, hexec⟩
  | swept ids r hr hexp =>
      obtain rfl := hsame hr
      have hlease := htime r hrow hexec
      simp only [expired, Bool.and_eq_true, Option.any_eq_true, decide_eq_true_eq] at hexp hlease
      obtain ⟨-, lease, hsome, hpast⟩ := hexp
      obtain ⟨lease', hsome', hfuture⟩ := hlease
      obtain rfl := Option.some.inj (hsome.symm.trans hsome')
      exact absurd hpast (not_lt.mpr hfuture.le)
  | recovery report id r hid hr hadm | retryScheduled report id r delay hid hr hadm
  | deadLettered report id r letterId reason hid hr hadm
  | stopped report id r target hid hr hadm =>
      obtain rfl := hsame hr
      exact absurd (Option.some.inj (hadm.owner.symm.trans hown)) (hspares hid)
  | released r hr hwait =>
      obtain rfl := hsame hr
      exact (hstatus hwait (by decide)).elim
  | receiptAccepted receipt r receiptId closing hid hr hrown =>
      obtain rfl := hsame hr
      exact absurd (Option.some.inj (hrown.symm.trans hown)) (hspares hid)
  | approvalRequested card r hid hr hreview =>
      obtain rfl := hsame hr
      exact (hstatus hreview (by decide)).elim
  | approvalDecided id decision by_ reason d approval r hd happ =>
      -- a task in execution has no approvals
      have hclear := (hv.clear hrow (Or.inr (Or.inl hexec))).1
      rw [hclear] at happ
      exact absurd happ List.not_mem_nil
  | transitioned => exact hhttp.elim

/-- A task that waits for a worker waits on. -/
lemma TaskStep.waits (hhttp : op.Http) (hspares : w.Spares op) (h : TaskStep now w.taskId v op v')
    (hwaits : NasWatcher.Waits v) : NasWatcher.Waits v' := by
  obtain ⟨row, hrow, hready⟩ := hwaits
  cases h.idle hrow (by rw [hready]; decide) with
  | noted => exact ⟨row, hrow, hready⟩
  | claimed => exact absurd rfl hspares
  | released _ hwait => exact absurd (hready.symm.trans hwait) (by decide)
  | approvalRequested _ _ hreview => exact absurd (hready.symm.trans hreview) (by decide)
  | approvalDecided _ _ _ _ d _ _ _ hstatus =>
      rw [hready] at hstatus
      cases d <;> exact absurd hstatus (by decide)
  | transitioned => exact hhttp.elim

/-- **A step of somebody else leaves the worker on its course.** -/
lemma NasWatcher.OnCourse.next (hhttp : op.Http) (hspares : w.Spares op) (htime : InTime now v)
    (h : TaskStep now w.taskId v op v') (hv : Orderly v) (hs : w.OnCourse v s) :
    w.OnCourse v' s := by
  have hruns := h.runs hhttp hspares htime hv
  cases s with
  | claiming => exact hs.imp hruns (h.waits hhttp hspares)
  | probingRuns => exact hs.imp_left hruns
  | finished | raised => exact hs
  | _ => exact hruns hs

end

/-! ### The calls of the worker -/

section

variable {w : NasWatcher} {app : App} {token : String} {x : Moment} {db : Db}

/-- A call at a healthy moment is answered by its handler. -/
lemma Healthy.callApi (h : Healthy w app.auth token x) (db : Db) {c : ApiCall} {e : Endpoint}
    (he : c.endpoint x.now = some e) :
    ∃ p : Principal, p.role = "hermes_nas" ∧ app.callApi token x c db
      = (readResponse c.path (app.handle p x.now db e).1, (app.handle p x.now db e).2) := by
  obtain ⟨p, hrole, hpassed⟩ := h.recognised.passed
  have hrespond : app.respond x.files (c.request token x.now) x.now db
      = app.handle p x.now db e := by
    rw [App.respond, (hpassed c).2]
    dsimp only
    rw [show (c.request token x.now).endpoint = c.endpoint x.now from rfl, he]
  refine ⟨p, hrole, ?_⟩
  rw [App.callApi, h.delivered, ← hrespond]
  rfl

/-- The claim of a worker on its course succeeds, or tells that the task is taken:
then it is in execution for the worker. -/
lemma claim_onCourse (h : Healthy w app.auth token x) (hmins : IntervalMins w.leaseMinutes)
    (hs : w.Runs (db.tables.view w.taskId) ∨ NasWatcher.Waits (db.tables.view w.taskId))
    (hclaim : ∀ row, db.tables.agentTasks.get? w.taskId = some row → row.status = .ready →
      claimable x.now db.tables row = true) :
    w.Runs ((app.callApi token x (.claim w.taskId w.workerId w.leaseMinutes)
        db).2.tables.view w.taskId) ∧
      ((∃ task, (app.callApi token x (.claim w.taskId w.workerId w.leaseMinutes) db).1 = .ok task) ∨
        (app.callApi token x (.claim w.taskId w.workerId w.leaseMinutes) db).1
          = .error .claimConflict) := by
  obtain ⟨p, -, hcall⟩ := h.callApi db (c := .claim w.taskId w.workerId w.leaseMinutes) rfl
  rw [hcall, App.handle, App.claim, enforceNasWorker_named w.namespaced]
  dsimp only
  rw [App.callStore_snd]
  rcases hs with ⟨row, hrow, hown, hrole, hexec⟩ | ⟨row, hrow, hready⟩
  · obtain ⟨hout, hsame⟩ :=
      claim_refused "hermes_nas" w.workerId x.now hmins hrow (hexec.ne (by decide))
    rw [App.callStore_ok _ hout, hsame]
    exact ⟨⟨row, hrow, hown, hrole, hexec⟩, Or.inr rfl⟩
  · have hout := claim_accepted x.now "hermes_nas" w.workerId hmins hrow (hclaim row hrow hready)
    obtain ⟨hrow', -⟩ := claim_told hout
    rw [App.callStore_ok _ hout]
    exact ⟨⟨_, hrow', rfl, rfl, Or.inl rfl⟩, Or.inl ⟨_, rfl⟩⟩

/-- The read of a task in execution for the worker lets it resume. -/
lemma read_onCourse (h : Healthy w app.auth token x) (hs : w.Runs (db.tables.view w.taskId)) :
    (app.callApi token x (.getTask w.taskId) db).2 = db ∧
      ∃ task, (app.callApi token x (.getTask w.taskId) db).1 = .ok task ∧
        w.resumes task = true := by
  obtain ⟨p, -, hcall⟩ := h.callApi db (c := .getTask w.taskId) rfl
  obtain ⟨row, hrow, hown, hrole, hexec⟩ := hs
  have hrow' : db.tables.agentTasks.get? w.taskId = some row := hrow
  rw [hcall, App.handle, App.getTask, hrow']
  dsimp only
  rw [App.enforceNasTaskAccess, hrole, if_neg (by simp)]
  refine ⟨rfl, row.json, rfl, ?_⟩
  rw [NasWatcher.resumes]
  rcases hexec with hstatus | hstatus <;> simp [TaskRow.json, hown, hstatus, TaskStatus.value]

/-- The answer to a heartbeat is the row afterwards. -/
lemma heartbeat_told {taskId : UUID} {worker : String} {mins : ℤ} {now : Timestamp} {row : TaskRow}
    (h : store.out ⟨.heartbeat taskId worker mins, now⟩ db = .ok (.row row)) :
    (store.next ⟨.heartbeat taskId worker mins, now⟩ db).tables.agentTasks.get? taskId
      = some row := by
  have heff := store_effect ⟨.heartbeat taskId worker mins, now⟩ db
  rw [h] at heff
  generalize (store.next ⟨.heartbeat taskId worker mins, now⟩ db).tables = s' at heff ⊢
  cases heff with
  | renewed _ _ _ before hrow =>
      rw [Table.get?_updateKey, if_pos rfl, hrow]
      rfl

/-- The heartbeat of a worker on its course renews the lease. -/
lemma heartbeat_onCourse (h : Healthy w app.auth token x) (hmins : IntervalMins w.leaseMinutes)
    (htime : InTime x.now (db.tables.view w.taskId)) (hs : w.Runs (db.tables.view w.taskId)) :
    w.Runs ((app.callApi token x (.heartbeat w.taskId w.workerId w.leaseMinutes)
        db).2.tables.view w.taskId) ∧
      ∃ task, (app.callApi token x (.heartbeat w.taskId w.workerId w.leaseMinutes) db).1
        = .ok task := by
  obtain ⟨p, -, hcall⟩ :=
    h.callApi db (c := .heartbeat w.taskId w.workerId w.leaseMinutes) rfl
  obtain ⟨row, hrow, hown, hrole, hexec⟩ := hs
  have hrenew : renewable w.workerId x.now row = true := by
    rw [renewable, Bool.and_eq_true, Bool.and_eq_true]
    exact ⟨⟨decide_eq_true hown, decide_eq_true hexec⟩, htime row hrow hexec⟩
  have hout := heartbeat_accepted x.now hmins hrow hrenew
  rw [hcall, App.handle, App.heartbeat, enforceNasWorker_named w.namespaced]
  dsimp only
  rw [App.callStore_snd, App.callStore_ok _ hout]
  exact ⟨⟨_, heartbeat_told hout, hown, hrole, hexec⟩, _, rfl⟩

/-- The receipt of a worker on its course is accepted, as long as it has the
lengths of the contract and white space at neither end of its name. -/
lemma receipt_onCourse (h : Healthy w app.auth token x) (correlationId : UUID) {cycles : ℕ}
    (hclean : strip isWhiteSpace w.workerId = w.workerId)
    (hfits : ApiCall.FitsReceipt w.workerId (NasWatcher.summary cycles))
    (hs : w.Runs (db.tables.view w.taskId)) :
    ∃ task, (app.callApi token x (.submitReceipt w.taskId correlationId w.workerId
      (NasWatcher.summary cycles)) db).1 = .ok task := by
  obtain ⟨receipt, hreceipt⟩ : ∃ r, r = ApiCall.receipt w.taskId correlationId hfits x.now :=
    ⟨_, rfl⟩
  have he : (ApiCall.submitReceipt w.taskId correlationId w.workerId
      (NasWatcher.summary cycles)).endpoint x.now = some (.receipts w.taskId receipt) := by
    rw [ApiCall.endpoint, dif_pos hfits, hreceipt]
  have hid : receipt.taskId = w.taskId := by rw [hreceipt]; rfl
  have hworker : receipt.workerInstance = w.workerId := by
    rw [hreceipt]
    exact hclean
  obtain ⟨p, -, hcall⟩ := h.callApi db he
  obtain ⟨row, hrow, hown, -, hexec⟩ := hs
  obtain ⟨row', hout⟩ := submitReceipt_accepted x.now (hid ▸ hrow) (hworker ▸ hown) hexec
  rw [hcall, App.handle, App.receipts, hworker, enforceNasWorker_named w.namespaced]
  dsimp only
  rw [if_neg (not_not.mpr hid), App.callStore_ok _ hout]
  exact ⟨_, rfl⟩

/-- **A step of a worker on its course**: it stays on its course, and once the end
of the pilot has passed fewer steps are left. -/
lemma NasWatcher.OnCourse.own {s : Phase} {q : Ask} {k : q.Answer → Phase}
    (hnext : w.process.next s = some ⟨q, k⟩) (hmins : IntervalMins w.leaseMinutes)
    (hclean : strip isWhiteSpace w.workerId = w.workerId)
    (hsmooth : w.Smooth app token (s, db) (.own x)) (hstage : w.Stage (db.tables.view w.taskId) s)
    (hs : w.OnCourse (db.tables.view w.taskId) s) :
    w.OnCourse ((app.serve token x q db).2.tables.view w.taskId) (k (app.serve token x q db).1) ∧
      (w.endAt ≤ x.clock → (k (app.serve token x q db).1).rest < s.rest) := by
  obtain ⟨hhealthy, htime, hclaim, hfits⟩ := hsmooth
  cases s with
  | claiming =>
      cases hnext
      obtain ⟨hruns, hanswer⟩ := claim_onCourse hhealthy hmins hs hclaim
      rw [App.serve]
      rcases hanswer with ⟨task, htask⟩ | hconflict
      · rw [htask]
        exact ⟨hruns, fun _ => by simp [Phase.rest]⟩
      · rw [hconflict]
        exact ⟨hruns, fun _ => by simp [Phase.rest]⟩
  | resuming =>
      cases hnext
      obtain ⟨hsame, task, htask, hresumes⟩ := read_onCourse hhealthy hs
      rw [App.serve, htask, hsame]
      dsimp only
      rw [if_pos hresumes]
      exact ⟨hs, fun _ => by simp [Phase.rest]⟩
  | checking task cycles =>
      cases hnext
      obtain ⟨-, hid, row, -, hcorrelation⟩ := hstage
      rw [App.serve]
      dsimp only
      split
      · rename_i hbefore
        exact ⟨hs, fun hafter => absurd hbefore (not_lt.mpr hafter)⟩
      · rw [submission, hid, hcorrelation]
        exact ⟨hs, fun _ => by simp [Phase.rest]⟩
  | beating task cycles =>
      cases hnext
      obtain ⟨hruns, answer, hanswer⟩ := heartbeat_onCourse hhealthy hmins htime hs
      rw [App.serve, hanswer]
      exact ⟨hruns, fun _ => by simp [Phase.rest]⟩
  | stamping task cycles =>
      cases hnext
      exact ⟨hs, fun _ => by simp [Phase.rest]⟩
  | probing task cycles timestamp =>
      cases hnext
      obtain ⟨doc, hdoc, hcommit⟩ := hhealthy.commit
      rw [App.serve, hdoc]
      exact ⟨⟨hs, hcommit⟩, fun _ => by simp [Phase.rest]⟩
  | probingRuns task cycles timestamp commit =>
      cases hnext
      obtain ⟨hruns, hcommit⟩ := hs
      obtain ⟨doc, hdoc, hlisted⟩ := hhealthy.runs
      obtain ⟨checks, hchecks⟩ := collectChecks_isSome w.probe.repository hcommit hlisted
      rw [App.serve, hdoc]
      dsimp only
      rw [hchecks]
      exact ⟨hruns, fun _ => by simp [Phase.rest]⟩
  | emitting task cycles report =>
      cases hnext
      rw [App.serve, hhealthy.printed]
      exact ⟨hs, fun _ => by simp [Phase.rest]⟩
  | sleeping task cycles =>
      cases hnext
      rw [App.serve, hhealthy.slept]
      exact ⟨hs, fun _ => by simp [Phase.rest]⟩
  | submitting taskId correlationId cycles =>
      cases hnext
      obtain ⟨rfl, -, -⟩ := hstage
      have hfits' : ApiCall.FitsReceipt w.workerId (summary cycles) := hfits
      obtain ⟨task, htask⟩ := receipt_onCourse hhealthy correlationId hclean hfits' hs
      rw [App.serve, htask]
      exact ⟨trivial, fun _ => by simp [Phase.rest]⟩
  | finished task | raised e => exact absurd hnext (by simp [process])

end

/-! ### The run -/

section

variable {w : NasWatcher} {app : App} {token : String} {σ : Phase × Db}

/-- Every request keeps a task orderly. -/
lemma App.orderly_http (call : HttpCall) (db : Db) {t : UUID} (h : Orderly (db.tables.view t)) :
    Orderly ((app.http.next call db).tables.view t) := by
  rcases app.view_http call db t with hsame | ⟨p, e, o, -, hop, hstep⟩
  · rw [hsame]
    exact h
  · exact hstep.orderly (App.http_of_op hop) h

lemma App.orderly_serve (x : Moment) (q : Ask) (db : Db) {t : UUID}
    (h : Orderly (db.tables.view t)) : Orderly ((app.serve token x q db).2.tables.view t) := by
  cases q with
  | api c =>
      rw [App.serve, App.callApi]
      cases x.delivery with
      | requestLost => exact h
      | answerLost | delivered => exact App.orderly_http _ db h
  | _ => exact h

/-- Along every run of the pilot every task is orderly. -/
lemma orderly_pilot (turns : List (Process.Turn HttpCall Moment)) (t : UUID)
    (h : Orderly (σ.2.tables.view t)) :
    Orderly (((w.pilot token app).exec σ turns).2.tables.view t) := by
  have halong : (w.pilot token app).Along (fun _ _ => True) σ turns := fun _ _ _ _ => trivial
  exact Process.Along.beside (J := fun σ' : Phase × Db => Orderly (σ'.2.tables.view t)) halong h
    (fun s db call _ hJ => App.orderly_http call db hJ)
    (fun s db x q k _ _ hJ => App.orderly_serve x q db hJ) (fun s db _ hJ => hJ)

/-- What holds along a run on which the worker stays on its course. -/
structure Course (w : NasWatcher) (σ : Phase × Db) : Prop where
  tenure : w.Tenure (σ.2.tables.view w.taskId)
  stage : w.Stage (σ.2.tables.view w.taskId) σ.1
  orderly : Orderly (σ.2.tables.view w.taskId)
  onCourse : w.OnCourse (σ.2.tables.view w.taskId) σ.1

/-- The turn is a step of the worker. -/
def isOwn : Process.Turn HttpCall Moment → Bool
  | .own _ => true
  | _ => false

/-- The turn comes after the end of the pilot and is no restart. -/
def Late (w : NasWatcher) : Process.Turn HttpCall Moment → Prop
  | .own x => w.endAt ≤ x.clock
  | .other _ => True
  | .restart => False

/-- A worker that is started again on its course is on its course. -/
lemma NasWatcher.OnCourse.restart {v : TaskView} {s : Phase} (h : w.OnCourse v s)
    (hexit : s.exitCode ≠ some 0) : w.OnCourse v .claiming := by
  cases s with
  | claiming => exact h
  | probingRuns => exact Or.inl h.1
  | finished => exact absurd rfl hexit
  | raised => exact h.elim
  | _ => exact Or.inl h

/-- **One turn** keeps the course, and a late step of the worker leaves fewer
steps. -/
lemma Course.next {turn : Process.Turn HttpCall Moment} (hmins : IntervalMins w.leaseMinutes)
    (hclean : strip isWhiteSpace w.workerId = w.workerId) (h : Course w σ)
    (hsmooth : w.Smooth app token σ turn) :
    Course w ((w.pilot token app).next turn σ) ∧ (Late w turn →
      ((w.pilot token app).next turn σ).1.rest ≤ σ.1.rest - [turn].countP isOwn) := by
  obtain ⟨ht, hs, ho, hc⟩ := h
  obtain ⟨s, db⟩ := σ
  cases turn with
  | restart => exact ⟨⟨ht, trivial, ho, hc.restart hsmooth⟩, fun hlate => hlate.elim⟩
  | other call =>
      obtain ⟨htime, hspares⟩ := hsmooth
      have hallows : w.Allows app call := fun p e o hpassed hop =>
        (hspares p e o hpassed hop).tolerates
      obtain ⟨ht', hs'⟩ := NasWatcher.kept_http hallows ht hs
      refine ⟨⟨ht', hs', App.orderly_http call db ho, ?_⟩, fun _ => le_rfl⟩
      rcases app.view_http call db w.taskId with hsame | ⟨p, e, o, hpassed, hop, hstep⟩
      · exact hsame.symm ▸ hc
      · exact hc.next (App.http_of_op hop) (hspares p e o hpassed hop) htime hstep ho
  | own x =>
      cases hnext : w.process.next s with
      | none =>
          have hend : (w.pilot token app).next (.own x) (s, db) = (s, db) :=
            Process.next_beside_end hnext
          have hrest : s.rest = 0 := by cases s <;> simp_all [NasWatcher.process, Phase.rest]
          rw [hend, hrest]
          exact ⟨⟨ht, hs, ho, hc⟩, fun _ => Nat.zero_le _⟩
      | some step =>
          obtain ⟨q, k⟩ := step
          have hstep : (w.pilot token app).next (.own x) (s, db)
              = (k (app.serve token x q db).1, (app.serve token x q db).2) :=
            Process.next_beside_own hnext
          obtain ⟨ht', hs'⟩ := NasWatcher.kept_own hnext ht hs
          obtain ⟨hc', hfewer⟩ := hc.own hnext hmins hclean hsmooth hs
          rw [hstep]
          exact ⟨⟨ht', hs', App.orderly_serve x q db ho, hc'⟩, fun hlate =>
            Nat.le_sub_one_of_lt (hfewer hlate)⟩

/-- On its course the worker has not raised. -/
lemma Course.not_raised (h : Course w σ) (e : WorkerRaised) : σ.1 ≠ .raised e := by
  intro hraised
  have hcourse := h.onCourse
  rw [hraised] at hcourse
  exact hcourse

/-- The course along a run. -/
lemma Course.exec {turns : List (Process.Turn HttpCall Moment)}
    (hmins : IntervalMins w.leaseMinutes) (hclean : strip isWhiteSpace w.workerId = w.workerId)
    (h : Course w σ) (hsmooth : (w.pilot token app).Along (w.Smooth app token) σ turns) :
    Course w ((w.pilot token app).exec σ turns) :=
  hsmooth.invariant h fun _ _ hturn hcourse => (hcourse.next hmins hclean hturn).1

/-- Along a late run the steps of the worker are counted down. -/
lemma Course.countdown {turns : List (Process.Turn HttpCall Moment)}
    (hmins : IntervalMins w.leaseMinutes) (hclean : strip isWhiteSpace w.workerId = w.workerId)
    (h : Course w σ) (hsmooth : (w.pilot token app).Along (w.Smooth app token) σ turns)
    (hlate : ∀ turn ∈ turns, Late w turn) :
    ((w.pilot token app).exec σ turns).1.rest ≤ σ.1.rest - turns.countP isOwn := by
  induction turns generalizing σ with
  | nil => exact le_rfl
  | cons turn turns ih =>
      obtain ⟨hturn, hrest⟩ := Machine.along_cons.mp hsmooth
      obtain ⟨hnext, hfewer⟩ := h.next hmins hclean hturn
      have hfirst := hfewer (hlate turn List.mem_cons_self)
      have hlater := ih hnext hrest fun t ht => hlate t (List.mem_cons_of_mem turn ht)
      rw [Machine.exec_cons, ← List.singleton_append, List.countP_append]
      omega

lemma Phase.rest_le (s : Phase) : s.rest ≤ 8 := by
  cases s <;> simp [rest]

/-- **The pilot finishes**: whatever tolerated requests went before, a worker that is started
while its task waits for it or is in execution for it, in a run whose turns are all smooth,
never raises, and as many steps of it after the end of the pilot as are left, eight
at most, complete it, with its receipt on record. -/
theorem pilot_finishes (w : NasWatcher) (app : App) (token : String)
    (pre turns late : List (Process.Turn HttpCall Moment)) (db : Db)
    (hmins : IntervalMins w.leaseMinutes) (hclean : strip isWhiteSpace w.workerId = w.workerId)
    (hothers : ∀ call, .other call ∈ pre → w.Allows app call)
    (hstart : (w.pilot token app).exec (.claiming, Db.init) pre = (.claiming, db))
    (hmine : w.Runs (db.tables.view w.taskId) ∨ NasWatcher.Waits (db.tables.view w.taskId))
    (hsmooth : (w.pilot token app).Along (w.Smooth app token) (.claiming, db) turns)
    (hrest : (w.pilot token app).Along (w.Smooth app token)
      ((w.pilot token app).exec (.claiming, db) turns) late)
    (hlate : ∀ turn ∈ late, Late w turn) :
    let σ := (w.pilot token app).exec (.claiming, db) turns
    let σ' := (w.pilot token app).exec σ late
    (∀ e, σ.1 ≠ .raised e ∧ σ'.1 ≠ .raised e) ∧ σ.1.rest ≤ 8 ∧
      (σ.1.rest ≤ late.countP isOwn → σ'.1.exitCode = some 0 ∧
        w.Done (σ'.2.tables.view w.taskId)) := by
  intro σ σ'
  obtain ⟨ht, -⟩ := NasWatcher.safe_exec hothers
  have ho : Orderly (((w.pilot token app).exec (.claiming, Db.init) pre).2.tables.view w.taskId) :=
    orderly_pilot pre w.taskId ⟨rfl, rfl⟩
  rw [hstart] at ht ho
  have hcourse : Course w (.claiming, db) := ⟨ht, trivial, ho, hmine⟩
  have hmiddle : Course w σ := hcourse.exec hmins hclean hsmooth
  have hend : Course w σ' := hmiddle.exec hmins hclean hrest
  refine ⟨fun e => ⟨hmiddle.not_raised e, hend.not_raised e⟩, Phase.rest_le _, fun hcount => ?_⟩
  have hzero : σ'.1.rest = 0 := by
    have hdown : σ'.1.rest ≤ _ := hmiddle.countdown hmins hclean hrest hlate
    omega
  have hstage := hend.stage
  have hraised := hend.not_raised
  generalize σ'.1 = s at hraised hzero hstage
  cases s with
  | finished task => exact ⟨rfl, hstage⟩
  | raised e => exact absurd rfl (hraised e)
  | _ => exact absurd hzero (by simp [Phase.rest])

end

/-! ### A session after the end of the pilot -/

/-- The task of the worker is created. -/
def seedTurns : List (Process.Turn HttpCall Moment) :=
  [.other ⟨createRequest monitorCard, pilotFiles, 0⟩]

/-- The worker is started after the end of the pilot. -/
def lateTurns : List (Process.Turn HttpCall Moment) :=
  [100, 101, 102, 103].map fun n => .own (sampleMoment n)

/-- Nothing goes wrong at the moments of the sample. -/
lemma healthy_sample (n : Timestamp) :
    Healthy sampleWatcher pilot.auth sampleToken (sampleMoment n) where
  recognised := recognised_sample
  delivered := rfl
  commit := by
    have hdoc : samplePublished sampleWatcher.probe.commitUrl
        = .ok (.dict [("sha", .leaf (.str "0123abc"))]) := by rw [samplePublished, if_pos rfl]
    exact ⟨_, hdoc, _, _, rfl, rfl⟩
  runs := by
    have hdoc : samplePublished sampleWatcher.probe.runsUrl
        = .ok (.dict [("workflow_runs", .list [.dict []])]) := by
      rw [samplePublished, if_neg (by decide)]
    exact ⟨_, hdoc, _, _, _, rfl, rfl, rfl⟩
  printed := rfl
  slept := rfl

/-- What is left to check of a smooth run of the sample. -/
def SampleChecks (σ : Phase × Db) : Process.Turn HttpCall Moment → Prop
  | .own x => (∀ row ∈ (σ.2.tables.view ⟨1⟩).row, row.status.IsExecution →
        row.leaseExpiresAt.any (x.now < ·) = true) ∧
      (∀ row ∈ σ.2.tables.agentTasks.get? ⟨1⟩, row.status = .ready →
        claimable x.now σ.2.tables row = true) ∧
      ApiCall.FitsReceipt sampleWatcher.workerId (NasWatcher.summary σ.1.cycles)
  | _ => False

instance (σ : Phase × Db) : (turn : Process.Turn HttpCall Moment) → Decidable (SampleChecks σ turn)
  | .own _ => inferInstanceAs (Decidable (_ ∧ _ ∧ _))
  | .other _ | .restart => isFalse id

/-- The worker that is started after the end of the pilot submits its receipt. -/
theorem pilot_finishes_late : ∃ db,
    (sampleWatcher.pilot sampleToken pilot).exec (.claiming, Db.init) seedTurns = (.claiming, db) ∧
      let σ := (sampleWatcher.pilot sampleToken pilot).exec (.claiming, db) lateTurns
      σ.1.exitCode = some 0 ∧ sampleWatcher.Done (σ.2.tables.view ⟨1⟩) := by
  obtain ⟨db, hdb⟩ : ∃ db, db =
      ((sampleWatcher.pilot sampleToken pilot).exec (.claiming, Db.init) seedTurns).2 := ⟨_, rfl⟩
  have hstart : (sampleWatcher.pilot sampleToken pilot).exec (.claiming, Db.init) seedTurns
      = (.claiming, db) := Prod.ext rfl hdb.symm
  have hready : (db.tables.agentTasks.get? ⟨1⟩).any (fun row => row.status = .ready) = true := by
    rw [hdb]
    decide +kernel
  have hchecks : (sampleWatcher.pilot sampleToken pilot).Along SampleChecks (.claiming, db)
      lateTurns := by
    rw [hdb]
    decide +kernel
  have hwaits : NasWatcher.Waits (db.tables.view ⟨1⟩) := by
    obtain ⟨row, hrow, hstatus⟩ := Option.any_eq_true _ _ |>.mp hready
    exact ⟨row, hrow, of_decide_eq_true hstatus⟩
  have hmoments : ∀ turn ∈ lateTurns, ∃ n : Timestamp, 100 ≤ n ∧ turn = .own (sampleMoment n) := by
    intro turn hturn
    obtain ⟨n, hn, rfl⟩ := List.mem_map.mp hturn
    have hall : ∀ n ∈ ([100, 101, 102, 103] : List Timestamp), 100 ≤ n := by decide
    exact ⟨n, hall n hn, rfl⟩
  have hsmooth : (sampleWatcher.pilot sampleToken pilot).Along
      (sampleWatcher.Smooth pilot sampleToken) (.claiming, db) lateTurns := by
    intro pre turn post hturns
    obtain ⟨n, -, rfl⟩ := hmoments turn (by rw [hturns]; simp)
    exact ⟨healthy_sample n, hchecks pre _ post hturns⟩
  have hothers : ∀ call, .other call ∈ seedTurns → sampleWatcher.Allows pilot call := by
    intro call hcall
    obtain rfl : call = ⟨createRequest monitorCard, pilotFiles, 0⟩ := by
      simpa [seedTurns] using hcall
    exact NasWatcher.allows_create _ _ _ _ _
  have hlate : ∀ turn ∈ lateTurns, Late sampleWatcher turn := by
    intro turn hturn
    obtain ⟨n, hn, rfl⟩ := hmoments turn hturn
    exact hn
  have hclean : strip isWhiteSpace sampleWatcher.workerId = sampleWatcher.workerId := by
    decide +kernel
  exact ⟨db, hstart, (pilot_finishes sampleWatcher pilot sampleToken seedTurns [] lateTurns db
    (by decide) hclean hothers hstart (Or.inr hwaits) Machine.along_nil hsmooth hlate).2.2
    (by rfl)⟩

end ControlHarness

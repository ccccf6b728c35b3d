import ControlHarness.Lifecycle.Orderly
import ControlHarness.Lifecycle.Outcome

/-!
Single ownership.

Under the operations of the HTTP surface a task that a worker has claimed comes
back to another claim in one way only: an accepted retryable failure report of
that worker, and then a release (`single_ownership`). While the task is in
execution its owner is the worker of the last claim, and the messages of every
other worker are refused.

* `ReportedIn`, `ReleasedIn`: the two things that a run from a claim must hold
  before the next claim.
* `SinceClaim`: the invariant of such a run, status by status
  (`sinceClaim_exec`).
* `LastClaim`: the last claim of a task along a run (`lastClaim_exec`).
-/

namespace ControlHarness

open Store

/-- The run from `db` holds an accepted failure report of the worker on the
task, of a retryable class and without unknown side effects. -/
def ReportedIn (db : Db) (t : UUID) (worker : String) (calls : List Call) : Prop :=
  ∃ before r after report, calls = before ++ r :: after ∧
    Reports (store.exec db before) r report ∧ report.taskId = t ∧
    report.workerInstance = worker ∧ report.failureClass ∈ retryableFailures ∧
    report.sideEffectState ≠ .unknown

/-- The run from `db` holds such a report and then a release of the task. -/
def ReleasedIn (db : Db) (t : UUID) (worker : String) (calls : List Call) : Prop :=
  ∃ before r after, calls = before ++ r :: after ∧ ReportedIn db t worker before ∧
    Releases (store.exec db before) r t

/-- What the run from a claim by the worker says of the task now. -/
def SinceClaim (db : Db) (t : UUID) (worker : String) (calls : List Call) (row : TaskRow) : Prop :=
  match row.status with
  | .claimed | .inProgress => row.ownerInstance = some worker
  | .retryWait => ReportedIn db t worker calls
  | .ready => ReleasedIn db t worker calls
  | _ => True

lemma ReportedIn.concat {db : Db} {t : UUID} {worker : String} {calls : List Call}
    (h : ReportedIn db t worker calls) (c : Call) : ReportedIn db t worker (calls ++ [c]) := by
  obtain ⟨before, r, after, report, rfl, hreport⟩ := h
  exact ⟨before, r, after ++ [c], report, by simp, hreport⟩

lemma ReleasedIn.concat {db : Db} {t : UUID} {worker : String} {calls : List Call}
    (h : ReleasedIn db t worker calls) (c : Call) : ReleasedIn db t worker (calls ++ [c]) := by
  obtain ⟨before, r, after, rfl, hrelease⟩ := h
  exact ⟨before, r, after ++ [c], by simp, hrelease⟩

/-- A row that keeps its status and owner keeps what the run says of it. -/
lemma SinceClaim.concat {db : Db} {t : UUID} {worker : String} {calls : List Call}
    {row row' : TaskRow} (h : SinceClaim db t worker calls row) (c : Call)
    (hstatus : row'.status = row.status) (howner : row'.ownerInstance = row.ownerInstance) :
    SinceClaim db t worker (calls ++ [c]) row' := by
  rw [SinceClaim] at h ⊢
  rw [hstatus, howner]
  cases hs : row.status <;> rw [hs] at h
  case retryWait => exact ReportedIn.concat h c
  case ready => exact ReleasedIn.concat h c
  all_goals exact h

lemma SinceClaim.owner {db : Db} {t : UUID} {worker : String} {calls : List Call} {row : TaskRow}
    (h : SinceClaim db t worker calls row) (hexec : row.status.IsExecution) :
    row.ownerInstance = some worker := by
  rw [SinceClaim] at h
  rcases hexec with hs | hs <;> rw [hs] at h <;> exact h

/-- A status that is neither an execution status nor ready nor waiting for a
retry is reached without a trace of the claim. -/
lemma sinceClaim_of_status {db : Db} {t : UUID} {worker : String} {calls : List Call}
    {row : TaskRow} (h : row.status ∈ [.review, .awaitingApproval, .blocked, .failed, .done,
      .cancelled, .recoveryRequired, .awaitingDecision]) : SinceClaim db t worker calls row := by
  rw [SinceClaim]
  cases hs : row.status <;> rw [hs] at h <;> trivial

/-- **The step of `SinceClaim`**: a call that does not claim the task. -/
lemma SinceClaim.next {db₀ : Db} {t : UUID} {worker : String} {calls : List Call} {row : TaskRow}
    {call : Call} (hrow : (store.exec db₀ calls).tables.agentTasks.get? t = some row)
    (h : SinceClaim db₀ t worker calls row) (hhttp : call.op.Http)
    (hno : ∀ w, ¬ Claims (store.exec db₀ calls) call t w) :
    ∃ row', (store.exec db₀ (calls ++ [call])).tables.agentTasks.get? t = some row' ∧
      SinceClaim db₀ t worker (calls ++ [call]) row' := by
  rw [Machine.exec_concat]
  set db := store.exec db₀ calls with hdb
  have hsame : ∀ r, (db.tables.view t).row = some r → r = row := fun r hr =>
    Option.some.inj (hr.symm.trans hrow)
  rcases view_next call db t with hview | hstep
  · exact ⟨row, (congrArg TaskView.row hview).trans hrow, h.concat call rfl rfl⟩
  generalize hv' : (store.next call db).tables.view t = v' at hstep
  have hnext : (store.next call db).tables.agentTasks.get? t = v'.row := by
    rw [← hv']
    rfl
  rw [hnext]
  generalize hop : call.op = op at hstep hhttp
  cases hstep with
  | created card route hid hnone => exact absurd (hrow.symm.trans hnone) (by simp)
  | claimed role w mins r hr hready =>
      obtain rfl := hsame r hr
      have hmoved := moved_of_status hrow hnext (by simp [claimedRow, hready])
      exact absurd (claims_of_moved hmoved hop) (hno w)
  | renewed w mins r hr =>
      obtain rfl := hsame r hr
      exact ⟨_, rfl, h.concat call rfl rfl⟩
  | heartbeatRejected w mins r hr | receiptRejected receipt r hid hr =>
      obtain rfl := hsame r hr
      exact ⟨r, hr, h.concat call rfl rfl⟩
  | swept ids r hr => exact ⟨_, rfl, sinceClaim_of_status (by simp [sweptRow])⟩
  | recovery report id r hid hr =>
      exact ⟨_, rfl, sinceClaim_of_status (by rw [movedRow_status]; decide)⟩
  | retryScheduled report id r delay hid hr hadm hrec hretry =>
      obtain rfl := hsame r hr
      have hne : (retriedRow (call.now + seconds delay) report.failureClass r.circuitKey r).status
          ≠ r.status := by
        rw [retriedRow_status]
        intro heq
        exact absurd (heq ▸ hadm.execution) (by decide)
      have hreports := reports_of_moved (moved_of_status hrow hnext hne) hop
      have hworker : report.workerInstance = worker :=
        Option.some.inj (hadm.owner.symm.trans (h.owner hadm.execution))
      have hknown : report.sideEffectState ≠ .unknown := by
        intro hunknown
        rw [(requiresRecovery_iff report).mpr hunknown] at hrec
        exact Bool.noConfusion hrec
      refine ⟨_, rfl, ?_⟩
      rw [SinceClaim, retriedRow_status]
      exact ⟨calls, call, [], report, rfl, hreports, hid, hworker, hretry, hknown⟩
  | deadLettered report id r letterId reason hid hr =>
      exact ⟨_, rfl, sinceClaim_of_status (by rw [movedRow_status]; decide)⟩
  | stopped report id r target hid hr hadm hrec hstop =>
      refine ⟨_, rfl, sinceClaim_of_status ?_⟩
      rw [movedRow_status]
      rcases hstop with ⟨-, rfl⟩ | ⟨-, rfl⟩ <;> decide
  | released r hr hwait =>
      obtain rfl := hsame r hr
      have hmoved := moved_of_status hrow hnext (by simp [releasedRow, hwait])
      have hreleases := releases_of_moved hmoved hop
      rw [SinceClaim, hwait] at h
      exact ⟨_, rfl, calls, call, [], rfl, h, hreleases⟩
  | receiptAccepted receipt r receiptId closing hid hr hown hexec =>
      refine ⟨_, rfl, sinceClaim_of_status ?_⟩
      rw [receiptRow, movedRow_status]
      have hmem := receiptTarget_mem_closing r receipt.outcome
      simp only [List.mem_cons, List.not_mem_nil, or_false] at hmem ⊢
      rcases hmem with h | h | h | h <;> simp [h]
  | approvalRequested card r hid hr =>
      exact ⟨_, rfl, sinceClaim_of_status (by rw [movedRow_status]; decide)⟩
  | approvalDecided id decision by_ reason d approval r hd =>
      refine ⟨_, rfl, sinceClaim_of_status ?_⟩
      rw [movedRow_status]
      cases d <;> decide
  | transitioned => exact hhttp.elim

/-- The rule for a run from a claim that holds no other claim of the task. -/
lemma sinceClaim_exec {db₀ : Db} {t : UUID} {worker : String} {calls : List Call} {row : TaskRow}
    (hrow : db₀.tables.agentTasks.get? t = some row) (horderly : Orderly (db₀.tables.view t))
    (hexec : row.status.IsExecution) (howner : row.ownerInstance = some worker)
    (hcalls : store.Along (fun db c => c.op.Http ∧ ∀ w, ¬ Claims db c t w) db₀ calls) :
    Orderly ((store.exec db₀ calls).tables.view t) ∧
      ∃ row', (store.exec db₀ calls).tables.agentTasks.get? t = some row' ∧
        SinceClaim db₀ t worker calls row' := by
  induction calls using List.reverseRecOn with
  | nil =>
      refine ⟨horderly, row, hrow, ?_⟩
      rw [SinceClaim]
      rcases hexec with hs | hs <;> rw [hs] <;> exact howner
  | append_singleton calls call ih =>
      rw [Machine.along_concat] at hcalls
      obtain ⟨hbefore, hhttp, hno⟩ := hcalls
      obtain ⟨hord, row', hrow', hsince⟩ := ih hbefore
      refine ⟨?_, hsince.next hrow' hhttp hno⟩
      rw [Machine.exec_concat]
      rcases view_next call (store.exec db₀ calls) t with hview | hstep
      · rw [hview]
        exact hord
      · exact hstep.orderly hhttp hord

/-! ### The last claim -/

/-- The last claim of the task along the run is one by the worker. -/
def LastClaim (calls : List Call) (t : UUID) (worker : String) : Prop :=
  ∃ pre x post, calls = pre ++ x :: post ∧ Claims (store.exec Db.init pre) x t worker ∧
    store.Along (fun db c => ∀ w, ¬ Claims db c t w) (store.exec Db.init (pre ++ [x])) post

lemma LastClaim.concat {calls : List Call} {t : UUID} {worker : String} {c : Call}
    (h : LastClaim calls t worker) (hno : ∀ w, ¬ Claims (store.exec Db.init calls) c t w) :
    LastClaim (calls ++ [c]) t worker := by
  obtain ⟨pre, x, post, rfl, hclaim, hpost⟩ := h
  refine ⟨pre, x, post ++ [c], by simp, hclaim, Machine.along_concat.mpr ⟨hpost, ?_⟩⟩
  rw [← Machine.exec_append, List.append_assoc]
  exact hno

/-- Only `claim` claims. -/
lemma not_claims_of_op {db : Db} {call : Call} {t : UUID}
    (hop : ∀ role worker mins, call.op ≠ .claim t role worker mins) (worker : String) :
    ¬ Claims db call t worker := by
  rintro ⟨⟨role, mins, h⟩, -⟩
  exact hop role worker mins h

/-- A claim takes a task that is ready, and leaves it claimed by the worker. -/
lemma Claims.moves {db : Db} {call : Call} {t : UUID} {worker : String}
    (h : Claims db call t worker) :
    ∃ row row', db.tables.agentTasks.get? t = some row ∧ row.status = .ready ∧
      (store.next call db).tables.agentTasks.get? t = some row' ∧ row'.status = .claimed ∧
      row'.ownerInstance = some worker := by
  obtain ⟨role, mins, row, -, hrow, hclaimable, hnext⟩ := h.spec
  simp only [claimable, Bool.and_eq_true, decide_eq_true_eq] at hclaimable
  exact ⟨row, _, hrow, hclaimable.1.1, hnext, rfl, rfl⟩

/-- **The owner of a task in execution is the worker of its last claim.** -/
theorem lastClaim_exec {calls : List Call} (hhttp : ∀ c ∈ calls, c.op.Http) {t : UUID}
    {row : TaskRow} (hrow : (store.exec Db.init calls).tables.agentTasks.get? t = some row)
    (hexec : row.status.IsExecution) :
    ∃ worker, LastClaim calls t worker ∧ row.ownerInstance = some worker := by
  induction calls using List.reverseRecOn generalizing row with
  | nil => exact absurd hrow (by simp [Db.init, Tables.init])
  | append_singleton calls call ih =>
      rw [Machine.exec_concat] at hrow
      have hbefore : ∀ c ∈ calls, c.op.Http := fun c hc => hhttp c (List.mem_append_left _ hc)
      have hcall : call.op.Http := hhttp call (by simp)
      set db := store.exec Db.init calls with hdb
      -- a call that is no claim of the task and leaves its row as it was, or renews its lease
      have hkeep : ∀ r, db.tables.agentTasks.get? t = some r → r.status = row.status →
          r.ownerInstance = row.ownerInstance → (∀ w, ¬ Claims db call t w) →
          ∃ worker, LastClaim (calls ++ [call]) t worker ∧ row.ownerInstance = some worker := by
        intro r hr hstatus howner hno
        obtain ⟨worker, hlast, hown⟩ := ih hbefore hr (hstatus ▸ hexec)
        exact ⟨worker, hlast.concat hno, howner ▸ hown⟩
      rcases view_next call db t with hview | hstep
      · have hsame : db.tables.agentTasks.get? t = some row :=
          (congrArg TaskView.row hview).symm.trans hrow
        refine hkeep row hsame rfl rfl fun w hclaim => ?_
        obtain ⟨r, -, hr, hready, -⟩ := hclaim.moves
        obtain rfl : r = row := Option.some.inj (hr.symm.trans hsame)
        exact absurd (hready ▸ hexec) (by decide)
      generalize hv' : (store.next call db).tables.view t = v' at hstep
      have hnext : v'.row = some row := by
        rw [← hv']
        exact hrow
      generalize hop : call.op = op at hstep hcall
      cases hstep with
      | created card route hid hnone =>
          obtain rfl := Option.some.inj hnext
          exact absurd (show TaskStatus.ready.IsExecution from hexec) (by decide)
      | claimed role w mins r hr hready =>
          obtain rfl := Option.some.inj hnext
          refine ⟨w, ⟨calls, call, [], rfl, ?_, Machine.along_nil⟩, rfl⟩
          exact claims_of_moved (moved_of_status hr hrow (by simp [claimedRow, hready])) hop
      | renewed w mins r hr =>
          obtain rfl := Option.some.inj hnext
          exact hkeep r hr rfl rfl (not_claims_of_op (by simp [hop]))
      | heartbeatRejected w mins r hr | receiptRejected receipt r hid hr =>
          exact hkeep row hnext rfl rfl (not_claims_of_op (by simp [hop]))
      | swept ids r hr =>
          obtain rfl := Option.some.inj hnext
          exact absurd (show TaskStatus.recoveryRequired.IsExecution from hexec) (by decide)
      | recovery | deadLettered | approvalRequested =>
          obtain rfl := Option.some.inj hnext
          rw [movedRow_status] at hexec
          exact absurd hexec (by decide)
      | retryScheduled =>
          obtain rfl := Option.some.inj hnext
          rw [retriedRow_status] at hexec
          exact absurd hexec (by decide)
      | stopped report id r target hid hr hadm hrec hstop =>
          obtain rfl := Option.some.inj hnext
          rw [movedRow_status] at hexec
          rcases hstop with ⟨-, rfl⟩ | ⟨-, rfl⟩ <;> exact absurd hexec (by decide)
      | released r =>
          obtain rfl := Option.some.inj hnext
          exact absurd (show TaskStatus.ready.IsExecution from hexec) (by decide)
      | receiptAccepted receipt r receiptId closing =>
          obtain rfl := Option.some.inj hnext
          rw [receiptRow, movedRow_status] at hexec
          exact absurd hexec (not_isExecution_receiptTarget r receipt.outcome)
      | approvalDecided id decision by_ reason d =>
          obtain rfl := Option.some.inj hnext
          rw [movedRow_status] at hexec
          cases d <;> exact absurd hexec (by decide)
      | transitioned => exact hcall.elim

/-- **Single ownership**: along every run of the HTTP surface, between two claims
of a task with no other claim of it in between, the first worker's retryable
failure report was accepted and then the task was released; and while a task is
in execution its owner is the worker of its last claim, and no message of
another worker is accepted. -/
theorem single_ownership (calls : List Call) (hhttp : ∀ c ∈ calls, c.op.Http) (t : UUID) :
    (∀ pre x mid y post w₁ w₂, calls = pre ++ x :: (mid ++ y :: post) →
        Claims (store.exec Db.init pre) x t w₁ →
        Claims (store.exec Db.init (pre ++ x :: mid)) y t w₂ →
        store.Along (fun db c => ∀ w, ¬ Claims db c t w)
          (store.exec Db.init (pre ++ [x])) mid →
        ReleasedIn (store.exec Db.init (pre ++ [x])) t w₁ mid) ∧
      ∀ row, (store.exec Db.init calls).tables.agentTasks.get? t = some row →
        row.status.IsExecution →
        ∃ worker, LastClaim calls t worker ∧ row.ownerInstance = some worker ∧
          ∀ y, (∀ w, Renews (store.exec Db.init calls) y t w → w = worker) ∧
            (∀ receipt, receipt.taskId = t → Receives (store.exec Db.init calls) y receipt →
              receipt.workerInstance = worker) ∧
            ∀ report, report.taskId = t → Reports (store.exec Db.init calls) y report →
              report.workerInstance = worker := by
  constructor
  · rintro pre x mid y post w₁ w₂ rfl hx hy hno
    obtain ⟨-, row₁, -, -, hrow₁, hclaimed, howner⟩ := hx.moves
    rw [← Machine.exec_concat] at hrow₁
    have hpre : ∀ c ∈ pre ++ [x], c.op.Http := by
      intro c hc
      refine hhttp c ?_
      rcases List.mem_append.mp hc with hc | hc
      · exact List.mem_append_left _ hc
      · rw [List.mem_singleton.mp hc]
        simp
    have hmid : ∀ c ∈ mid, c.op.Http := fun c hc => hhttp c (by simp [hc])
    obtain ⟨-, row, hrow, hsince⟩ := sinceClaim_exec hrow₁ (orderly_exec hpre t)
      (Or.inl hclaimed) howner ((Machine.along_of_forall hmid).and hno)
    obtain ⟨row₂, -, hrow₂, hready, -⟩ := hy.moves
    rw [← Machine.exec_append, List.append_assoc, List.singleton_append] at hrow
    obtain rfl : row = row₂ := Option.some.inj (hrow.symm.trans hrow₂)
    rw [SinceClaim, hready] at hsince
    exact hsince
  · intro row hrow hexec
    obtain ⟨worker, hlast, howner⟩ := lastClaim_exec hhttp hrow hexec
    have hsame : ∀ r, (store.exec Db.init calls).tables.agentTasks.get? t = some r → r = row :=
      fun r hr => Option.some.inj (hr.symm.trans hrow)
    refine ⟨worker, hlast, howner, fun y => ⟨fun w hw => ?_, fun receipt ht hrec => ?_,
      fun report ht hrep => ?_⟩⟩
    · obtain ⟨r, hr, hrenew⟩ := hw.spec
      rw [hsame r hr] at hrenew
      simp only [renewable, Bool.and_eq_true, decide_eq_true_eq] at hrenew
      exact Option.some.inj (hrenew.1.1.symm.trans howner)
    · obtain ⟨r, hr, hown, -⟩ := hrec.spec
      rw [hsame r (ht ▸ hr)] at hown
      exact Option.some.inj (hown.symm.trans howner)
    · obtain ⟨r, hr, hadm⟩ := hrep.spec
      have hown := hadm.owner
      rw [hsame r (ht ▸ hr)] at hown
      exact Option.some.inj (hown.symm.trans howner)

/-- Two claims with a retryable failure report and a release in between. -/
theorem single_ownership_released :
    ReleasedIn (store.exec Db.init [⟨.createTask sampleCard, 0⟩,
        ⟨.claim sampleCard.taskId "hermes_local" "worker-a" 30, 0⟩])
      sampleCard.taskId "worker-a"
      [⟨.reportFailure sampleReport ⟨9⟩, 1⟩, ⟨.releaseDueRetries, minutes 10⟩] := by
  refine (single_ownership [⟨.createTask sampleCard, 0⟩,
    ⟨.claim sampleCard.taskId "hermes_local" "worker-a" 30, 0⟩,
    ⟨.reportFailure sampleReport ⟨9⟩, 1⟩, ⟨.releaseDueRetries, minutes 10⟩,
    ⟨.claim sampleCard.taskId "hermes_local" "worker-b" 30, minutes 10⟩]
    (by decide) sampleCard.taskId).1 [⟨.createTask sampleCard, 0⟩]
    ⟨.claim sampleCard.taskId "hermes_local" "worker-a" 30, 0⟩ _
    ⟨.claim sampleCard.taskId "hermes_local" "worker-b" 30, minutes 10⟩ [] "worker-a" "worker-b"
    rfl ⟨⟨_, _, rfl⟩, _, rfl⟩ ⟨⟨_, _, rfl⟩, _, rfl⟩ ?_
  refine Machine.along_of_forall (C := fun c : Call => ∀ db w, ¬ Claims db c sampleCard.taskId w)
    ?_ |>.mono fun db c h w => h db w
  intro c hc db w
  refine not_claims_of_op (fun role worker mins => ?_) w
  rcases List.mem_pair.mp hc with rfl | rfl <;> exact Op.noConfusion

end ControlHarness

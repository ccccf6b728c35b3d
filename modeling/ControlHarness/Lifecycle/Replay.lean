import ControlHarness.Lifecycle.Refinement

/-!
The log of a task determines its state.

`replay` reads the status, the number of attempts, the owner and the time of
the next attempt of a task off its events. Along every run of the store, with
`transition` among the operations, it returns what the row of the task says
(`eventLog_determines`), the log only grows, and it begins with its one
`task_created`.

* `Progress`: what is read off the log; `TaskRow.progress` is the same of a row.
* `replayEvent`: what one event changes. The two classes that stop a task
  without an event of their own are read off `failure_classified`.
* `Chronicle`: the invariant of a task, kept by every step
  (`TaskStep.chronicle`).
-/

namespace ControlHarness

open Store

/-- What the log of a task determines. -/
structure Progress where
  status : TaskStatus
  attemptCount : ℕ
  ownerInstance : Option String
  nextAttemptAt : Option Timestamp
  deriving DecidableEq, Repr

/-- The progress that a row shows. -/
def TaskRow.progress (r : TaskRow) : Progress :=
  ⟨r.status, r.attemptCount, r.ownerInstance, r.nextAttemptAt⟩

/-- The progress after an event. -/
def replayEvent (p : Progress) : HarnessEvent → Progress
  | .taskCreated .. => p
  | .taskClaimed worker attempt =>
      { p with status := .claimed, ownerInstance := some worker, attemptCount := attempt }
  | .statusChanged _ target _ => { p with status := target }
  | .heartbeatRejected _ => p
  | .leaseExpired action => { p with status := action }
  | .failureClassified cls sideEffects _ =>
      -- unknown side effects lead to recovery, which has an event of its own
      if sideEffects = .unknown then p
      else if cls = .quotaExhausted then { p with status := .awaitingDecision }
      else if cls = .policyViolation then { p with status := .blocked }
      else p
  | .recoveryCardCreated .. => { p with status := .recoveryRequired }
  | .deadLetterCreated .. => { p with status := .failed }
  | .retryScheduled retryAt _ _ => { p with status := .retryWait, nextAttemptAt := some retryAt }
  | .retryReleased _ =>
      { p with status := .ready, ownerInstance := none, nextAttemptAt := none }
  | .receiptRejected .. => p
  | .receiptAccepted _ status _ _ => { p with status := status }
  | .circuitClosed _ => p
  | .approvalRequested .. => { p with status := .awaitingApproval }
  | .approvalDecided _ decision _ => { p with status := decisionTarget decision }

/-- The progress after a log: a task begins ready with `task_created`. -/
def replay : List HarnessEvent → Option Progress
  | .taskCreated _ _ :: rest => some (rest.foldl replayEvent ⟨.ready, 0, none, none⟩)
  | _ => none

/-- A log that begins with `task_created` and has no other. -/
def BeginsWithCreation : List HarnessEvent → Prop
  | e :: rest => e.eventType = .taskCreated ∧ ∀ e' ∈ rest, e'.eventType ≠ .taskCreated
  | [] => False

/-- What the log of a task says of its row: an absent task has an empty log, and
the log of a task begins with its creation and replays to its progress. -/
def Chronicle (v : TaskView) : Prop :=
  match v.row with
  | none => v.log = []
  | some row => BeginsWithCreation v.log ∧ replay v.log = some row.progress

lemma replay_append {log : List HarnessEvent} {p : Progress} (h : replay log = some p)
    (es : List HarnessEvent) : replay (log ++ es) = some (es.foldl replayEvent p) := by
  cases log with
  | nil => simp [replay] at h
  | cons e rest =>
      cases e with
      | taskCreated title project =>
          rw [replay, Option.some.injEq] at h
          rw [List.cons_append, replay, List.foldl_append, h]
      | _ => simp [replay] at h

lemma BeginsWithCreation.append {log es : List HarnessEvent} (h : BeginsWithCreation log)
    (hes : ∀ e ∈ es, e.eventType ≠ .taskCreated) : BeginsWithCreation (log ++ es) := by
  cases log with
  | nil => exact h.elim
  | cons e rest =>
      refine ⟨h.1, fun e' he' => ?_⟩
      rcases List.mem_append.mp he' with he' | he'
      · exact h.2 e' he'
      · exact hes e' he'

/-- A step that writes a row and appends events keeps the chronicle when the
events lead to the row. -/
lemma Chronicle.extend {v v' : TaskView} {row row' : TaskRow} {es : List HarnessEvent}
    (h : Chronicle v) (hrow : v.row = some row) (hrow' : v'.row = some row')
    (hlog : v'.log = v.log ++ es) (hes : ∀ e ∈ es, e.eventType ≠ .taskCreated)
    (hreplay : es.foldl replayEvent row.progress = row'.progress) : Chronicle v' := by
  rw [Chronicle, hrow] at h
  rw [Chronicle, hrow']
  constructor
  · rw [hlog]
    exact h.1.append hes
  · rw [hlog, replay_append h.2, hreplay]

@[simp] lemma movedRow_progress (target : TaskStatus) (r : TaskRow) :
    (movedRow target r).progress = { r.progress with status := target } := by
  rw [movedRow]
  split <;> rfl

/-- The class of a failure that goes to recovery, to a retry or to a dead letter
leaves the progress as it is: another event says where the task goes. -/
lemma replayEvent_classified {row : TaskRow} {report : FailureReportV1} (p : Progress)
    (h : report.sideEffectState = .unknown ∨
      report.failureClass ≠ .quotaExhausted ∧ report.failureClass ≠ .policyViolation) :
    replayEvent p (classified row report) = p := by
  rw [classified, replayEvent]
  by_cases hunknown : report.sideEffectState = .unknown
  · rw [if_pos hunknown]
  · obtain ⟨hquota, hpolicy⟩ := h.resolve_left hunknown
    rw [if_neg hunknown, if_neg hquota, if_neg hpolicy]

@[simp] lemma retriedRow_progress (retryAt : Timestamp) (cls : FailureClass) (key : Option String)
    (r : TaskRow) : (retriedRow retryAt cls key r).progress
      = { r.progress with status := .retryWait, nextAttemptAt := some retryAt } := by
  rw [retriedRow, movedRow]
  split <;> rfl

/-- The closing of a circuit says nothing about the task. -/
lemma foldl_replayEvent_closing {closing : List HarnessEvent}
    (h : ∀ e ∈ closing, ∃ key, e = .circuitClosed key) (p : Progress) :
    closing.foldl replayEvent p = p := by
  induction closing with
  | nil => rfl
  | cons e rest ih =>
      obtain ⟨key, rfl⟩ := h e (by simp)
      rw [List.foldl_cons]
      exact ih fun e' he' => h e' (by simp [he'])

/-- The retryable classes are not among those that stop a task. -/
lemma not_stopping_of_retryable {cls : FailureClass} (h : cls ∈ retryableFailures) :
    cls ≠ .quotaExhausted ∧ cls ≠ .policyViolation := by
  constructor
  · rintro rfl
    simp [retryableFailures] at h
  · rintro rfl
    simp [retryableFailures] at h

/-- **Every step of a task keeps its chronicle.** -/
theorem TaskStep.chronicle {now : Timestamp} {t : UUID} {v v' : TaskView} {op : Op}
    (h : TaskStep now t v op v') (hv : Chronicle v) : Chronicle v' := by
  cases h with
  | created card route hid hrow =>
      rw [Chronicle, hrow] at hv
      refine ⟨?_, ?_⟩
      · rw [TaskView.write, hv]
        exact ⟨rfl, by simp⟩
      · rw [TaskView.write, hv]
        rfl
  | claimed role worker mins row hrow =>
      exact hv.extend hrow rfl rfl (by simp [HarnessEvent.eventType]) rfl
  | renewed worker mins row hrow =>
      exact hv.extend hrow rfl rfl (by simp) rfl
  | heartbeatRejected worker mins row hrow =>
      exact hv.extend hrow hrow rfl (by simp [HarnessEvent.eventType]) rfl
  | swept recoveryIds row hrow =>
      exact hv.extend hrow rfl rfl (by simp [sweepEvents, HarnessEvent.eventType]) rfl
  | recovery report recoveryId row hid hrow hadm hrec =>
      refine hv.extend hrow rfl rfl (by simp [classified, HarnessEvent.eventType]) ?_
      have hunknown := (requiresRecovery_iff report).mp hrec
      rw [List.foldl_cons, replayEvent_classified _ (Or.inl hunknown), movedRow_progress]
      rfl
  | retryScheduled report recoveryId row delay hid hrow hadm hrec hretry =>
      refine hv.extend hrow rfl rfl (by simp [classified, HarnessEvent.eventType]) ?_
      have hcls := not_stopping_of_retryable hretry
      rw [List.foldl_cons, replayEvent_classified _ (Or.inr hcls), retriedRow_progress]
      rfl
  | deadLettered report recoveryId row deadLetterId reason hid hrow hadm hrec hfinal =>
      refine hv.extend hrow rfl rfl (by simp [classified, HarnessEvent.eventType]) ?_
      have hcls : report.failureClass ≠ .quotaExhausted ∧
          report.failureClass ≠ .policyViolation := by
        rcases hfinal with ⟨hretry, -, -⟩ | ⟨hperm, -⟩
        · exact not_stopping_of_retryable hretry
        · rw [hperm]
          exact ⟨by decide, by decide⟩
      rw [List.foldl_cons, replayEvent_classified _ (Or.inr hcls), movedRow_progress]
      rfl
  | stopped report recoveryId row target hid hrow hadm hrec hstop =>
      refine hv.extend hrow rfl rfl (by simp [classified, HarnessEvent.eventType]) ?_
      have hknown : report.sideEffectState ≠ .unknown := by
        intro hunknown
        rw [(requiresRecovery_iff report).mpr hunknown] at hrec
        exact Bool.noConfusion hrec
      rw [List.foldl_cons, List.foldl_nil, classified, replayEvent, if_neg hknown,
        movedRow_progress]
      rcases hstop with ⟨hcls, rfl⟩ | ⟨hcls, rfl⟩
      · rw [if_pos hcls]
      · rw [if_neg (by rw [hcls]; decide), if_pos hcls]
  | released row hrow =>
      exact hv.extend hrow rfl rfl (by simp [HarnessEvent.eventType]) rfl
  | receiptRejected receipt row hid hrow =>
      exact hv.extend hrow hrow rfl (by simp [HarnessEvent.eventType]) rfl
  | receiptAccepted receipt row receiptId closing hid hrow hown hexec hclosing =>
      refine hv.extend hrow rfl rfl ?_ ?_
      · intro e he
        rcases List.mem_cons.mp he with rfl | he
        · simp [accepted, HarnessEvent.eventType]
        · obtain ⟨key, rfl⟩ := hclosing e he
          simp [HarnessEvent.eventType]
      · rw [List.foldl_cons, foldl_replayEvent_closing hclosing, receiptRow, movedRow_progress]
        rfl
  | approvalRequested card row hid hrow =>
      refine hv.extend hrow rfl rfl (by simp [HarnessEvent.eventType]) ?_
      rw [movedRow_progress]
      rfl
  | approvalDecided approvalId decision decidedBy reason d approval row hd happ hkey hopen hrow =>
      refine hv.extend hrow rfl rfl (by simp [HarnessEvent.eventType]) ?_
      rw [movedRow_progress]
      rfl
  | transitioned target reason row hrow =>
      refine hv.extend hrow rfl rfl (by simp [HarnessEvent.eventType]) ?_
      rw [movedRow_progress]
      rfl

/-- Every step of a task extends its log. -/
lemma TaskStep.log_prefix {now : Timestamp} {t : UUID} {v v' : TaskView} {op : Op}
    (h : TaskStep now t v op v') : v.log <+: v'.log := by
  cases h <;> exact ⟨_, rfl⟩

/-- The log of a task only grows. -/
lemma log_prefix_exec (db : Db) (calls : List Call) (t : UUID) :
    db.tables.log t <+: (store.exec db calls).tables.log t := by
  refine Machine.invariant (P := fun db' : Db => db.tables.log t <+: db'.tables.log t)
    (List.prefix_refl _) fun db' call hP => ?_
  rcases view_next call db' t with hsame | hstep
  · rw [show (store.next call db').tables.log t = db'.tables.log t from congrArg TaskView.log hsame]
    exact hP
  · exact hP.trans hstep.log_prefix

/-- **The event log determines the task state**: along every run of the store
the log of a task replays to the status, attempts, owner and next attempt of
its row, every later log extends it, and the log of a task that exists begins
with its one `task_created`. -/
theorem eventLog_determines (calls : List Call) (t : UUID) :
    replay ((store.exec Db.init calls).tables.eventLog t)
        = ((store.exec Db.init calls).tables.agentTasks.get? t).map TaskRow.progress ∧
      (∀ more, (store.exec Db.init calls).tables.eventLog t
        <+: (store.exec Db.init (calls ++ more)).tables.eventLog t) ∧
      (((store.exec Db.init calls).tables.agentTasks.get? t).isSome →
        BeginsWithCreation ((store.exec Db.init calls).tables.eventLog t)) := by
  have hchron : Chronicle ((store.exec Db.init calls).tables.view t) :=
    view_exec (A := fun _ => True) (fun _ _ => trivial) t rfl
      fun _ _ _ _ _ hstep => hstep.chronicle
  set s := (store.exec Db.init calls).tables with hs
  rw [hs, eventLog_eq, ← hs]
  refine ⟨?_, fun more => ?_, fun hsome => ?_⟩
  · cases hrow : s.agentTasks.get? t with
    | none =>
        have hlog : s.log t = [] := by
          simpa only [Chronicle, Tables.view, hrow] using hchron
        rw [hlog]
        rfl
    | some row =>
        have hboth : BeginsWithCreation (s.log t) ∧ replay (s.log t) = some row.progress := by
          simpa only [Chronicle, Tables.view, hrow] using hchron
        exact hboth.2
  · rw [eventLog_eq, Machine.exec_append]
    exact log_prefix_exec _ more t
  · obtain ⟨row, hrow⟩ := Option.isSome_iff_exists.mp hsome
    have hboth : BeginsWithCreation (s.log t) ∧ replay (s.log t) = some row.progress := by
      simpa only [Chronicle, Tables.view, hrow] using hchron
    exact hboth.1

end ControlHarness

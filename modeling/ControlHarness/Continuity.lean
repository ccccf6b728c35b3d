import ControlHarness.Answers
import ControlHarness.Lifecycle.Completion
import ControlHarness.Lifecycle.Execution
import ControlHarness.Lifecycle.Recovery

/-!
The recovery exercise of `continuity.py`.

Three fixtures are seeded into a database, a worker claims one of them and is
killed, and on the restored copy the last program lets the lease expire and looks
whether the harness answers with a recovery card and not with a second attempt.

* `Fixture.card`, `seedFixture`, `claimCrashFixture`, `recoverExpiredFixture`: the
  programs, as sequences of calls of the store.
* `Tables.Recovers`: the lease of the fixture, and no other, expires.
* `recovery_proved`: what the last program proves. It returns exactly when the one
  lease that it finds expired is the fixture's, or the fixture was swept before and
  somebody else's expires, and then nothing executes the fixture ever again.
* `exercise_recovers`: the whole exercise returns beside any tasks whose leases do
  not expire in it.
-/

namespace ControlHarness

open Store

/-! ### Sequences of calls -/

/-- What ends a program early. -/
inductive ExerciseRaised where
  | store (e : Raised)
  | runtime (detail : String)
  deriving DecidableEq, Repr

/-- A program over the database; what it did before it was ended stays done. -/
abbrev Exercise (α : Type) : Type := ExceptT ExerciseRaised (StateM Db) α

namespace Exercise

/-- A call of the store. -/
def call (c : Call) : Exercise Reply := ExceptT.mk fun db =>
  let r := store.step c db
  (r.1.mapError .store, r.2)

/-- `Store.get_task`. -/
def getTask (taskId : UUID) : Exercise TaskRow := ExceptT.mk fun db =>
  ((db.tables.agentTasks.get? taskId).elim (.error (.store (taskNotFound taskId))) .ok, db)

/-- A read of the tables. -/
def look {α : Type} (f : Tables → α) : Exercise α := ExceptT.mk fun db => (.ok (f db.tables), db)

variable {α β : Type} {x : Exercise α} {k : α → Exercise β} {db db' : Db}

lemma run_bind : (x >>= k).run db = match x.run db with
    | (.ok a, db') => (k a).run db'
    | (.error e, db') => (.error e, db') := by
  change ExceptT.bindCont k (x.run db).1 (x.run db).2 = _
  rcases x.run db with ⟨_ | _, _⟩ <;> rfl

lemma run_bind_ok {a : α} (h : x.run db = (.ok a, db')) : (x >>= k).run db = (k a).run db' := by
  rw [run_bind, h]

lemma run_bind_error {e : ExerciseRaised} (h : x.run db = (.error e, db')) :
    (x >>= k).run db = (.error e, db') := by
  rw [run_bind, h]

lemma run_call {c : Call} {reply : Reply} (h : store.step c db = (.ok reply, db')) :
    (call c).run db = (.ok reply, db') :=
  congrArg (fun r : Except Raised Reply × Db => (r.1.mapError ExerciseRaised.store, r.2)) h

lemma run_call_error {c : Call} {e : Raised} (h : store.step c db = (.error e, db')) :
    (call c).run db = (.error (.store e), db') :=
  congrArg (fun r : Except Raised Reply × Db => (r.1.mapError ExerciseRaised.store, r.2)) h

lemma run_getTask_some {t : UUID} {row : TaskRow} (h : db.tables.agentTasks.get? t = some row) :
    (getTask t).run db = (.ok row, db) := by
  have hrun : (getTask t).run db = ((db.tables.agentTasks.get? t).elim
    (.error (.store (taskNotFound t))) .ok, db) := rfl
  rw [hrun, h]
  rfl

lemma run_getTask_none {t : UUID} (h : db.tables.agentTasks.get? t = none) :
    (getTask t).run db = (.error (.store (taskNotFound t)), db) := by
  have hrun : (getTask t).run db = ((db.tables.agentTasks.get? t).elim
    (.error (.store (taskNotFound t))) .ok, db) := rfl
  rw [hrun, h]
  rfl

end Exercise

/-! ### The fixtures -/

/-- The three fixtures. -/
inductive Fixture where
  | ready | expired | done
  deriving DecidableEq, Repr

namespace Fixture

/-- `READY_TASK_ID`, `EXPIRED_TASK_ID`, `DONE_TASK_ID`. -/
def taskId : Fixture → UUID
  | ready => ⟨0x26000000000040008000000000000001⟩
  | expired => ⟨0x26000000000040008000000000000002⟩
  | done => ⟨0x26000000000040008000000000000003⟩

/-- The suffix of a fixture. -/
def suffix : Fixture → String
  | ready => "01"
  | expired => "02"
  | done => "03"

/-- The correlation that ends with the suffix. -/
def correlationId : Fixture → UUID
  | ready => ⟨0x26000000000040008000000000000101⟩
  | expired => ⟨0x26000000000040008000000000000102⟩
  | done => ⟨0x26000000000040008000000000000103⟩

lemma title_length (f : Fixture) :
    HasLength 8 160 ("P2-6 continuity fixture " ++ f.suffix) := by
  cases f <;> decide

lemma idempotencyKey_length (f : Fixture) :
    HasLength 16 128 ("sha256:p2-6-continuity-fixture-" ++ f.suffix) := by
  cases f <;> decide

end Fixture

lemma readOnlyMonitor_pattern : IsTaskClass "read_only_monitor" := by decide

/-- `_fixture_card`. -/
def Fixture.card (f : Fixture) (createdAt : Timestamp) : TaskCardV1 where
  taskId := f.taskId
  correlationId := f.correlationId
  title := "P2-6 continuity fixture " ++ f.suffix
  project := "harness-golden-path"
  taskClass := "read_only_monitor"
  ownerRole := .hermesNas
  objective := "Prove deterministic backup, restore, and lease recovery behavior."
  scope := { includePaths := ["isolated-p2-6-test-stack"] }
  acceptance := ["Recovered state matches the source manifest exactly"]
  budget :=
    { maxRuntimeMinutes := 30
      maxAttempts := 2
      attempts_range := sampleCard.budget.attempts_range }
  modelRouting := monitorRouting
  idempotencyKey := "sha256:p2-6-continuity-fixture-" ++ f.suffix
  createdAt := createdAt
  title_length := f.title_length
  project_pattern := sampleCard.project_pattern
  taskClass_pattern := readOnlyMonitor_pattern
  idempotencyKey_length := f.idempotencyKey_length
  approval_length := noApproval_length
  long_only_nas := fun _ => rfl

/-- The row that `create_task` makes of a fixture. -/
def Fixture.row (f : Fixture) (now : Timestamp) : TaskRow :=
  newTask (f.card now) "deterministic_monitor" now

/-- The receipt of the fixture that is done. -/
def fixtureReceipt (createdAt : Timestamp) : ResultReceiptV1 where
  taskId := Fixture.done.taskId
  correlationId := Fixture.done.correlationId
  workerInstance := "p2-6-completed-worker"
  outcome := .completed
  summary := "Controlled continuity fixture completed without side effects."
  costReceipt :=
    { providerClass := .localModel
      modelRef := "deterministic_monitor"
      subscriptionQuotaConsumed := false
      quotaStatus := .unavailable
      modelRef_pattern := monitorRouting.route_ref _ List.mem_cons_self
      not_metered := fun h => nomatch h }
  createdAt := createdAt

/-! ### The programs -/

/-- `seed_fixture`, at the times of the clock; its answer is a manifest. -/
def seedFixture (clock : ℕ → Timestamp) : Exercise Unit := do
  let _ ← Exercise.call ⟨.createTask (Fixture.card .ready (clock 0)), clock 0⟩
  let _ ← Exercise.call ⟨.createTask (Fixture.card .expired (clock 1)), clock 1⟩
  let _ ← Exercise.call ⟨.createTask (Fixture.card .done (clock 2)), clock 2⟩
  let _ ← Exercise.call
    ⟨.claim Fixture.done.taskId "hermes_nas" "p2-6-completed-worker" 10, clock 3⟩
  let _ ← Exercise.call ⟨.submitReceipt (fixtureReceipt (clock 4)), clock 4⟩
  pure ()

/-- `claim_crash_fixture`. -/
def claimCrashFixture (now : Timestamp) : Exercise TaskRow := do
  match ← Exercise.call ⟨.claim Fixture.expired.taskId "hermes_nas" "p2-6-crashed-worker" 0, now⟩
  with
  | .claimed (some row) => pure row
  | _ => throw (.runtime "P2-6 crash fixture was not claimable")

/-- The result of `recover_expired_fixture`. -/
structure RecoveryResult where
  expiredCount : ℕ
  secondExpiryCount : ℕ
  status : TaskStatus
  attemptCount : ℕ
  recoveryCardCount : ℕ
  recoveryTrigger : Option String
  blindRetryClaimed : Bool
  deriving DecidableEq, Repr

/-- The result that is expected. -/
def expectedRecovery : RecoveryResult where
  expiredCount := 1
  secondExpiryCount := 0
  status := .recoveryRequired
  attemptCount := 1
  recoveryCardCount := 1
  recoveryTrigger := some "lease_expired"
  blindRetryClaimed := false

/-- The rows of a reply. -/
def Reply.listed : Reply → List TaskRow
  | rows rs => rs
  | _ => []

/-- A claim was answered with a row. -/
def Reply.isClaimed : Reply → Bool
  | claimed r => r.isSome
  | _ => false

/-- The recovery cards of a task in the snapshot of the resilience. -/
def matchingCards (s : Tables) (t : UUID) : List RecoveryCardRow :=
  match App.resilienceSnapshot s with
  | .resilience _ _ cards => cards.filter fun card => card.taskId = t
  | _ => []

/-- The claim that must not succeed. -/
def blindRetryCall (now : Timestamp) : Call :=
  ⟨.claim Fixture.expired.taskId "hermes_nas" "p2-6-blind-retry" 10, now⟩

/-- `recover_expired_fixture`: the two sweeps and the claim are at the three times, and
the sweeps draw the given identifiers. The detail of its error also shows the
result. -/
def recoverExpiredFixture (first second third : Timestamp) (ids ids' : UUID → UUID) :
    Exercise RecoveryResult := do
  let expired ← Exercise.call ⟨.expireLeases ids, first⟩
  let secondExpiry ← Exercise.call ⟨.expireLeases ids', second⟩
  let blindRetry ← Exercise.call (blindRetryCall third)
  let task ← Exercise.getTask Fixture.expired.taskId
  let cards ← Exercise.look fun s => matchingCards s Fixture.expired.taskId
  let result : RecoveryResult :=
    { expiredCount := expired.listed.length
      secondExpiryCount := secondExpiry.listed.length
      status := task.status
      attemptCount := task.attemptCount
      recoveryCardCount := cards.length
      recoveryTrigger := cards.head?.map (·.trigger)
      blindRetryClaimed := blindRetry.isClaimed }
  if result ≠ expectedRecovery then throw (.runtime "P2-6 recovery invariant failed")
  else pure result

/-! ### The calls of the last program -/

section

variable {db db' : Db} {now : Timestamp} {ids : UUID → UUID}

/-- What a call that is answered does. -/
lemma effect_of_step {c : Call} {reply : Reply} (h : store.step c db = (.ok reply, db')) :
    Effect c.now db.tables c.op (.ok reply) db'.tables := by
  have heff := store_effect c db
  rw [Machine.out, Machine.next, h] at heff
  exact heff

/-- What a sweep answers and leaves. -/
lemma sweep_spec {reply : Reply} (h : store.step ⟨.expireLeases ids, now⟩ db = (.ok reply, db')) :
    reply = .rows ((db.tables.agentTasks.rows.filter (expired now)).map sweptRow) ∧
      db'.tables.agentTasks
        = db.tables.agentTasks.updateWhere (expired now) sweptRow sweptRow_taskId ∧
      db'.tables.recoveryCards.rows
        = db.tables.recoveryCards.rows ++ (db.tables.agentTasks.rows.filter (expired now)).map
          fun r => newRecoveryCard r "lease_expired" sweepReason (ids r.taskId) now := by
  have heff := effect_of_step h
  generalize db'.tables = s' at heff ⊢
  cases heff with
  | swept _ evs cards hlog hcards => exact ⟨rfl, rfl, hcards⟩

/-- A sweep that draws new identifiers is answered. -/
lemma sweep_answered (h : DrawsFresh db now ids) :
    ∃ rows db', store.step ⟨.expireLeases ids, now⟩ db = (.ok (.rows rows), db') := by
  obtain ⟨cards, hcards⟩ := Option.isSome_iff_exists.mp h
  obtain ⟨rows, hout⟩ := expireLeases_accepted now hcards
  exact ⟨rows, _, Prod.ext hout rfl⟩

/-- A sweep that finds no lease expired draws nothing. -/
lemma drawsFresh_of_none (h : db.tables.agentTasks.rows.filter (expired now) = []) :
    DrawsFresh db now ids := by
  rw [DrawsFresh, h, List.map_nil, Table.append?_eq_some.mpr (List.append_nil _).symm]
  rfl

/-- The snapshot lists the cards of a task. -/
lemma matchingCards_perm (s : Tables) (t : UUID) :
    (matchingCards s t).Perm (s.view t).recoveryCards :=
  (List.perm_insertionSort _ _).filter _

lemma matchingCards_eq_singleton {s : Tables} {t : UUID} {card : RecoveryCardRow} :
    matchingCards s t = [card] ↔ (s.view t).recoveryCards = [card] := by
  have hperm := matchingCards_perm s t
  constructor
  · intro h
    rw [h] at hperm
    exact (List.singleton_perm.mp hperm).symm
  · intro h
    rw [h] at hperm
    exact List.perm_singleton.mp hperm

end

/-- The fixture was swept after one attempt. -/
def Tables.Swept (s : Tables) : Prop :=
  ∃ row card, s.agentTasks.get? Fixture.expired.taskId = some row ∧
    row.status = .recoveryRequired ∧ row.attemptCount = 1 ∧
    (s.view Fixture.expired.taskId).recoveryCards = [card] ∧ card.trigger = "lease_expired"

/-- What the last program finds after its calls. -/
def RecoveryResult.found (r₁ r₂ r₃ : Reply) (row : TaskRow) (cards : List RecoveryCardRow) :
    RecoveryResult where
  expiredCount := r₁.listed.length
  secondExpiryCount := r₂.listed.length
  status := row.status
  attemptCount := row.attemptCount
  recoveryCardCount := cards.length
  recoveryTrigger := cards.head?.map (·.trigger)
  blindRetryClaimed := r₃.isClaimed

/-- The program finds what it expects. -/
lemma RecoveryResult.found_eq_iff {r₁ r₂ r₃ : Reply} {row : TaskRow}
    {cards : List RecoveryCardRow} :
    found r₁ r₂ r₃ row cards = expectedRecovery ↔
      r₁.listed.length = 1 ∧ r₂.listed.length = 0 ∧ r₃.isClaimed = false ∧
        row.status = .recoveryRequired ∧ row.attemptCount = 1 ∧
        ∃ card, cards = [card] ∧ card.trigger = "lease_expired" := by
  rw [found, expectedRecovery, RecoveryResult.mk.injEq]
  constructor
  · rintro ⟨hfirst, hsecond, hstatus, hattempts, hlength, htrigger, hclaimed⟩
    obtain ⟨card, rfl⟩ := List.length_eq_one_iff.mp hlength
    exact ⟨hfirst, hsecond, hclaimed, hstatus, hattempts, card, rfl, by simpa using htrigger⟩
  · rintro ⟨hfirst, hsecond, hclaimed, hstatus, hattempts, card, rfl, htrigger⟩
    exact ⟨hfirst, hsecond, hstatus, hattempts, rfl, by simp [htrigger], hclaimed⟩

/-- The three calls of the last program are answered. -/
structure RecoveryCalls (first second third : Timestamp) (ids ids' : UUID → UUID)
    (db db₁ db₂ db₃ : Db) (r₁ r₂ r₃ : Reply) : Prop where
  sweep : store.step ⟨.expireLeases ids, first⟩ db = (.ok r₁, db₁)
  again : store.step ⟨.expireLeases ids', second⟩ db₁ = (.ok r₂, db₂)
  claim : store.step (blindRetryCall third) db₂ = (.ok r₃, db₃)

section

variable {first second third : Timestamp} {ids ids' : UUID → UUID} {db db₁ db₂ db₃ : Db}
  {r₁ r₂ r₃ : Reply} {result : RecoveryResult}

/-- Where the last program returns, its calls are answered. -/
lemma recovery_answered
    (h : ((recoverExpiredFixture first second third ids ids').run db).1 = .ok result) :
    ∃ db₁ db₂ db₃ r₁ r₂ r₃, RecoveryCalls first second third ids ids' db db₁ db₂ db₃ r₁ r₂ r₃ := by
  rw [recoverExpiredFixture] at h
  rcases h₁ : store.step ⟨.expireLeases ids, first⟩ db with ⟨e | r₁, db₁⟩
  · rw [Exercise.run_bind_error (Exercise.run_call_error h₁)] at h
    exact absurd h (by simp)
  rw [Exercise.run_bind_ok (Exercise.run_call h₁)] at h
  rcases h₂ : store.step ⟨.expireLeases ids', second⟩ db₁ with ⟨e | r₂, db₂⟩
  · rw [Exercise.run_bind_error (Exercise.run_call_error h₂)] at h
    exact absurd h (by simp)
  rw [Exercise.run_bind_ok (Exercise.run_call h₂)] at h
  rcases h₃ : store.step (blindRetryCall third) db₂ with ⟨e | r₃, db₃⟩
  · rw [Exercise.run_bind_error (Exercise.run_call_error h₃)] at h
    exact absurd h (by simp)
  exact ⟨db₁, db₂, db₃, r₁, r₂, r₃, h₁, h₂, h₃⟩

/-- The run of the last program after its calls, which nothing changes any more. -/
lemma RecoveryCalls.run (h : RecoveryCalls first second third ids ids' db db₁ db₂ db₃ r₁ r₂ r₃) :
    (recoverExpiredFixture first second third ids ids').run db
      = ((db₃.tables.agentTasks.get? Fixture.expired.taskId).elim
          (.error (.store (taskNotFound Fixture.expired.taskId))) fun row =>
            let result := RecoveryResult.found r₁ r₂ r₃ row
              (matchingCards db₃.tables Fixture.expired.taskId)
            if result ≠ expectedRecovery then .error (.runtime "P2-6 recovery invariant failed")
            else .ok result, db₃) := by
  rw [recoverExpiredFixture, Exercise.run_bind_ok (Exercise.run_call h.sweep),
    Exercise.run_bind_ok (Exercise.run_call h.again),
    Exercise.run_bind_ok (Exercise.run_call h.claim)]
  cases hrow : db₃.tables.agentTasks.get? Fixture.expired.taskId with
  | none => exact Exercise.run_bind_error (Exercise.run_getTask_none hrow)
  | some row =>
      have hcards : (Exercise.look fun s => matchingCards s Fixture.expired.taskId).run db₃
          = (.ok (matchingCards db₃.tables Fixture.expired.taskId), db₃) := rfl
      rw [Exercise.run_bind_ok (Exercise.run_getTask_some hrow), Exercise.run_bind_ok hcards]
      simp only [Option.elim_some]
      by_cases hresult : RecoveryResult.found r₁ r₂ r₃ row
          (matchingCards db₃.tables Fixture.expired.taskId) ≠ expectedRecovery
      · rw [if_pos hresult]
        exact congrArg (fun x : Exercise RecoveryResult => x.run db₃) (if_pos hresult)
      · rw [if_neg hresult]
        exact congrArg (fun x : Exercise RecoveryResult => x.run db₃) (if_neg hresult)

/-- **When the last program returns**: what it finds after its calls is what it
expects. -/
lemma RecoveryCalls.ok_iff (h : RecoveryCalls first second third ids ids' db db₁ db₂ db₃ r₁ r₂ r₃) :
    ((recoverExpiredFixture first second third ids ids').run db).1 = .ok result ↔
      result = expectedRecovery ∧ r₁.listed.length = 1 ∧ r₂.listed.length = 0 ∧
        r₃.isClaimed = false ∧ db₃.tables.Swept := by
  rw [h.run]
  cases hrow : db₃.tables.agentTasks.get? Fixture.expired.taskId with
  | none => simp [Tables.Swept, hrow]
  | some row =>
      have hfound : RecoveryResult.found r₁ r₂ r₃ row
          (matchingCards db₃.tables Fixture.expired.taskId) = expectedRecovery ↔ _ :=
        RecoveryResult.found_eq_iff
      simp only [Option.elim_some, matchingCards_eq_singleton] at hfound ⊢
      split
      · rename_i hne
        refine iff_of_false (by simp) ?_
        rintro ⟨-, hfirst, hsecond, hclaimed, row', card, hr, hstatus, hattempts, hcards⟩
        obtain rfl := Option.some.inj (hrow.symm.trans hr)
        exact hne (hfound.mpr ⟨hfirst, hsecond, hclaimed, hstatus, hattempts, card, hcards⟩)
      · rename_i heq
        obtain ⟨hfirst, hsecond, hclaimed, hstatus, hattempts, card, hcards⟩ :=
          hfound.mp (not_not.mp heq)
        rw [not_not.mp heq, Except.ok.injEq]
        constructor
        · rintro rfl
          exact ⟨rfl, hfirst, hsecond, hclaimed, row, card, hrow, hstatus, hattempts, hcards⟩
        · exact fun hall => hall.1.symm

end

/-! ### What the last program proves -/

/-- One lease is past at the first time, no other at the second, and it is that of the
fixture, unless the fixture was swept before. -/
def Tables.Recovers (s : Tables) (first second : Timestamp) : Prop :=
  ∃ r, s.agentTasks.rows.filter (expired first) = [r] ∧
    (∀ row ∈ s.agentTasks.rows, expired second row = true → row = r) ∧
    (r.taskId = Fixture.expired.taskId ∧ r.attemptCount = 1 ∨ s.Swept)

section

variable {first second third : Timestamp} {ids ids' : UUID → UUID} {db db₁ db₂ db₃ : Db}
  {r₁ r₂ r₃ : Reply}

lemma expired_sweptRow (now : Timestamp) (row : TaskRow) : expired now (sweptRow row) = false := by
  rw [Bool.eq_false_iff]
  intro h
  exact not_isExecution_recoveryRequired (isExecution_of_expired h)

/-- A sweep leaves only leases that it did not find expired. -/
lemma filter_expired_swept {t : Table TaskRow.taskId} :
    (t.updateWhere (expired first) sweptRow sweptRow_taskId).rows.filter (expired second) = [] ↔
      ∀ row ∈ t.rows, expired second row = true → expired first row = true := by
  rw [Table.rows_updateWhere, List.filter_eq_nil_iff]
  simp only [List.forall_mem_map, Bool.not_eq_true]
  refine forall₂_congr fun row _ => ?_
  cases hfirst : expired first row with
  | true => simp [expired_sweptRow]
  | false => simp

/-- The tables after the calls of the last program, when the second sweep finds nothing
and the claim is refused. -/
lemma RecoveryCalls.tables
    (h : RecoveryCalls first second third ids ids' db db₁ db₂ db₃ r₁ r₂ r₃)
    (hsecond : r₂.listed.length = 0) (hclaimed : r₃.isClaimed = false) :
    db₃.tables.agentTasks
        = db.tables.agentTasks.updateWhere (expired first) sweptRow sweptRow_taskId ∧
      db₃.tables.recoveryCards.rows = db.tables.recoveryCards.rows ++
        (db.tables.agentTasks.rows.filter (expired first)).map fun r =>
          newRecoveryCard r "lease_expired" sweepReason (ids r.taskId) first := by
  obtain ⟨-, htasks₁, hcards₁⟩ := sweep_spec h.sweep
  obtain ⟨rfl, htasks₂, hcards₂⟩ := sweep_spec h.again
  rw [Reply.listed, List.length_map, List.length_eq_zero_iff] at hsecond
  have htables : db₃.tables = db₂.tables := by
    have heff := effect_of_step h.claim
    generalize db₃.tables = s' at heff ⊢
    cases heff with
    | notClaimed => rfl
    | claimed => exact absurd hclaimed (by simp [Reply.isClaimed])
  rw [htables]
  constructor
  · rw [htasks₂, ← htasks₁]
    refine Table.updateWhere_eq_self fun row hrow => ?_
    exact Bool.eq_false_iff.mpr (List.filter_eq_nil_iff.mp hsecond row hrow)
  · rw [hcards₂, hsecond, List.map_nil, List.append_nil, hcards₁]

/-- The cards of a task after a sweep that takes one lease. -/
lemma cards_after {s s' : Tables} {r : TaskRow} {id : UUID} {now : Timestamp} {t : UUID}
    (h : s'.recoveryCards.rows = s.recoveryCards.rows ++
      [newRecoveryCard r "lease_expired" sweepReason id now]) :
    (s'.view t).recoveryCards = (s.view t).recoveryCards ++
      if r.taskId = t then [newRecoveryCard r "lease_expired" sweepReason id now] else [] := by
  have hview : ∀ u : Tables, (u.view t).recoveryCards
      = u.recoveryCards.rows.filter fun c => c.taskId = t := fun _ => rfl
  rw [hview, hview, h, List.filter_append]
  by_cases ht : r.taskId = t <;> simp [newRecoveryCard, ht]

lemma expired_of_filter {s : Tables} {now : Timestamp} {r : TaskRow}
    (h : s.agentTasks.rows.filter (expired now) = [r]) :
    r ∈ s.agentTasks.rows ∧ expired now r = true := by
  have hmem : r ∈ s.agentTasks.rows.filter (expired now) := by simp [h]
  exact List.mem_filter.mp hmem

/-- Where the lease of a task is not past, one that is past is somebody else's. -/
lemma other_of_expired {s : Tables} {now : Timestamp} {r q : TaskRow} {t : UUID}
    (hr : r ∈ s.agentTasks.rows) (hexp : expired now r = true)
    (hq : s.agentTasks.get? t = some q) (hidle : ¬ expired now q = true) : r.taskId ≠ t := by
  rintro rfl
  have hsame : r = q := Option.some.inj ((Table.get?_of_mem hr).symm.trans hq)
  exact hidle (hsame ▸ hexp)

/-- **The last program is sound**: where it returns, the one lease that it found is the
fixture's, or the fixture was swept before. -/
lemma RecoveryCalls.recovers
    (h : RecoveryCalls first second third ids ids' db db₁ db₂ db₃ r₁ r₂ r₃)
    (hfirst : r₁.listed.length = 1) (hsecond : r₂.listed.length = 0)
    (hclaimed : r₃.isClaimed = false) (hswept : db₃.tables.Swept) :
    DrawsFresh db first ids ∧ db.tables.Recovers first second := by
  obtain ⟨htasks, hall⟩ := h.tables hsecond hclaimed
  obtain ⟨rfl, htasks₁, hcards₁⟩ := sweep_spec h.sweep
  obtain ⟨rfl, -, -⟩ := sweep_spec h.again
  rw [Reply.listed, List.length_map] at hfirst
  obtain ⟨r, hr⟩ := List.length_eq_one_iff.mp hfirst
  obtain ⟨hmem, hexp⟩ := expired_of_filter hr
  have honly : ∀ {q}, q ∈ db.tables.agentTasks.rows → expired first q = true → q = r := by
    intro q hq hexp
    have hqr : q ∈ db.tables.agentTasks.rows.filter (expired first) :=
      List.mem_filter.mpr ⟨hq, hexp⟩
    rw [hr] at hqr
    exact List.mem_singleton.mp hqr
  refine ⟨?_, r, hr, fun q hq hlater => ?_, ?_⟩
  · have hfresh : db.tables.recoveryCards.append? ((db.tables.agentTasks.rows.filter
        (expired first)).map (sweepCard ids first)) = some db₁.tables.recoveryCards :=
      Table.append?_eq_some.mpr hcards₁
    rw [DrawsFresh, hfresh]
    rfl
  · rw [Reply.listed, List.length_map, List.length_eq_zero_iff, htasks₁, filter_expired_swept]
      at hsecond
    exact honly hq (hsecond q hq hlater)
  · obtain ⟨row, card, hrow, hstatus, hattempts, hcards, htrigger⟩ := hswept
    rw [htasks, Table.get?_updateWhere] at hrow
    obtain ⟨q, hq, rfl⟩ := Option.map_eq_some_iff.mp hrow
    rw [hr, List.map_singleton] at hall
    have hview := cards_after (t := Fixture.expired.taskId) hall
    by_cases hqexp : expired first q = true
    · -- the lease of the fixture
      obtain rfl := honly (Table.mem_of_get? hq) hqexp
      rw [if_pos hqexp] at hattempts
      exact Or.inl ⟨Table.key_of_get? hq, hattempts⟩
    · -- somebody else's lease
      rw [if_neg (other_of_expired hmem hexp hq hqexp), List.append_nil] at hview
      rw [if_neg hqexp] at hstatus hattempts
      exact Or.inr ⟨q, card, hq, hstatus, hattempts, hview.symm.trans hcards, htrigger⟩

/-- The fixture after a sweep that takes the one lease. -/
lemma Tables.Recovers.after {s s' : Tables} {id : UUID → UUID}
    (h : s.Recovers first second) (horderly : Orderly (s.view Fixture.expired.taskId))
    (htasks : s'.agentTasks = s.agentTasks.updateWhere (expired first) sweptRow sweptRow_taskId)
    (hcards : s'.recoveryCards.rows = s.recoveryCards.rows ++
      (s.agentTasks.rows.filter (expired first)).map fun r =>
        newRecoveryCard r "lease_expired" sweepReason (id r.taskId) first) :
    s'.Swept := by
  obtain ⟨r, hr, -, hwhich⟩ := h
  obtain ⟨hmem, hexp⟩ := expired_of_filter hr
  rw [hr, List.map_singleton] at hcards
  have hview := cards_after (t := Fixture.expired.taskId) hcards
  rcases hwhich with ⟨hkey, hattempts⟩ | ⟨row, card, hrow, hstatus, hattempts, hall, htrigger⟩
  · -- the lease of the fixture
    have hrow : s.agentTasks.get? Fixture.expired.taskId = some r := hkey ▸ Table.get?_of_mem hmem
    rw [(horderly.clear hrow (Or.inr (Or.inl (isExecution_of_expired hexp)))).2, if_pos hkey,
      List.nil_append] at hview
    refine ⟨sweptRow r, _, ?_, rfl, hattempts, hview, rfl⟩
    rw [htasks, Table.get?_updateWhere, hrow, Option.map_some, if_pos hexp]
  · -- somebody else's lease
    have hidle : ¬ expired first row = true := by
      intro hexp'
      have hexec := isExecution_of_expired hexp'
      rw [hstatus] at hexec
      exact not_isExecution_recoveryRequired hexec
    rw [if_neg (other_of_expired hmem hexp hrow hidle), List.append_nil] at hview
    refine ⟨row, card, ?_, hstatus, hattempts, hview.trans hall, htrigger⟩
    rw [htasks, Table.get?_updateWhere, hrow, Option.map_some, if_neg hidle]

/-- **The last program is complete**: where the one lease that expires is the fixture's, it
returns. -/
lemma Tables.Recovers.calls (h : db.tables.Recovers first second)
    (horderly : Orderly (db.tables.view Fixture.expired.taskId))
    (hdraws : DrawsFresh db first ids) (third : Timestamp) (ids' : UUID → UUID) :
    ∃ db₁ db₂ db₃ r₁ r₂ r₃,
      RecoveryCalls first second third ids ids' db db₁ db₂ db₃ r₁ r₂ r₃ ∧
        r₁.listed.length = 1 ∧ r₂.listed.length = 0 ∧ r₃.isClaimed = false ∧
        db₃.tables.Swept := by
  obtain ⟨rows₁, db₁, hsweep⟩ := sweep_answered hdraws
  obtain ⟨hrows₁, htasks₁, hcards₁⟩ := sweep_spec hsweep
  have hswept : db₁.tables.Swept := h.after horderly htasks₁ hcards₁
  obtain ⟨r, hr, hlater, -⟩ := h
  have hnone : db₁.tables.agentTasks.rows.filter (expired second) = [] := by
    rw [htasks₁, filter_expired_swept]
    intro q hq hq'
    rw [hlater q hq hq']
    exact (expired_of_filter hr).2
  have hdraws' : DrawsFresh db₁ second ids' := drawsFresh_of_none hnone
  obtain ⟨rows₂, db₂, hagain⟩ := sweep_answered hdraws'
  obtain ⟨hrows₂, htasks₂, hcards₂⟩ := sweep_spec hagain
  -- the second sweep and the claim leave the fixture alone
  have htasks : db₂.tables.agentTasks = db₁.tables.agentTasks := by
    rw [htasks₂, Table.updateWhere_eq_self]
    exact fun q hq => Bool.eq_false_iff.mpr (List.filter_eq_nil_iff.mp hnone q hq)
  have hcards : db₂.tables.recoveryCards = db₁.tables.recoveryCards := by
    refine Table.ext ?_
    rw [hcards₂, hnone, List.map_nil, List.append_nil]
  have hswept₂ : db₂.tables.Swept := by
    obtain ⟨row, card, hrow, hstatus, hattempts, hall, htrigger⟩ := hswept
    refine ⟨row, card, htasks ▸ hrow, hstatus, hattempts, ?_, htrigger⟩
    rw [Tables.view, hcards]
    exact hall
  obtain ⟨row, -, hrow, hstatus, -⟩ := id hswept₂
  have hmins : IntervalMins 10 := by decide
  obtain ⟨hout, hsame⟩ := claim_refused "hermes_nas" "p2-6-blind-retry" third hmins hrow
    (by rw [hstatus]; decide)
  refine ⟨db₁, db₂, store.next (blindRetryCall third) db₂, .rows rows₁, .rows rows₂,
    .claimed none, ⟨hsweep, hagain, Prod.ext hout rfl⟩, ?_, ?_, rfl, ?_⟩
  · rw [hrows₁, Reply.listed, List.length_map, hr]
    rfl
  · rw [hrows₂, Reply.listed, List.length_map, hnone]
    rfl
  · rw [blindRetryCall, hsame]
    exact hswept₂

/-- The lease of the fixture is the only one that is past. -/
lemma Tables.recovers_of_only {s : Tables} {r : TaskRow}
    (hrow : s.agentTasks.get? Fixture.expired.taskId = some r) (hexp : expired first r = true)
    (hattempts : r.attemptCount = 1)
    (hothers : ∀ row ∈ s.agentTasks.rows, row.taskId ≠ Fixture.expired.taskId →
      expired first row = false ∧ expired second row = false) :
    s.agentTasks.rows.filter (expired first) = [r] ∧ s.Recovers first second := by
  have hkey : ∀ row ∈ s.agentTasks.rows, expired first row = true ∨ expired second row = true →
      row.taskId = Fixture.expired.taskId := by
    intro row hmem hpast
    by_contra hne
    obtain ⟨h₁, h₂⟩ := hothers row hmem hne
    rw [h₁, h₂] at hpast
    exact hpast.elim Bool.noConfusion Bool.noConfusion
  have hsame : ∀ row ∈ s.agentTasks.rows, row.taskId = Fixture.expired.taskId → row = r :=
    fun row hmem hid => Option.some.inj ((hid ▸ Table.get?_of_mem hmem).symm.trans hrow)
  have hfilter : s.agentTasks.rows.filter (expired first) = [r] := by
    have hone := Table.filter_key_filter s.agentTasks (expired first) Fixture.expired.taskId
    rw [hrow, Option.filter_some, if_pos hexp, Option.toList_some] at hone
    rw [← hone]
    refine (List.filter_eq_self.mpr fun row hmem => decide_eq_true ?_).symm
    obtain ⟨hmem, hpast⟩ := List.mem_filter.mp hmem
    exact hkey row hmem (Or.inl hpast)
  exact ⟨hfilter, r, hfilter, fun row hmem hpast => hsame row hmem (hkey row hmem (Or.inr hpast)),
    Or.inl ⟨Table.key_of_get? hrow, hattempts⟩⟩

end

/-- The state after an answered call of the surface. -/
lemma Reached.of_step {c : Call} {reply : Reply} {db db' : Db} (h : Reached db)
    (hstep : store.step c db = (.ok reply, db')) (hhttp : c.op.Http) : Reached db' := by
  have hnext : store.next c db = db' := congrArg Prod.snd hstep
  rw [← hnext]
  exact h.next c hhttp

/-- **What the last program proves**: in every reachable state it returns exactly when the
one lease that expires is that of the fixture after one attempt, or the fixture was swept
before. Then nothing executes the fixture again, whatever calls follow. -/
theorem recovery_proved {db : Db} (hreach : Reached db) (first second third : Timestamp)
    (ids ids' : UUID → UUID) :
    ((∃ result, ((recoverExpiredFixture first second third ids ids').run db).1 = .ok result) ↔
        DrawsFresh db first ids ∧ db.tables.Recovers first second) ∧
      ∀ result, ((recoverExpiredFixture first second third ids ids').run db).1 = .ok result →
        result = expectedRecovery ∧ ∀ more : List Call, (∀ c ∈ more, c.op.Http) →
          InRecovery 1 ((store.exec ((recoverExpiredFixture first second third ids ids').run db).2
            more).tables.view Fixture.expired.taskId) := by
  constructor
  · constructor
    · rintro ⟨result, h⟩
      obtain ⟨db₁, db₂, db₃, r₁, r₂, r₃, hcalls⟩ := recovery_answered h
      obtain ⟨-, hfirst, hsecond, hclaimed, hswept⟩ := hcalls.ok_iff.mp h
      exact hcalls.recovers hfirst hsecond hclaimed hswept
    · rintro ⟨hdraws, h⟩
      obtain ⟨db₁, db₂, db₃, r₁, r₂, r₃, hcalls, hfound⟩ :=
        h.calls (hreach.orderly _) hdraws third ids'
      exact ⟨expectedRecovery, hcalls.ok_iff.mpr ⟨rfl, hfound⟩⟩
  · intro result h
    obtain ⟨db₁, db₂, db₃, r₁, r₂, r₃, hcalls⟩ := recovery_answered h
    obtain ⟨hresult, -, -, -, row, -, hrow, hstatus, hattempts, -⟩ := hcalls.ok_iff.mp h
    refine ⟨hresult, fun more hmore => ?_⟩
    rw [hcalls.run]
    have hreach₃ : Reached db₃ := ((hreach.of_step hcalls.sweep trivial).of_step hcalls.again
      trivial).of_step hcalls.claim trivial
    have hstart := (hreach₃.orderly Fixture.expired.taskId).inRecovery hrow hstatus
    rw [hattempts] at hstart
    exact view_along (A := fun _ c => c.op.Http) (Machine.along_of_forall hmore) _ hstart
      fun db call hop hstep hP => hstep.inRecovery hop hP

/-- The fixture alone, claimed for no time. -/
def crashedRun : List Call :=
  [⟨.createTask (Fixture.expired.card 0), 0⟩,
    ⟨.claim Fixture.expired.taskId "hermes_nas" "p2-6-crashed-worker" 0, 0⟩]

/-- After the crash of the worker the last program returns. -/
theorem recovery_proved_crashed :
    ∃ result, ((recoverExpiredFixture 1 2 3 id id).run (store.exec Db.init crashedRun)).1
      = .ok result := by
  have hrow : (store.exec Db.init crashedRun).tables.agentTasks.get? Fixture.expired.taskId
      = some (claimedRow "hermes_nas" "p2-6-crashed-worker" 0 0 (Fixture.expired.row 0)) := by
    decide
  have hone : (store.exec Db.init crashedRun).tables.agentTasks.rows.filter (expired 1) = [_] ∧
      (store.exec Db.init crashedRun).tables.Recovers 1 2 :=
    Tables.recovers_of_only hrow (by decide) rfl (by decide)
  obtain ⟨hfilter, hrecovers⟩ := hone
  refine (recovery_proved ⟨crashedRun, by decide, rfl⟩ 1 2 3 id id).1.mpr ⟨?_, hrecovers⟩
  rw [DrawsFresh, hfilter]
  decide

/-! ### The whole exercise -/

/-- The call wrote the row of one task, and neither circuits nor recovery cards. -/
structure Wrote (s s' : Tables) (r : TaskRow) : Prop where
  tasks : ∀ t, s'.agentTasks.get? t = if t = r.taskId then some r else s.agentTasks.get? t
  circuits : s'.circuitBreakers = s.circuitBreakers
  cards : s'.recoveryCards = s.recoveryCards

/-- The identifier and the key of the fixture are not used. -/
structure Tables.Unused (s : Tables) (f : Fixture) : Prop where
  id : s.agentTasks.get? f.taskId = none
  key : ∀ row ∈ s.agentTasks.rows, row.idempotencyKey ≠ (f.row 0).idempotencyKey

/-- The circuit of the route of the fixtures is not open. -/
def Tables.Passable (s : Tables) : Prop :=
  ∀ c ∈ s.circuitBreakers.rows, c.circuitKey = "route:deterministic_monitor" → c.state = .closed

section

variable {s s' : Tables} {r : TaskRow} {f g : Fixture} {db : Db} {now : Timestamp}

lemma Wrote.self (h : Wrote s s' r) : s'.agentTasks.get? r.taskId = some r := by
  rw [h.tasks, if_pos rfl]

lemma Wrote.other (h : Wrote s s' r) {t : UUID} (ht : t ≠ r.taskId) :
    s'.agentTasks.get? t = s.agentTasks.get? t := by
  rw [h.tasks, if_neg ht]

lemma Wrote.passable (h : Wrote s s' r) (hs : s.Passable) : s'.Passable := by
  rw [Tables.Passable, h.circuits]
  exact hs

lemma Fixture.taskId_injective : Function.Injective Fixture.taskId := by
  intro f g
  cases f <;> cases g <;> decide

lemma Fixture.key_injective : Function.Injective fun f : Fixture => (f.row 0).idempotencyKey := by
  intro f g
  cases f <;> cases g <;> decide

/-- The row of one fixture uses nothing of another. -/
lemma Wrote.unused (h : Wrote s s' (f.row now)) (hfg : g ≠ f) (hs : s.Unused g) : s'.Unused g where
  id := by
    rw [h.other (Fixture.taskId_injective.ne hfg)]
    exact hs.id
  key := by
    intro row hrow
    have hget := Table.get?_of_mem hrow
    rw [h.tasks] at hget
    split at hget
    · obtain rfl := Option.some.inj hget
      exact (Fixture.key_injective.ne hfg).symm
    · exact hs.key row (Table.mem_of_get? hget)

/-- A task with a new identifier and a new key is created. -/
lemma create_wrote {card : TaskCardV1} {route : String}
    (hroute : card.modelRouting.defaultRoute.head? = some route)
    (hid : db.tables.agentTasks.get? card.taskId = none)
    (hkey : ∀ row ∈ db.tables.agentTasks.rows, row.idempotencyKey ≠ card.idempotencyKey) :
    ∃ db', store.step ⟨.createTask card, now⟩ db
        = (.ok (.created (newTask card route now) true), db') ∧
      Wrote db.tables db'.tables (newTask card route now) := by
  have hnew : db.tables.agentTasks.rows.find? (fun row => row.idempotencyKey = card.idempotencyKey)
      = none := List.find?_eq_none.mpr fun row hrow => by simpa using hkey row hrow
  have hout := createTask_created now hroute hnew hid
  refine ⟨store.next ⟨.createTask card, now⟩ db, Prod.ext hout rfl, ?_⟩
  have heff := effect_of_out rfl hout
  generalize hreply : newTask card route now = reply at heff ⊢
  generalize (store.next ⟨.createTask card, now⟩ db).tables = s' at heff ⊢
  cases heff with
  | created =>
      refine ⟨fun t => ?_, rfl, rfl⟩
      rw [Table.get?_insert hid]
      simp only [eq_comm]

/-- A fixture that is new is created. -/
lemma Fixture.create_wrote (f : Fixture) (now : Timestamp) (h : db.tables.Unused f) :
    ∃ db', store.step ⟨.createTask (f.card now), now⟩ db
        = (.ok (.created (f.row now) true), db') ∧ Wrote db.tables db'.tables (f.row now) :=
  ControlHarness.create_wrote rfl h.id h.key

/-- A claim of a ready task without a lease succeeds while its circuit is not open. -/
lemma claim_wrote (role worker : String) {mins : ℤ} (now : Timestamp) (hmins : IntervalMins mins)
    (hrow : db.tables.agentTasks.get? r.taskId = some r) (hready : r.status = .ready)
    (hlease : r.leaseExpiresAt = none) (hkey : r.circuitKey = some "route:deterministic_monitor")
    (hpass : db.tables.Passable) :
    ∃ db', store.step ⟨.claim r.taskId role worker mins, now⟩ db
        = (.ok (.claimed (some (claimedRow role worker (minutes mins) now r))), db') ∧
      Wrote db.tables db'.tables (claimedRow role worker (minutes mins) now r) := by
  have hcircuit : circuitBlocks db.tables now r = false := by
    rw [circuitBlocks, List.any_eq_false]
    intro c hc hblocks
    simp only [hkey, Bool.and_eq_true, decide_eq_true_eq, Option.some.injEq] at hblocks
    rw [hpass c hc hblocks.1.1] at hblocks
    exact absurd hblocks.1.2 (by decide)
  have hclaim : claimable now db.tables r = true := by
    simp [claimable, hready, hlease, hcircuit]
  have hout := claim_accepted now role worker hmins hrow hclaim
  refine ⟨store.next ⟨.claim r.taskId role worker mins, now⟩ db, Prod.ext hout rfl, ?_⟩
  have heff := effect_of_out rfl hout
  generalize hclaimed : claimedRow role worker (minutes mins) now r = answer at heff ⊢
  generalize (store.next ⟨.claim r.taskId role worker mins, now⟩ db).tables = s' at heff ⊢
  cases heff with
  | claimed _ _ _ _ row _ hr =>
      obtain rfl := Option.some.inj (hrow.symm.trans hr)
      refine ⟨fun t => ?_, rfl, rfl⟩
      rw [Table.get?_updateKey, ← hclaimed, claimedRow_taskId]
      by_cases ht : t = r.taskId
      · rw [if_pos ht, if_pos ht, ht, hrow]
        rfl
      · rw [if_neg ht, if_neg ht]

/-- The receipt of the owner of a task that needs no approval finishes it. -/
lemma receipt_wrote (receipt : ResultReceiptV1) (now : Timestamp) (hid : receipt.taskId = r.taskId)
    (hrow : db.tables.agentTasks.get? r.taskId = some r)
    (howner : r.ownerInstance = some receipt.workerInstance) (hexec : r.status.IsExecution)
    (happ : r.approvalRequired = []) (hdone : receipt.outcome = .completed) :
    ∃ reply db', store.step ⟨.submitReceipt receipt, now⟩ db = (.ok reply, db') ∧
      Wrote db.tables db'.tables (movedRow .done r) := by
  obtain ⟨answer, hout⟩ := submitReceipt_accepted now (hid ▸ hrow) howner hexec
  refine ⟨_, store.next ⟨.submitReceipt receipt, now⟩ db, Prod.ext hout rfl, ?_⟩
  have heff := effect_of_out rfl hout
  generalize (store.next ⟨.submitReceipt receipt, now⟩ db).tables = s' at heff ⊢
  have htarget : receiptTarget r receipt.outcome = .done := by
    rw [hdone, receiptTarget, if_neg (not_not.mpr happ)]
  cases heff with
  | receiptAccepted _ row _ evs hr =>
      obtain rfl := Option.some.inj (hrow.symm.trans (hid ▸ hr))
      rw [htarget]
      have hclosed : closedKey r .done = none := by
        rw [closedKey, Option.filter_eq_none_iff]
        simp
      refine ⟨fun t => ?_, ?_, rfl⟩
      · rw [Table.get?_updateKey, movedRow_taskId, hid]
        by_cases ht : t = r.taskId
        · rw [if_pos ht, if_pos ht, ht, hrow]
          rfl
        · rw [if_neg ht, if_neg ht]
      · show circuitsClosed db.tables now r .done = _
        rw [circuitsClosed, hclosed]
        rfl

end

/-- The fixture `expired` is ready in `s'`; what else is new there executes nothing. -/
structure Seeded (s s' : Tables) : Prop where
  ready : ∃ now, s'.agentTasks.get? Fixture.expired.taskId = some (Fixture.expired.row now)
  idle : ∀ t row, t ≠ Fixture.expired.taskId → s'.agentTasks.get? t = some row →
    row.status.IsExecution → s.agentTasks.get? t = some row
  circuits : s'.circuitBreakers = s.circuitBreakers
  cards : s'.recoveryCards = s.recoveryCards

/-- The rows of the first program: the three fixtures, and twice the one that is done. -/
lemma seeded_of_wrote {s s₁ s₂ s₃ s₄ s₅ : Tables} {now₁ now₂ now₃ : Timestamp} {r r' : TaskRow}
    (w₁ : Wrote s s₁ (Fixture.ready.row now₁)) (w₂ : Wrote s₁ s₂ (Fixture.expired.row now₂))
    (w₃ : Wrote s₂ s₃ (Fixture.done.row now₃)) (w₄ : Wrote s₃ s₄ r) (w₅ : Wrote s₄ s₅ r')
    (hr : r.taskId = Fixture.done.taskId) (hr' : r'.taskId = Fixture.done.taskId)
    (hidle : ¬ r'.status.IsExecution) : Seeded s s₅ := by
  have hother : ∀ t, t ≠ Fixture.done.taskId → s₅.agentTasks.get? t = s₂.agentTasks.get? t := by
    intro t ht
    rw [w₅.other (hr'.symm ▸ ht), w₄.other (hr.symm ▸ ht), w₃.other ht]
  refine ⟨⟨now₂, ?_⟩, fun t row ht hrow hexec => ?_, ?_, ?_⟩
  · rw [hother _ (Fixture.taskId_injective.ne (by decide))]
    exact w₂.self
  · by_cases hd : t = Fixture.done.taskId
    · rw [w₅.tasks, if_pos (hd.trans hr'.symm)] at hrow
      obtain rfl := Option.some.inj hrow
      exact absurd hexec hidle
    rw [hother t hd, w₂.other ht, w₁.tasks] at hrow
    split at hrow
    · obtain rfl := Option.some.inj hrow
      exact absurd hexec (by rintro (h | h) <;> exact TaskStatus.noConfusion h)
    · exact hrow
  · rw [w₅.circuits, w₄.circuits, w₃.circuits, w₂.circuits, w₁.circuits]
  · rw [w₅.cards, w₄.cards, w₃.cards, w₂.cards, w₁.cards]

/-- The first program returns and leaves the fixtures. -/
lemma seedFixture_seeds {db : Db} (hreach : Reached db) (clock : ℕ → Timestamp)
    (hunused : ∀ f, db.tables.Unused f) (hpass : db.tables.Passable) :
    ∃ db', (seedFixture clock).run db = (.ok (), db') ∧ Reached db' ∧
      Seeded db.tables db'.tables := by
  obtain ⟨db₁, h₁, w₁⟩ := Fixture.ready.create_wrote (clock 0) (hunused .ready)
  have hexpired : db₁.tables.Unused .expired := w₁.unused (by decide) (hunused .expired)
  have hdone : db₁.tables.Unused .done := w₁.unused (by decide) (hunused .done)
  obtain ⟨db₂, h₂, w₂⟩ := Fixture.expired.create_wrote (clock 1) hexpired
  obtain ⟨db₃, h₃, w₃⟩ := Fixture.done.create_wrote (clock 2) (w₂.unused (by decide) hdone)
  have hpass₃ : db₃.tables.Passable := w₃.passable (w₂.passable (w₁.passable hpass))
  have hmins : IntervalMins 10 := by decide
  obtain ⟨db₄, h₄, w₄⟩ := claim_wrote "hermes_nas" "p2-6-completed-worker" (clock 3) hmins w₃.self
    rfl rfl rfl hpass₃
  obtain ⟨reply, db₅, h₅, w₅⟩ := receipt_wrote (fixtureReceipt (clock 4)) (clock 4) rfl w₄.self rfl
    (Or.inl rfl) rfl rfl
  refine ⟨db₅, ?_, ?_, ?_⟩
  · have hclaim : store.step ⟨.claim Fixture.done.taskId "hermes_nas" "p2-6-completed-worker" 10,
        clock 3⟩ db₃ = (.ok _, db₄) := h₄
    rw [seedFixture, Exercise.run_bind_ok (Exercise.run_call h₁),
      Exercise.run_bind_ok (Exercise.run_call h₂), Exercise.run_bind_ok (Exercise.run_call h₃),
      Exercise.run_bind_ok (Exercise.run_call hclaim), Exercise.run_bind_ok (Exercise.run_call h₅)]
    rfl
  · exact ((((hreach.of_step h₁ trivial).of_step h₂ trivial).of_step h₃ trivial).of_step h₄
      trivial).of_step h₅ trivial
  · refine seeded_of_wrote w₁ w₂ w₃ w₄ w₅ rfl (movedRow_taskId _ _) ?_
    rw [movedRow_status]
    decide

/-- The worker of the second program claims the fixture. -/
lemma claimCrashFixture_wrote {db : Db} {now : Timestamp} (crash : Timestamp)
    (hrow : db.tables.agentTasks.get? Fixture.expired.taskId = some (Fixture.expired.row now))
    (hpass : db.tables.Passable) :
    ∃ row db', (claimCrashFixture crash).run db = (.ok row, db') ∧ Wrote db.tables db'.tables row ∧
      row = claimedRow "hermes_nas" "p2-6-crashed-worker" (minutes 0) crash
        (Fixture.expired.row now) ∧ (Reached db → Reached db') := by
  have hmins : IntervalMins 0 := by decide
  obtain ⟨db', hstep, hwrote⟩ := claim_wrote (r := Fixture.expired.row now) "hermes_nas"
    "p2-6-crashed-worker" crash hmins hrow rfl rfl rfl hpass
  have hclaim : store.step ⟨.claim Fixture.expired.taskId "hermes_nas" "p2-6-crashed-worker" 0,
      crash⟩ db = (.ok _, db') := hstep
  refine ⟨_, db', ?_, hwrote, rfl, fun h => h.of_step hclaim trivial⟩
  rw [claimCrashFixture, Exercise.run_bind_ok (Exercise.run_call hclaim)]
  rfl

/-- **The exercise succeeds beside any tasks**: from every reachable state that has no trace of
the fixtures and lets their route pass, the three programs return, whatever the times of the first
one, once the lease of zero minutes is past and no other lease is. -/
theorem exercise_recovers {db : Db} (hreach : Reached db) (clock : ℕ → Timestamp)
    (crash first second third : Timestamp) (ids ids' : UUID → UUID)
    (hunused : ∀ f, db.tables.Unused f) (hpass : db.tables.Passable) (hpast : crash < first)
    (hothers : ∀ row ∈ db.tables.agentTasks.rows,
      expired first row = false ∧ expired second row = false)
    (hids : db.tables.recoveryCards.get? (ids Fixture.expired.taskId) = none) :
    ((do
      seedFixture clock
      let _ ← claimCrashFixture crash
      recoverExpiredFixture first second third ids ids' : Exercise RecoveryResult).run db).1
        = .ok expectedRecovery := by
  obtain ⟨db₁, hseed, hreach₁, hseeded⟩ := seedFixture_seeds hreach clock hunused hpass
  obtain ⟨now, hready⟩ := hseeded.ready
  have hpass₁ : db₁.tables.Passable := by
    rw [Tables.Passable, hseeded.circuits]
    exact hpass
  obtain ⟨row, db₂, hcrash, hwrote, hrow, hreach₂⟩ :=
    claimCrashFixture_wrote crash hready hpass₁
  have hid : row.taskId = Fixture.expired.taskId := by rw [hrow]; rfl
  have hexp : expired first row = true := by
    have hlease : crash + minutes 0 < first := by simpa [minutes, seconds] using hpast
    rw [hrow]
    simp [expired, claimedRow, hlease, TaskStatus.IsExecution]
  have hidle : ∀ q ∈ db₂.tables.agentTasks.rows, q.taskId ≠ Fixture.expired.taskId →
      expired first q = false ∧ expired second q = false := by
    intro q hq hne
    have hget := Table.get?_of_mem hq
    rw [hwrote.other (hid.symm ▸ hne)] at hget
    by_cases hexec : q.status.IsExecution
    · exact hothers q (Table.mem_of_get? (hseeded.idle _ _ hne hget hexec))
    · exact ⟨Bool.eq_false_iff.mpr fun h => hexec (isExecution_of_expired h),
        Bool.eq_false_iff.mpr fun h => hexec (isExecution_of_expired h)⟩
  obtain ⟨hfilter, hrecovers⟩ := Tables.recovers_of_only (hid ▸ hwrote.self) hexp
    (by rw [hrow]; rfl) hidle
  have hdraws : DrawsFresh db₂ first ids := by
    rw [DrawsFresh, hfilter, List.map_singleton]
    refine Table.append?_isSome (by simp) fun card hcard => ?_
    obtain rfl := List.mem_singleton.mp hcard
    rw [hwrote.cards, hseeded.cards]
    show db.tables.recoveryCards.get? (ids row.taskId) = none
    rw [hid]
    exact hids
  obtain ⟨db₃, db₄, db₅, r₁, r₂, r₃, hcalls, hfound⟩ :=
    hrecovers.calls ((hreach₂ hreach₁).orderly _) hdraws third ids'
  rw [Exercise.run_bind_ok hseed, Exercise.run_bind_ok hcrash]
  exact hcalls.ok_iff.mpr ⟨rfl, hfound⟩

/-- A task of the NAS worker. -/
def otherCard : TaskCardV1 :=
  { monitorCard with
    taskId := ⟨33⟩
    idempotencyKey := "sha256:test:0303"
    idempotencyKey_length := by decide }

/-- A failure on the route of the fixtures, whose circuit stays closed, and a task of another
route that is in execution. -/
def busyRun : List Call :=
  [⟨.createTask otherCard, 0⟩, ⟨.claim otherCard.taskId "hermes_nas" "worker-a" 30, 0⟩,
    ⟨.reportFailure { sampleReport with taskId := otherCard.taskId } ⟨9⟩, 1⟩,
    ⟨.createTask sampleCard, 2⟩, ⟨.claim sampleCard.taskId "hermes_local" "worker-a" 60, 3⟩]

/-- The exercise beside a live lease and a circuit of its route that counts one failure. -/
theorem exercise_recovers_busy :
    ((do
      seedFixture fun n => n
      let _ ← claimCrashFixture 5
      recoverExpiredFixture 6 7 8 id id : Exercise RecoveryResult).run
        (store.exec Db.init busyRun)).1 = .ok expectedRecovery ∧
      (store.exec Db.init busyRun).tables.circuitBreakers.rows.map
        (fun c => (c.circuitKey, c.state, c.failureCount))
          = [("route:deterministic_monitor", .closed, 1)] := by
  refine ⟨exercise_recovers ⟨busyRun, by decide, rfl⟩ _ 5 6 7 8 id id (fun f => ?_) ?_ (by decide)
    ?_ (by decide +kernel), by decide +kernel⟩
  · cases f with
    | ready | expired | done => exact ⟨by decide +kernel, by decide +kernel⟩
  · rw [Tables.Passable]
    decide +kernel
  · decide +kernel

end ControlHarness

import ControlHarness.Lifecycle.Circuit
import ControlHarness.Lifecycle.Ownership

/-!
The delay before a retry.

A failure report that schedules another attempt answers with a time. The delay
until then is the backoff of the attempt, at least what a rate limit asked for
and at least the cooldown of a circuit that the report found or made open
(`DelayFits`), and the task is not claimed before that time
(`retry_delay_honoured`): it waits for a release, and a release looks at the
stored time.

* `DelayFits`: the bounds of a delay.
* `Waiting`: the task waits for a retry at a time; a call that is no release at
  or after that time keeps it so (`TaskStep.waiting`).
-/

namespace ControlHarness

open Store

/-! ### The delay -/

/-- The bounds of the delay that a failure report sets for another attempt; the
circuit of the task is open, or not, after the report. -/
structure DelayFits (report : FailureReportV1) (attempt : ℕ) (circuitOpen : Prop) (delay : ℤ) :
    Prop where
  backoff : seconds (min (30 * 2 ^ (attempt - 1)) 3600 : ℕ) ≤ delay
  rateLimit : report.failureClass = .rateLimited →
    ∀ s ∈ report.retryAfterSeconds, seconds s ≤ delay
  cooldown : report.failureClass ∈ [.transient, .rateLimited] → circuitOpen → seconds 300 ≤ delay
  bound : delay ≤ seconds 86400

lemma seconds_le_seconds {m n : ℤ} : seconds m ≤ seconds n ↔ m ≤ n := by
  rw [seconds, seconds]
  omega

section

variable (report : FailureReportV1) (attempt : ℕ)

lemma backoff_le_retryDelay : min (30 * 2 ^ (attempt - 1)) 3600
    ≤ retryDelaySeconds report.failureClass attempt report.retryAfterSeconds := by
  rw [retryDelaySeconds]
  split
  · exact le_max_left _ _
  · exact le_refl _

lemma retryAfter_le_retryDelay (hcls : report.failureClass = .rateLimited) {s : ℕ}
    (hs : s ∈ report.retryAfterSeconds) :
    s ≤ retryDelaySeconds report.failureClass attempt report.retryAfterSeconds := by
  have hs : report.retryAfterSeconds = some s := hs
  rw [retryDelaySeconds, if_pos hcls, hs, Option.getD_some]
  exact le_max_right _ _

/-- A rate limit asks for a day at most. -/
lemma retryDelay_le :
    retryDelaySeconds report.failureClass attempt report.retryAfterSeconds ≤ 86400 := by
  have hbackoff : min (baseBackoffSeconds * 2 ^ (attempt - 1)) maxBackoffSeconds ≤ 3600 :=
    min_le_right _ _
  have hafter : report.retryAfterSeconds.getD 0 ≤ 86400 := by
    cases hs : report.retryAfterSeconds with
    | none => exact Nat.zero_le _
    | some s => exact report.retryAfter_le s hs
  rw [retryDelaySeconds]
  split
  · exact max_le (hbackoff.trans (by omega)) hafter
  · exact hbackoff.trans (by omega)

end

/-- The delay of a report is the backoff, raised to the cooldown of an open
circuit. -/
lemma delayFits_delayBeforeRetry {task : TaskRow} {report : FailureReportV1}
    {circuit : Option CircuitRow} {circuitOpen : Prop}
    (hopen : report.failureClass ∈ [.transient, .rateLimited] → circuitOpen →
      circuit.any (·.state = .open) = true) :
    DelayFits report task.attemptCount circuitOpen (seconds (delayBeforeRetry task report circuit))
      := by
  have hbase : retryDelaySeconds report.failureClass task.attemptCount report.retryAfterSeconds
      ≤ delayBeforeRetry task report circuit := by
    rw [delayBeforeRetry]
    split
    · exact le_max_left _ _
    · exact le_refl _
  have hlift : ∀ {m : ℕ}, m ≤ delayBeforeRetry task report circuit →
      seconds m ≤ seconds (delayBeforeRetry task report circuit) := fun h =>
    seconds_le_seconds.mpr (Int.ofNat_le.mpr h)
  constructor
  · exact hlift ((backoff_le_retryDelay report task.attemptCount).trans hbase)
  · intro hcls s hs
    exact hlift ((retryAfter_le_retryDelay report task.attemptCount hcls hs).trans hbase)
  · intro hcls hafter
    refine hlift (m := 300) ?_
    rw [delayBeforeRetry, if_pos (hopen hcls hafter)]
    exact le_max_right _ _
  · have hday : delayBeforeRetry task report circuit ≤ 86400 := by
      rw [delayBeforeRetry]
      split
      · exact max_le (retryDelay_le report task.attemptCount) (by decide)
      · exact retryDelay_le report task.attemptCount
    exact seconds_le_seconds.mpr (Int.ofNat_le.mpr hday)

/-! ### The report -/

/-- The circuit of the task is open. -/
def Tables.CircuitOpen (s : Tables) (row : TaskRow) : Prop :=
  ∃ key circuit, row.circuitKey = some key ∧ s.circuitBreakers.get? key = some circuit ∧
    circuit.state = .open

/-- A report of a counted class that leaves the circuit of the task open has
counted against it. -/
lemma circuitAfter_open {s s' : Tables} {now : Timestamp} {task : TaskRow} {cls : FailureClass}
    (hnamed : task.circuitKey ≠ some "") (hcls : cls ∈ [.transient, .rateLimited])
    (hcircuits : s'.circuitBreakers = circuitsAfter s now task cls) (hopen : s'.CircuitOpen task) :
    (circuitAfter s now task cls).any (·.state = .open) = true := by
  obtain ⟨key, circuit, hkey, hcircuit, hstate⟩ := hopen
  have hcounted : countedCircuit task cls = some key := by
    refine countedCircuit_eq_some.mpr ⟨hkey, ?_, hcls⟩
    rintro rfl
    exact hnamed hkey
  rw [hcircuits, get?_circuitsAfter, if_pos hcounted] at hcircuit
  rw [circuitAfter, hcounted, Option.map_some, Option.any_some, Option.some.inj hcircuit]
  exact decide_eq_true hstate

/-- A report that schedules a retry: its answer, and the row and the circuits it
leaves. -/
lemma retryScheduled_spec {db : Db} {call : Call} {report : FailureReportV1} {id : UUID}
    {d : ResilienceDecision} (hop : call.op = .reportFailure report id)
    (hout : store.out call db = .ok (.decision d)) (haction : d.action = .retryScheduled) :
    ∃ row delay, db.tables.agentTasks.get? report.taskId = some row ∧
      delay = delayBeforeRetry row report
        (circuitAfter db.tables call.now row report.failureClass) ∧
      d.retryAt = some (call.now + seconds delay) ∧
      (store.next call db).tables.agentTasks.get? report.taskId
        = some (retriedRow (call.now + seconds delay) report.failureClass row.circuitKey row) ∧
      (store.next call db).tables.circuitBreakers
        = circuitsAfter db.tables call.now row report.failureClass := by
  have heff := effect_of_out hop hout
  generalize (store.next call db).tables = s' at heff ⊢
  cases heff with
  | retryScheduled _ _ row _ _ delay hrow hadm hrec hretry hbudget hdelay =>
      refine ⟨row, delay, hrow, hdelay, rfl, ?_, rfl⟩
      rw [Table.get?_updateKey, if_pos rfl, hrow]
      rfl
  | recovery | deadLettered => exact absurd haction (by simp)
  | stopped _ _ row _ action target hrow hadm hrec hstop =>
      have haction : action = .retryScheduled := haction
      rcases hstop with ⟨-, rfl, -⟩ | ⟨-, rfl, -⟩ <;> exact absurd haction (by decide)

/-! ### The wait -/

/-- The task waits for a retry at the time `r`. -/
def Waiting (r : Timestamp) (v : TaskView) : Prop :=
  ∃ row, v.row = some row ∧ row.status = .retryWait ∧ row.nextAttemptAt = some r

/-- A step by an operation of the HTTP surface leaves a task waiting, or is a
release at its time or later. -/
lemma TaskStep.waiting {now r : Timestamp} {t : UUID} {v v' : TaskView} {op : Op}
    (hhttp : op.Http) (h : TaskStep now t v op v') (hv : Waiting r v) :
    Waiting r v' ∨ r ≤ now := by
  obtain ⟨row, hrow, hstatus, hnext⟩ := hv
  have hidle : ¬ row.status.IsExecution := by
    rw [hstatus]
    decide
  cases h.idle hrow hidle with
  | noted => exact Or.inl ⟨row, hrow, hstatus, hnext⟩
  | claimed _ _ _ _ hready => exact absurd (hstatus.symm.trans hready) (by simp)
  | released _ _ hdue =>
      rw [hnext, Option.any_some, decide_eq_true_eq] at hdue
      exact Or.inr hdue
  | approvalRequested _ _ hreview => exact absurd (hstatus.symm.trans hreview) (by simp)
  | approvalDecided _ _ _ _ d _ _ _ hmem =>
      rw [hstatus] at hmem
      cases d <;> exact absurd hmem (by decide)
  | transitioned => exact hhttp.elim

/-- Along a run of the HTTP surface a waiting task waits on, until a call at its
time or later. -/
lemma waiting_exec {r : Timestamp} {t : UUID} {db : Db} {calls : List Call}
    (hhttp : ∀ c ∈ calls, c.op.Http) (h : Waiting r (db.tables.view t)) :
    Waiting r ((store.exec db calls).tables.view t) ∨ ∃ c ∈ calls, r ≤ c.now := by
  induction calls using List.reverseRecOn with
  | nil => exact Or.inl h
  | append_singleton calls call ih =>
      have hbefore : ∀ c ∈ calls, c.op.Http := fun c hc => hhttp c (List.mem_append_left _ hc)
      have hcall : call.op.Http := hhttp call (by simp)
      rcases ih hbefore with hwait | ⟨c, hc, hlate⟩
      · rw [Machine.exec_concat]
        rcases view_next call (store.exec db calls) t with hview | hstep
        · rw [hview]
          exact Or.inl hwait
        · rcases hstep.waiting hcall hwait with hwait' | hlate
          · exact Or.inl hwait'
          · exact Or.inr ⟨call, by simp, hlate⟩
      · exact Or.inr ⟨c, List.mem_append_left _ hc, hlate⟩

/-- A waiting task is not claimed. -/
lemma Waiting.not_claims {r : Timestamp} {t : UUID} {db : Db} (h : Waiting r (db.tables.view t))
    (call : Call) (worker : String) : ¬ Claims db call t worker := by
  obtain ⟨row, hrow, hstatus, -⟩ := h
  intro hclaim
  obtain ⟨row', -, hrow', hready, -⟩ := hclaim.moves
  obtain rfl : row = row' := Option.some.inj (hrow.symm.trans hrow')
  rw [hstatus] at hready
  exact absurd hready (by decide)

/-- **The delay of a retry is honoured**: in a run of the HTTP surface with a
clock that does not go back, a report that schedules a retry answers with a time
whose distance is within the bounds of the delay, the task stores that time, and
no later claim of the task is before it. -/
theorem retry_delay_honoured (pre post : List Call) (x : Call) (report : FailureReportV1)
    (recoveryId : UUID) (d : ResilienceDecision)
    (hhttp : ∀ c ∈ pre ++ x :: post, c.op.Http)
    (hclock : (pre ++ x :: post).Pairwise (·.now ≤ ·.now))
    (hop : x.op = .reportFailure report recoveryId)
    (hout : store.out x (store.exec Db.init pre) = .ok (.decision d))
    (haction : d.action = .retryScheduled) :
    ∃ row row' r,
      (store.exec Db.init pre).tables.agentTasks.get? report.taskId = some row ∧
      (store.exec Db.init (pre ++ [x])).tables.agentTasks.get? report.taskId = some row' ∧
      d.retryAt = some r ∧ row'.nextAttemptAt = some r ∧
      DelayFits report row.attemptCount
        ((store.exec Db.init (pre ++ [x])).tables.CircuitOpen row) (r - x.now) ∧
      ∀ mid y rest worker, post = mid ++ y :: rest →
        Claims (store.exec Db.init (pre ++ x :: mid)) y report.taskId worker → r ≤ y.now := by
  obtain ⟨row, delay, hrow, hdelay, hanswer, hnext, hcircuits⟩ :=
    retryScheduled_spec hop hout haction
  rw [Machine.exec_concat]
  refine ⟨row, _, x.now + seconds delay, hrow, hnext, hanswer, rfl, ?_, ?_⟩
  · rw [add_sub_cancel_left, hdelay]
    exact delayFits_delayBeforeRetry fun hcls hopen =>
      circuitAfter_open (namedCircuits_exec pre _ _ hrow) hcls hcircuits hopen
  · rintro mid y rest worker rfl hclaim
    have hwait : Waiting (x.now + seconds delay)
        ((store.next x (store.exec Db.init pre)).tables.view report.taskId) :=
      ⟨_, hnext, retriedRow_status _ _ _ row, rfl⟩
    have hmid : ∀ c ∈ mid, c.op.Http := fun c hc => hhttp c (by simp [hc])
    rw [Machine.exec_append, Machine.exec_cons] at hclaim
    rcases waiting_exec hmid hwait with hstill | ⟨c, hc, hlate⟩
    · exact absurd hclaim (hstill.not_claims y worker)
    · -- the clock does not go back between the release and the claim
      have hle : c.now ≤ y.now := by
        rw [List.pairwise_append, List.pairwise_cons, List.pairwise_append] at hclock
        exact hclock.2.1.2.2.2 c hc y (by simp)
      exact hlate.trans hle

/-- The first attempt of a task. -/
def firstAttempt : List Call :=
  [⟨.createTask sampleCard, 0⟩, ⟨.claim sampleCard.taskId "hermes_local" "worker-a" 30, 0⟩]

/-- Its failure is reported after a second. -/
def firstReport : Call := ⟨.reportFailure sampleReport ⟨9⟩, seconds 1⟩

/-- The task is released after ten minutes. -/
def releaseCall : Call := ⟨.releaseDueRetries, minutes 10⟩

/-- The second attempt. -/
def secondClaim : Call := ⟨.claim sampleCard.taskId "hermes_local" "worker-a" 30, minutes 10⟩

/-- After the report the task waits thirty seconds at least, and no longer than until its
next claim, which succeeds. -/
theorem retry_delay_honoured_first : ∃ row r,
    (store.exec Db.init (firstAttempt ++ [firstReport])).tables.agentTasks.get? sampleCard.taskId
        = some row ∧
      row.status = .retryWait ∧ row.nextAttemptAt = some r ∧
      seconds 1 + seconds 30 ≤ r ∧ r ≤ secondClaim.now ∧
      Claims (store.exec Db.init (firstAttempt ++ firstReport :: [releaseCall])) secondClaim
        sampleCard.taskId "worker-a" := by
  obtain ⟨row, row', r, hrow, hrow', -, hnext, hfits, hclaims⟩ := retry_delay_honoured firstAttempt
    [releaseCall, secondClaim] firstReport sampleReport ⟨9⟩ _ (by decide) (by decide) rfl rfl rfl
  have hattempt : row.attemptCount = 1 :=
    Option.some.inj (congrArg (Option.map TaskRow.attemptCount) hrow).symm
  have hstatus : row'.status = .retryWait :=
    Option.some.inj (congrArg (Option.map TaskRow.status) hrow').symm
  have hbackoff := hfits.backoff
  rw [hattempt] at hbackoff
  have hdelay : seconds 30 ≤ r - seconds 1 := hbackoff
  have hclaim : Claims (store.exec Db.init (firstAttempt ++ firstReport :: [releaseCall]))
      secondClaim sampleCard.taskId "worker-a" := ⟨⟨_, _, rfl⟩, _, rfl⟩
  have hlate : r ≤ secondClaim.now := hclaims [releaseCall] _ [] "worker-a" rfl hclaim
  exact ⟨row', r, hrow', hstatus, hnext, by linarith, hlate, hclaim⟩

end ControlHarness

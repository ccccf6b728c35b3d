import ControlHarness.Contracts.Event

/-!
The retry, recovery and circuit-breaker policy of `resilience.py`.

* `retryableFailures`, `circuitFailures`: the classes that are retried and the
  classes that a circuit counts; every counted class is retried
  (`retryable_of_circuit`).
* `retryDelaySeconds`: the bounded exponential backoff, at least the delay that
  a rate limit asks for.
* `requiresRecovery`: unknown side effects override every retry class.
-/

namespace ControlHarness

/-- `RETRYABLE_FAILURES`. -/
def retryableFailures : List FailureClass := [.transient, .rateLimited, .qualityFailure]

/-- `CIRCUIT_FAILURES`. -/
def circuitFailures : List FailureClass := [.transient, .rateLimited]

/-- `CIRCUIT_FAILURE_THRESHOLD`. -/
def circuitFailureThreshold : ℕ := 3

/-- `CIRCUIT_COOLDOWN_SECONDS`. -/
def circuitCooldownSeconds : ℕ := 300

/-- `BASE_BACKOFF_SECONDS`. -/
def baseBackoffSeconds : ℕ := 30

/-- `MAX_BACKOFF_SECONDS`. -/
def maxBackoffSeconds : ℕ := 3600

lemma retryable_of_circuit {c : FailureClass} (h : c ∈ circuitFailures) :
    c ∈ retryableFailures := by
  cases c <;> simp_all [circuitFailures, retryableFailures]

/-- The state of a circuit breaker. -/
inductive CircuitState where
  | closed | «open»
  deriving DecidableEq, Repr

/-- `retry_delay_seconds`. -/
def retryDelaySeconds (failureClass : FailureClass) (attemptCount : ℕ)
    (retryAfterSeconds : Option ℕ) : ℕ :=
  let exponential := min (baseBackoffSeconds * 2 ^ (attemptCount - 1)) maxBackoffSeconds
  if failureClass = .rateLimited then max exponential (retryAfterSeconds.getD 0) else exponential

/-- `requires_recovery`. -/
def requiresRecovery (failureClass : FailureClass) (sideEffectState : SideEffectState) : Bool :=
  failureClass = .uncertainSideEffect || sideEffectState = .unknown

/-- A failure report has unknown side effects exactly when it requires
recovery: the uncertain class is admitted only with unknown side effects. -/
lemma requiresRecovery_iff (r : FailureReportV1) :
    requiresRecovery r.failureClass r.sideEffectState = true ↔ r.sideEffectState = .unknown := by
  have h := r.uncertain_unknown
  simp only [requiresRecovery, Bool.or_eq_true, decide_eq_true_eq]
  exact ⟨fun h' => h'.elim h id, Or.inr⟩

/-- The action that a failure report led to. -/
inductive ResilienceAction where
  | retryScheduled | awaitingDecision | blocked | deadLettered | recoveryRequired
  deriving DecidableEq, Repr

/-- `ResilienceDecision`. -/
structure ResilienceDecision where
  taskId : UUID
  failureClass : FailureClass
  action : ResilienceAction
  taskStatus : TaskStatus
  retryAt : Option Timestamp := none
  recoveryId : Option UUID := none
  deadLetterId : Option ℕ := none
  circuitState : Option CircuitState := none
  deriving DecidableEq, Repr

end ControlHarness

import Mathlib.Tactic

/-!
The enumerations of `contracts.py` and the transition table of the task
status.

* `TaskStatus`, `transitions`: the twelve statuses and the table of allowed
  changes; done and cancelled are the two statuses without a way out.
* `TaskStatus.IsExecution`: the statuses in which a worker holds the task
  (`_EXECUTION_STATES` of `store.py`).
* `ExecutorRole`, `ProviderClass`, `DataClassification`, `ProjectionKind`,
  `FailureClass`, `SideEffectState`: the other enumerations, each with the text
  that the source stores for its members.
-/

namespace ControlHarness

/-- `TaskStatus`. -/
inductive TaskStatus where
  | ready | claimed | inProgress | review | awaitingApproval | blocked | failed | done
  | cancelled | recoveryRequired | retryWait | awaitingDecision
  deriving DecidableEq, Repr

namespace TaskStatus

/-- The text stored for a status. -/
def value : TaskStatus → String
  | ready => "ready"
  | claimed => "claimed"
  | inProgress => "in_progress"
  | review => "review"
  | awaitingApproval => "awaiting_approval"
  | blocked => "blocked"
  | failed => "failed"
  | done => "done"
  | cancelled => "cancelled"
  | recoveryRequired => "recovery_required"
  | retryWait => "retry_wait"
  | awaitingDecision => "awaiting_decision"

/-- `_EXECUTION_STATES`: a worker holds the task. -/
def IsExecution (s : TaskStatus) : Prop := s = claimed ∨ s = inProgress

instance (s : TaskStatus) : Decidable s.IsExecution :=
  inferInstanceAs (Decidable (s = claimed ∨ s = inProgress))

@[simp] lemma isExecution_claimed : claimed.IsExecution := Or.inl rfl

@[simp] lemma isExecution_inProgress : inProgress.IsExecution := Or.inr rfl

lemma IsExecution.ne {s target : TaskStatus} (h : s.IsExecution) (ht : ¬ target.IsExecution) :
    s ≠ target := by
  rintro rfl
  exact ht h

end TaskStatus

open TaskStatus in
/-- `TRANSITIONS`: the statuses a status may change to. -/
def transitions : TaskStatus → List TaskStatus
  | ready => [claimed, cancelled]
  | claimed => [inProgress, blocked, failed, recoveryRequired, retryWait, awaitingDecision]
  | inProgress =>
      [review, done, blocked, failed, recoveryRequired, retryWait, awaitingDecision]
  | review => [awaitingApproval, blocked, done]
  | awaitingApproval => [done, blocked]
  | blocked => [ready, cancelled]
  | failed => [ready, cancelled]
  | recoveryRequired => [ready, blocked, done, cancelled]
  | retryWait => [ready, recoveryRequired, cancelled]
  | awaitingDecision => [ready, blocked, cancelled]
  | done => []
  | cancelled => []

/-- Approval is requested from review only. -/
lemma eq_review_of_mem_transitions {s : TaskStatus} (h : .awaitingApproval ∈ transitions s) :
    s = .review := by
  cases s <;> simp_all [transitions]

/-- A worker gets a task from the ready status only. -/
lemma eq_ready_of_mem_transitions {s : TaskStatus} (h : .claimed ∈ transitions s) :
    s = .ready := by
  cases s <;> simp_all [transitions]

/-- Work goes in progress from a claim only. -/
lemma eq_claimed_of_mem_transitions {s : TaskStatus} (h : .inProgress ∈ transitions s) :
    s = .claimed := by
  cases s <;> simp_all [transitions]

/-- `ExecutorRole`. -/
inductive ExecutorRole where
  | hermesLocal | hermesNas
  deriving DecidableEq, Repr

/-- The text stored for a role. -/
def ExecutorRole.value : ExecutorRole → String
  | hermesLocal => "hermes_local"
  | hermesNas => "hermes_nas"

/-- `ProviderClass`. -/
inductive ProviderClass where
  | localModel | subscriptionOauth | apiMetered
  deriving DecidableEq, Repr

/-- The text stored for a provider class. -/
def ProviderClass.value : ProviderClass → String
  | localModel => "local_model"
  | subscriptionOauth => "subscription_oauth"
  | apiMetered => "api_metered"

/-- `DataClassification`. -/
inductive DataClassification where
  | internal | confidentialLocal | confidentialCloudApproved | secret
  deriving DecidableEq, Repr

/-- The text stored for a data class. -/
def DataClassification.value : DataClassification → String
  | internal => "internal"
  | confidentialLocal => "confidential_local"
  | confidentialCloudApproved => "confidential_cloud_approved"
  | secret => "secret"

/-- `ProjectionKind`. -/
inductive ProjectionKind where
  | operational | evidence
  deriving DecidableEq, Repr

/-- `FailureClass`. -/
inductive FailureClass where
  | transient | rateLimited | qualityFailure | quotaExhausted | policyViolation | permanent
  | uncertainSideEffect
  deriving DecidableEq, Repr

/-- The text stored for a failure class. -/
def FailureClass.value : FailureClass → String
  | transient => "transient"
  | rateLimited => "rate_limited"
  | qualityFailure => "quality_failure"
  | quotaExhausted => "quota_exhausted"
  | policyViolation => "policy_violation"
  | permanent => "permanent"
  | uncertainSideEffect => "uncertain_side_effect"

/-- `SideEffectState`. -/
inductive SideEffectState where
  | none | confirmedNone | unknown
  deriving DecidableEq, Repr

end ControlHarness

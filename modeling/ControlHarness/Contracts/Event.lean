import ControlHarness.Contracts.Models

/-!
The event contract of `contracts.py`: the registered event types, the payload
fields of each, and the events that the store writes.

An event of the store is a value of `HarnessEvent`, its type and its payload in
one. `payloadFields` are the keys of the payload that the store builds and
`eventPayloadFields` the registered ones (`EVENT_PAYLOAD_FIELDS`);
`payload_registered` is the check of `EventEnvelopeV1` for every event.
-/

namespace ControlHarness

/-- `HarnessEventType`. -/
inductive HarnessEventType where
  | taskCreated | taskClaimed | statusChanged | heartbeatRejected | leaseExpired
  | failureClassified | recoveryCardCreated | deadLetterCreated | retryScheduled
  | retryReleased | receiptRejected | receiptAccepted | circuitClosed | approvalRequested
  | approvalDecided
  deriving DecidableEq, Repr

/-- The text stored for a type. -/
def HarnessEventType.value : HarnessEventType → String
  | taskCreated => "task_created"
  | taskClaimed => "task_claimed"
  | statusChanged => "status_changed"
  | heartbeatRejected => "heartbeat_rejected"
  | leaseExpired => "lease_expired"
  | failureClassified => "failure_classified"
  | recoveryCardCreated => "recovery_card_created"
  | deadLetterCreated => "dead_letter_created"
  | retryScheduled => "retry_scheduled"
  | retryReleased => "retry_released"
  | receiptRejected => "receipt_rejected"
  | receiptAccepted => "receipt_accepted"
  | circuitClosed => "circuit_closed"
  | approvalRequested => "approval_requested"
  | approvalDecided => "approval_decided"

/-- `EVENT_PAYLOAD_FIELDS`: the payload fields registered for a type. -/
def eventPayloadFields : HarnessEventType → List String
  | .taskCreated => ["title", "project"]
  | .taskClaimed => ["worker", "attempt"]
  | .statusChanged => ["from", "to", "reason"]
  | .heartbeatRejected => ["worker"]
  | .leaseExpired => ["action"]
  | .failureClassified => ["failure_class", "side_effect_state", "circuit_key"]
  | .recoveryCardCreated => ["recovery_id", "trigger", "allowed_actions"]
  | .deadLetterCreated => ["dead_letter_id", "failure_class"]
  | .retryScheduled => ["retry_at", "delay_seconds", "attempt"]
  | .retryReleased => ["next_attempt"]
  | .receiptRejected => ["reason", "worker"]
  | .receiptAccepted => ["outcome", "status", "model_ref", "provider_class"]
  | .circuitClosed => ["circuit_key"]
  | .approvalRequested => ["approval_id", "action"]
  | .approvalDecided => ["approval_id", "decision", "decided_by"]

/-- The two decisions on an approval. -/
inductive Decision where
  | approved | rejected
  deriving DecidableEq, Repr

/-- The decision that a text names, if any. -/
def Decision.ofText (s : String) : Option Decision :=
  if s = "approved" then some .approved else if s = "rejected" then some .rejected else none

/-- An event with its payload, as the store writes it. -/
inductive HarnessEvent where
  | taskCreated (title project : String)
  | taskClaimed (worker : String) (attempt : ℕ)
  | statusChanged (source target : TaskStatus) (reason : String)
  | heartbeatRejected (worker : String)
  | leaseExpired (action : TaskStatus)
  | failureClassified (failureClass : FailureClass) (sideEffectState : SideEffectState)
      (circuitKey : Option String)
  | recoveryCardCreated (recoveryId : UUID) (trigger : String) (allowedActions : List String)
  | deadLetterCreated (deadLetterId : ℕ) (failureClass : FailureClass)
  | retryScheduled (retryAt : Timestamp) (delaySeconds attempt : ℕ)
  | retryReleased (nextAttempt : ℕ)
  | receiptRejected (reason worker : String)
  | receiptAccepted (outcome : ReceiptOutcome) (status : TaskStatus) (modelRef : String)
      (providerClass : ProviderClass)
  | circuitClosed (circuitKey : String)
  | approvalRequested (approvalId : UUID) (action : String)
  | approvalDecided (approvalId : UUID) (decision : Decision) (decidedBy : String)
  deriving DecidableEq, Repr

namespace HarnessEvent

/-- The registered type of an event. -/
def eventType : HarnessEvent → HarnessEventType
  | taskCreated .. => .taskCreated
  | taskClaimed .. => .taskClaimed
  | statusChanged .. => .statusChanged
  | heartbeatRejected .. => .heartbeatRejected
  | leaseExpired .. => .leaseExpired
  | failureClassified .. => .failureClassified
  | recoveryCardCreated .. => .recoveryCardCreated
  | deadLetterCreated .. => .deadLetterCreated
  | retryScheduled .. => .retryScheduled
  | retryReleased .. => .retryReleased
  | receiptRejected .. => .receiptRejected
  | receiptAccepted .. => .receiptAccepted
  | circuitClosed .. => .circuitClosed
  | approvalRequested .. => .approvalRequested
  | approvalDecided .. => .approvalDecided

/-- The keys of the payload that the store builds for an event. -/
def payloadFields : HarnessEvent → List String
  | taskCreated .. => ["title", "project"]
  | taskClaimed .. => ["worker", "attempt"]
  | statusChanged .. => ["from", "to", "reason"]
  | heartbeatRejected .. => ["worker"]
  | leaseExpired .. => ["action"]
  | failureClassified .. => ["failure_class", "side_effect_state", "circuit_key"]
  | recoveryCardCreated .. => ["recovery_id", "trigger", "allowed_actions"]
  | deadLetterCreated .. => ["dead_letter_id", "failure_class"]
  | retryScheduled .. => ["retry_at", "delay_seconds", "attempt"]
  | retryReleased .. => ["next_attempt"]
  | receiptRejected .. => ["reason", "worker"]
  | receiptAccepted .. => ["outcome", "status", "model_ref", "provider_class"]
  | circuitClosed .. => ["circuit_key"]
  | approvalRequested .. => ["approval_id", "action"]
  | approvalDecided .. => ["approval_id", "decision", "decided_by"]

/-- `EventEnvelopeV1.enforce_registered_payload_shape`: no registered field is
missing and no field is unexpected. -/
def HasRegisteredShape (e : HarnessEvent) : Prop :=
  (∀ f ∈ eventPayloadFields e.eventType, f ∈ e.payloadFields)
    ∧ ∀ f ∈ e.payloadFields, f ∈ eventPayloadFields e.eventType

instance (e : HarnessEvent) : Decidable e.HasRegisteredShape :=
  inferInstanceAs (Decidable (_ ∧ _))

/-- Every event of the store has the payload registered for its type. -/
theorem payload_registered (e : HarnessEvent) : e.HasRegisteredShape := by
  cases e <;> exact ⟨fun _ h => h, fun _ h => h⟩

end HarnessEvent

end ControlHarness

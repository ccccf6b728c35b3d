import ControlHarness.General.Table
import ControlHarness.General.Transaction
import ControlHarness.Resilience

/-!
The seven tables of the store (`SCHEMA` of `store.py`), their sequences and the
errors of the store.

Tables with a caller-chosen primary key are `Table`s; the tables with a
`BIGSERIAL` key are lists in the order of insertion, their numbers drawn from
`Sequences`. The table of tasks keeps the whole card. `idempotency_key` is a
second unique column of it, which the one `INSERT` checks.

The texts of the rows range over all strings. PostgreSQL does not store the character NUL,
so a database holds fewer rows than the tables, and refuses a statement with such a text;
`Op.Refused` says which operations that ends.
-/

namespace ControlHarness

/-- A row of `agent_tasks`. -/
structure TaskRow where
  taskId : UUID
  correlationId : UUID
  title : String
  project : String
  ownerRole : String
  status : TaskStatus := .ready
  card : TaskCardV1
  idempotencyKey : String
  approvalRequired : List String := []
  ownerInstance : Option String := none
  claimedAt : Option Timestamp := none
  heartbeatAt : Option Timestamp := none
  leaseExpiresAt : Option Timestamp := none
  attemptCount : ℕ := 0
  createdAt : Timestamp
  nextAttemptAt : Option Timestamp := none
  lastFailureClass : Option FailureClass := none
  circuitKey : Option String := none
  deriving DecidableEq, Repr

/-- A row of `agent_events`. -/
structure EventRow where
  eventId : ℕ
  taskId : UUID
  correlationId : UUID
  event : HarnessEvent
  createdAt : Timestamp
  deriving DecidableEq, Repr

/-- The status of a row of `approvals`. -/
inductive ApprovalStatus where
  | requested
  | decided (d : Decision)
  deriving DecidableEq, Repr

/-- A row of `approvals`. -/
structure ApprovalRow where
  approvalId : UUID
  taskId : UUID
  action : String
  requestedBy : String
  status : ApprovalStatus := .requested
  decidedBy : Option String := none
  reason : String := ""
  decidedAt : Option Timestamp := none
  createdAt : Timestamp
  deriving DecidableEq, Repr

/-- A row of `routing_receipts`. -/
structure ReceiptRow where
  receiptId : ℕ
  taskId : UUID
  workerInstance : String
  outcome : ReceiptOutcome
  receipt : ResultReceiptV1
  createdAt : Timestamp
  deriving DecidableEq, Repr

/-- A row of `circuit_breakers`. -/
structure CircuitRow where
  circuitKey : String
  state : CircuitState := .closed
  failureCount : ℕ := 0
  failureThreshold : ℕ
  openedAt : Option Timestamp := none
  openUntil : Option Timestamp := none
  lastFailureClass : Option FailureClass := none
  updatedAt : Timestamp
  deriving DecidableEq, Repr

/-- A row of `dead_letters`. -/
structure DeadLetterRow where
  deadLetterId : ℕ
  taskId : UUID
  correlationId : UUID
  failureClass : FailureClass
  reason : String
  payload : FailureReportV1
  createdAt : Timestamp
  resolvedAt : Option Timestamp := none
  deriving DecidableEq, Repr

/-- A row of `recovery_cards`. -/
structure RecoveryCardRow where
  recoveryId : UUID
  taskId : UUID
  correlationId : UUID
  trigger : String
  reason : String
  allowedActions : List String
  status : String := "open"
  createdAt : Timestamp
  resolvedAt : Option Timestamp := none
  deriving DecidableEq, Repr

/-- The seven tables. -/
structure Tables where
  agentTasks : Table TaskRow.taskId
  agentEvents : List EventRow
  approvals : Table ApprovalRow.approvalId
  routingReceipts : List ReceiptRow
  circuitBreakers : Table CircuitRow.circuitKey
  deadLetters : List DeadLetterRow
  recoveryCards : Table RecoveryCardRow.recoveryId

/-- The last numbers handed out by the `BIGSERIAL` sequences. -/
structure Sequences where
  eventId : ℕ
  receiptId : ℕ
  deadLetterId : ℕ
  deriving DecidableEq, Repr

/-- The state of the store. -/
abbrev Db := Database Tables Sequences

/-- The tables after `init_db` on an empty database. -/
def Tables.init : Tables :=
  ⟨Table.empty, [], Table.empty, [], Table.empty, [], Table.empty⟩

/-- The database after `init_db`. -/
def Db.init : Db := ⟨Tables.init, ⟨0, 0, 0⟩⟩

/-- What a store operation raises: one of the errors of `store.py`, an error of
the database, a `ValidationError` or an `IndexError`. -/
inductive Raised where
  | storeError (detail : String)
  | notFound (detail : String)
  | ownership (detail : String)
  | transition (detail : String)
  | database (detail : String)
  | validationError (detail : String)
  | indexError
  deriving DecidableEq, Repr

/-- The programs of the store. -/
abbrev StoreTx := Tx Tables Sequences Timestamp Raised

end ControlHarness

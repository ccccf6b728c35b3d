import ControlHarness.General.Serial
import ControlHarness.Store.Schema

/-!
Routing and quality metrics from the stored receipts (`metrics.py`) and the
flow and risks panels of the cockpit (`cockpit.py`).

Both count from the tables alone. A rate is kept as the exact quotient of its
two counts. The metered cost of a receipt is always zero and is left out.

* `buildQualityMetricsSnapshot`: the counts over the receipts of operational
  tasks, by first pass and retry, by check and by route.
* `flowPanel`, `risksPanel`: the counts of the two panels.
-/

namespace ControlHarness

/-- The task is operational: `card->>'projection_kind' = 'operational'`. -/
def TaskRow.operational (r : TaskRow) : Bool := r.card.projectionKind = .operational

/-! ### Quality metrics -/

/-- `MetricValue`. -/
inductive MetricValue where
  | available (numerator denominator : ℕ) (rate : ℚ)
  | unavailable (reason : String)
  deriving DecidableEq, Repr

/-- `_rate_metric`. -/
def rateMetric (numerator denominator : ℕ) : MetricValue :=
  if denominator = 0 then .unavailable "no terminal ResultReceiptV1 evidence is persisted"
  else .available numerator denominator (numerator / denominator)

/-- `RouteMetrics`. -/
structure RouteMetrics where
  modelRef : String
  providerClass : ProviderClass
  receiptCount : ℕ := 0
  completedCount : ℕ := 0
  nonCompletedCount : ℕ := 0
  deriving DecidableEq, Repr

/-- The counts of a check by its state. -/
structure CheckCounts where
  passed : ℕ
  failed : ℕ
  notRun : ℕ
  deriving DecidableEq, Repr

/-- `QualityMetricsSnapshot` but for `generated_at`. -/
structure QualityMetrics where
  receiptCount : ℕ
  firstPassRate : MetricValue
  retryRate : MetricValue
  escalationRate : MetricValue
  reworkMinutes : MetricValue
  lint : CheckCounts
  tests : CheckCounts
  routes : List RouteMetrics
  deriving DecidableEq, Repr

/-- `QualityMetricsSnapshot`. -/
structure QualityMetricsSnapshot where
  generatedAt : Timestamp
  metrics : QualityMetrics
  deriving DecidableEq, Repr

/-- A row that the metrics select: a receipt with the attempts of its task. -/
structure MetricsRow where
  outcome : ReceiptOutcome
  receipt : ResultReceiptV1
  attemptCount : ℕ
  deriving DecidableEq, Repr

/-- The row of a receipt, if its task is operational. -/
def metricsRow (tasks : Table TaskRow.taskId) (taskId : UUID) (outcome : ReceiptOutcome)
    (receipt : ResultReceiptV1) : Option MetricsRow :=
  ((tasks.get? taskId).filter TaskRow.operational).map fun task =>
    ⟨outcome, receipt, task.attemptCount⟩

/-- The receipts of operational tasks, `ORDER BY rr.receipt_id`. -/
def Tables.metricsRows (s : Tables) : List MetricsRow :=
  (s.routingReceipts.insertionSort fun a b => a.receiptId ≤ b.receiptId).filterMap fun rr =>
    metricsRow s.agentTasks rr.taskId rr.outcome rr.receipt

/-- The rows of the metrics, as the receipts stand in the order of their numbers. -/
lemma Tables.metricsRows_eq {s : Tables} {last : ℕ}
    (h : Serial ReceiptRow.receiptId s.routingReceipts last) :
    s.metricsRows = s.routingReceipts.filterMap fun rr =>
      metricsRow s.agentTasks rr.taskId rr.outcome rr.receipt := by
  have hsort := h.insertionSort_filter fun _ => true
  rw [List.filter_true] at hsort
  rw [metricsRows, hsort]

/-- The counts of a check over the rows. -/
def checkCounts (check : ValidationResult → CheckState) (rows : List MetricsRow) : CheckCounts where
  passed := rows.countP fun r => check r.receipt.validation = .passed
  failed := rows.countP fun r => check r.receipt.validation = .failed
  notRun := rows.countP fun r => check r.receipt.validation = .notRun

/-- The route of a row, if it names one. -/
def MetricsRow.route (r : MetricsRow) : Option (String × ProviderClass) :=
  if r.receipt.costReceipt.modelRef = "" then none
  else some (r.receipt.costReceipt.modelRef, r.receipt.costReceipt.providerClass)

/-- Count a row under its route. -/
def RouteMetrics.add (m : RouteMetrics) (r : MetricsRow) : RouteMetrics :=
  if r.outcome = .completed then
    { m with receiptCount := m.receiptCount + 1, completedCount := m.completedCount + 1 }
  else { m with receiptCount := m.receiptCount + 1, nonCompletedCount := m.nonCompletedCount + 1 }

/-- The body of the loop over the rows: the totals by route, in the order in
which the routes appear. -/
def addRoute (totals : List RouteMetrics) (r : MetricsRow) : List RouteMetrics :=
  match r.route with
  | none => totals
  | some (modelRef, providerClass) =>
    if totals.any fun m => m.modelRef = modelRef && m.providerClass = providerClass then
      totals.map fun m =>
        if m.modelRef = modelRef && m.providerClass = providerClass then m.add r else m
    else totals ++ [RouteMetrics.add { modelRef, providerClass } r]

/-- The order of the routes: by model and then by the text of the provider
class. -/
def RouteMetrics.le (a b : RouteMetrics) : Prop :=
  a.modelRef < b.modelRef ∨
    a.modelRef = b.modelRef ∧ a.providerClass.value ≤ b.providerClass.value

instance : DecidableRel RouteMetrics.le := fun _ _ => inferInstanceAs (Decidable (_ ∨ _ ∧ _))

/-- The metrics of the selected rows. -/
def qualityMetrics (rows : List MetricsRow) : QualityMetrics where
  receiptCount := rows.length
  firstPassRate :=
    rateMetric (rows.countP fun r => r.outcome = .completed && r.attemptCount = 1) rows.length
  retryRate := rateMetric (rows.countP fun r => 1 < r.attemptCount) rows.length
  escalationRate := .unavailable "no normalized escalation event is persisted"
  reworkMinutes := .unavailable "no rework duration is persisted"
  lint := checkCounts ValidationResult.lint rows
  tests := checkCounts ValidationResult.tests rows
  routes := (rows.foldl addRoute []).insertionSort RouteMetrics.le

/-- `build_quality_metrics_snapshot`. -/
def buildQualityMetricsSnapshot (s : Tables) (now : Timestamp) : QualityMetricsSnapshot :=
  ⟨now, qualityMetrics s.metricsRows⟩

/-! ### The cockpit -/

/-- The data of the flow panel. -/
structure FlowPanel where
  taskCount : ℕ
  statusCounts : List (TaskStatus × ℕ)
  eventCount : ℕ
  lastEventAt : Option Timestamp
  deriving DecidableEq, Repr

/-- The data of the risks panel. -/
structure RisksPanel where
  blockedCount : ℕ
  failedCount : ℕ
  recoveryCount : ℕ
  expiredActiveLeaseCount : ℕ
  openDeadLetterCount : ℕ
  openRecoveryCardCount : ℕ
  openCircuitCount : ℕ
  deriving DecidableEq, Repr

/-- The statuses in the order of the enumeration. -/
def allStatuses : List TaskStatus :=
  [.ready, .claimed, .inProgress, .review, .awaitingApproval, .blocked, .failed, .done,
    .cancelled, .recoveryRequired, .retryWait, .awaitingDecision]

/-- The flow panel. -/
def flowPanel (s : Tables) : FlowPanel :=
  let statusCounts := allStatuses.map fun status =>
    (status, s.agentTasks.rows.countP fun r => r.status = status)
  { taskCount := (statusCounts.map Prod.snd).sum
    statusCounts
    eventCount := s.agentEvents.length
    lastEventAt := (s.agentEvents.map (·.createdAt)).max? }

/-- The task with the identifier exists and is operational. -/
def Tables.hasOperational (s : Tables) (taskId : UUID) : Bool :=
  (s.agentTasks.get? taskId).any TaskRow.operational

/-- The risks panel. -/
def risksPanel (s : Tables) (now : Timestamp) : RisksPanel :=
  let tasks := s.agentTasks.rows.filter TaskRow.operational
  { blockedCount := tasks.countP fun r => r.status = .blocked
    failedCount := tasks.countP fun r => r.status = .failed
    recoveryCount := tasks.countP fun r => r.status = .recoveryRequired
    expiredActiveLeaseCount := tasks.countP fun r =>
      decide r.status.IsExecution && r.leaseExpiresAt.any (· < now)
    openDeadLetterCount := s.deadLetters.countP fun l =>
      l.resolvedAt.isNone && s.hasOperational l.taskId
    openRecoveryCardCount := s.recoveryCards.rows.countP fun c =>
      c.status = "open" && s.hasOperational c.taskId
    openCircuitCount := s.circuitBreakers.rows.countP fun c =>
      c.state = .open && c.openUntil.any (now < ·) &&
        tasks.any fun r => r.circuitKey = some c.circuitKey }

end ControlHarness

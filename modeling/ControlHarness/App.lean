import ControlHarness.Auth
import ControlHarness.Metrics
import ControlHarness.Policy
import ControlHarness.Projection
import ControlHarness.Store.Operations

/-!
The HTTP surface (`app.py`).

A request names a method, a path and a header; what the framework makes of it is
the endpoint it resolves to, the route of the endpoint fitting method and path.
The middleware authenticates the request for the scope of the path in its URL, which the
framework puts together from the header `Host` and the path; a host with a slash or a
question mark in it makes it another path. Then the handler of the endpoint runs.

* `Endpoint`, `Request`: the handlers with their validated arguments, and the
  requests that reach them.
* `Response`: a status and a body, an error of the surface, or an exception that
  nothing handles.
* `App.handle`: the handlers; `App.respond` the middleware before them;
  `App.http` the surface as a machine over the database.
-/

namespace ControlHarness

/-- `ClaimRequest`. -/
structure ClaimRequest where
  ownerRole : String
  workerId : String
  leaseMinutes : ℤ := 10
  deriving DecidableEq, Repr

/-- `HeartbeatRequest`. -/
structure HeartbeatRequest where
  workerId : String
  leaseMinutes : ℤ := 10
  deriving DecidableEq, Repr

/-- `ApprovalRequest`. -/
structure ApprovalRequest where
  action : String
  requestedBy : String
  deriving DecidableEq, Repr

/-- `DecisionRequest`. -/
structure DecisionRequest where
  decision : String
  decidedBy : String
  reason : String := ""
  deriving DecidableEq, Repr

/-- The handlers with their arguments. Identifiers that a handler draws with
`uuid4` are arguments too. -/
inductive Endpoint where
  | health
  | cockpit
  | qualityMetrics
  | pandaosProjection (afterEventId : ℤ) (full : Bool)
  | createTask (card : TaskCardV1)
  | getTask (taskId : UUID)
  | claim (taskId : UUID) (body : ClaimRequest)
  | heartbeat (taskId : UUID) (body : HeartbeatRequest)
  | receipts (taskId : UUID) (receipt : ResultReceiptV1)
  | reportFailure (taskId : UUID) (report : FailureReportV1) (recoveryId : UUID)
  | approvalRequest (taskId : UUID) (body : ApprovalRequest) (approvalId : UUID)
  | decide (approvalId : UUID) (body : DecisionRequest)
  | trace (correlationId : UUID)
  | expireLeases (recoveryIds : UUID → UUID)
  | releaseRetries
  | resilience

/-- The path consists of the two texts around one segment. -/
def PathAround (before after path : String) : Prop :=
  ∃ segment : String, segment ≠ "" ∧ '/' ∉ segment.toList ∧ path = before ++ segment ++ after

/-- The method and the path are those of the route. -/
def Endpoint.Route (method path : String) : Endpoint → Prop
  | health => method = "GET" ∧ path = "/health"
  | cockpit => method = "GET" ∧ path = "/v1/operations/cockpit"
  | qualityMetrics => method = "GET" ∧ path = "/v1/operations/metrics"
  | pandaosProjection _ _ => method = "GET" ∧ path = "/v1/projections/pandaos"
  | createTask _ => method = "POST" ∧ path = "/v1/tasks"
  | getTask _ => method = "GET" ∧ PathAround "/v1/tasks/" "" path
  | claim _ _ => method = "POST" ∧ PathAround "/v1/tasks/" "/claim" path
  | heartbeat _ _ => method = "POST" ∧ PathAround "/v1/tasks/" "/heartbeat" path
  | receipts _ _ => method = "POST" ∧ PathAround "/v1/tasks/" "/receipts" path
  | reportFailure _ _ _ => method = "POST" ∧ PathAround "/v1/tasks/" "/failures" path
  | approvalRequest _ _ _ => method = "POST" ∧ PathAround "/v1/tasks/" "/approval-requests" path
  | decide _ _ => method = "POST" ∧ PathAround "/v1/approvals/" "/decisions" path
  | trace _ => method = "GET" ∧ PathAround "/v1/traces/" "" path
  | expireLeases _ => method = "POST" ∧ path = "/v1/maintenance/expire-leases"
  | releaseRetries => method = "POST" ∧ path = "/v1/maintenance/release-retries"
  | resilience => method = "GET" ∧ path = "/v1/operations/resilience"

/-- A request, with the endpoint that the framework resolves it to by its method and path;
a request that fits no route or fails its validation has none. The middleware sees
`request.url.path`. -/
structure Request where
  method : String
  path : String
  urlPath : String
  authorization : Option String
  endpoint : Option Endpoint
  route : ∀ e ∈ endpoint, e.Route method path

/-- The URL of the request has the path that it is routed by, as it does where the header
`Host` names a host. -/
def Request.Plain (r : Request) : Prop := r.urlPath = r.path

instance (r : Request) : Decidable r.Plain := inferInstanceAs (Decidable (_ = _))

/-- The body of a response. -/
inductive Body where
  | status (s : String)
  | cockpit (generatedAt : Timestamp) (flow : FlowPanel) (risks : RisksPanel)
  | metrics (m : QualityMetricsSnapshot)
  | projection (batch : PandaProjectionBatch)
  | created (row : TaskRow) (isNew : Bool)
  | task (row : TaskRow)
  | decision (d : ResilienceDecision)
  | approval (a : Store.ApprovalAnswer)
  | events (rows : List EventRow)
  | tasks (rows : List TaskRow)
  | resilience (circuits : List CircuitRow) (deadLetters : List DeadLetterRow)
      (recoveryCards : List RecoveryCardRow)
  deriving DecidableEq, Repr

/-- A response: a body, an error with its detail, the rejection of a request
without an endpoint, or an exception that nothing handles. -/
inductive Response where
  | ok (status : ℕ) (body : Body)
  | error (status : ℕ) (detail : String)
  | unprocessable
  | serverError
  deriving DecidableEq, Repr

/-- The rows of tasks in a body. -/
def Body.rows : Body → List TaskRow
  | created row _ => [row]
  | task row => [row]
  | tasks rows => rows
  | _ => []

/-- The rows of tasks in a response. -/
def Response.rows : Response → List TaskRow
  | ok _ body => body.rows
  | _ => []

/-- What the handlers are created with. -/
structure App where
  auth : TokenAuthorizer
  bundle : PolicyBundle
  rendering : Rendering

namespace App

open Store Text

/-- `_to_http`, and an exception that is no `StoreError`. -/
def toHttp : Raised → Response
  | .notFound detail => .error 404 detail
  | .storeError detail | .ownership detail | .transition detail => .error 409 detail
  | .database _ | .validationError _ | .indexError => .serverError

/-- `_enforce_nas_worker`: the error, if there is one. -/
def enforceNasWorker (principal : Principal) (ownerRole workerId : String) : Option Response :=
  if principal.role ≠ "hermes_nas" then none
  else if ownerRole ≠ "hermes_nas" || !startsWith workerId "svc-hermes-nas:" then
    some (.error 403 "NAS identity is read-only worker scoped")
  else none

/-- `_enforce_nas_task_access`: the error, if there is one. -/
def enforceNasTaskAccess (principal : Principal) (task : TaskRow) : Option Response :=
  if principal.role = "hermes_nas" && task.ownerRole ≠ "hermes_nas" then
    some (.error 403 "NAS identity cannot read other roles")
  else none

/-- Run a call of the store and answer with what the view makes of the reply;
an error that is no `StoreError` is handled by nothing. -/
def callStore (op : Op) (now : Timestamp) (view : Reply → Response) (db : Db) : Response × Db :=
  let r := store.step ⟨op, now⟩ db
  match r.1 with
  | .ok reply => (view reply, r.2)
  | .error e => (toHttp e, r.2)

/-- `create_task`. -/
def createTask (app : App) (card : TaskCardV1) (now : Timestamp) (db : Db) : Response × Db :=
  match Policy.assertTaskAllowed card app.bundle with
  | .error (.policy detail) => (.error 403 detail, db)
  | .error _ => (.serverError, db)
  | .ok () =>
    callStore (.createTask card) now (fun
      | .created row isNew => .ok 201 (.created row isNew)
      | _ => .serverError) db

/-- `get_task`. -/
def getTask (principal : Principal) (taskId : UUID) (db : Db) : Response :=
  match db.tables.agentTasks.get? taskId with
  | none => toHttp (taskNotFound taskId)
  | some task => (enforceNasTaskAccess principal task).getD (.ok 200 (.task task))

/-- `claim`. -/
def claim (principal : Principal) (taskId : UUID) (body : ClaimRequest) (now : Timestamp)
    (db : Db) : Response × Db :=
  match enforceNasWorker principal body.ownerRole body.workerId with
  | some denied => (denied, db)
  | none =>
    callStore (.claim taskId body.ownerRole body.workerId body.leaseMinutes) now (fun
      | .claimed (some row) => .ok 200 (.task row)
      | _ => .error 409 "task not claimable (status, lease, or circuit gate)") db

/-- A task row as the answer. -/
def rowView : Reply → Response
  | .row row => .ok 200 (.task row)
  | _ => .serverError

/-- `heartbeat`. -/
def heartbeat (principal : Principal) (taskId : UUID) (body : HeartbeatRequest)
    (now : Timestamp) (db : Db) : Response × Db :=
  match enforceNasWorker principal "hermes_nas" body.workerId with
  | some denied => (denied, db)
  | none => callStore (.heartbeat taskId body.workerId body.leaseMinutes) now rowView db

/-- `receipts`. -/
def receipts (principal : Principal) (taskId : UUID) (receipt : ResultReceiptV1)
    (now : Timestamp) (db : Db) : Response × Db :=
  match enforceNasWorker principal "hermes_nas" receipt.workerInstance with
  | some denied => (denied, db)
  | none =>
    if receipt.taskId ≠ taskId then (.error 422 "task_id mismatch", db)
    else callStore (.submitReceipt receipt) now rowView db

/-- `report_failure`. -/
def reportFailure (principal : Principal) (taskId : UUID) (report : FailureReportV1)
    (recoveryId : UUID) (now : Timestamp) (db : Db) : Response × Db :=
  match enforceNasWorker principal "hermes_nas" report.workerInstance with
  | some denied => (denied, db)
  | none =>
    if report.taskId ≠ taskId then (.error 422 "task_id mismatch", db)
    else
      callStore (.reportFailure report recoveryId) now (fun
        | .decision d => .ok 200 (.decision d)
        | _ => .serverError) db

/-- An approval as the answer. -/
def approvalView (status : ℕ) : Reply → Response
  | .approval a => .ok status (.approval a)
  | _ => .serverError

/-- `approval_request`; a body that makes no `ApprovalCardV1` raises a
`ValidationError` inside the handler. -/
def approvalRequest (taskId : UUID) (body : ApprovalRequest) (approvalId : UUID)
    (now : Timestamp) (db : Db) : Response × Db :=
  let action := strip isWhiteSpace body.action
  let requestedBy := strip isWhiteSpace body.requestedBy
  if h : HasLength 3 80 action ∧ HasLength 3 120 requestedBy then
    callStore (.requestApproval ⟨approvalId, taskId, action, requestedBy, h.1, h.2⟩) now
      (approvalView 201) db
  else (.serverError, db)

/-- `decide`. -/
def decide (approvalId : UUID) (body : DecisionRequest) (now : Timestamp) (db : Db) :
    Response × Db :=
  callStore (.decideApproval approvalId body.decision body.decidedBy body.reason) now
    (approvalView 200) db

/-- A list of task rows as the answer. -/
def rowsView : Reply → Response
  | .rows rows => .ok 200 (.tasks rows)
  | _ => .serverError

/-- `pandaos_projection`. -/
def pandaosProjection (app : App) (afterEventId : ℤ) (full : Bool) (db : Db) : Response :=
  if afterEventId < 0 then .error 422 "after_event_id must be non-negative"
  else match pandaosProjectionSnapshot app.rendering db.tables afterEventId.toNat full with
    | .ok batch => .ok 200 (.projection batch)
    | .error _ => .error 409 "consumer cursor is ahead of authoritative Harness event state"

/-- `Store.trace`. -/
def trace (s : Tables) (correlationId : UUID) : List EventRow :=
  (s.agentEvents.filter fun e => e.correlationId = correlationId).insertionSort
    fun a b => a.eventId ≤ b.eventId

/-- `Store.resilience_snapshot`. -/
def resilienceSnapshot (s : Tables) : Body :=
  .resilience
    (s.circuitBreakers.rows.insertionSort fun a b => a.circuitKey ≤ b.circuitKey)
    (s.deadLetters.insertionSort fun a b => a.deadLetterId ≤ b.deadLetterId)
    (s.recoveryCards.rows.insertionSort fun a b => a.createdAt < b.createdAt ∨
      a.createdAt = b.createdAt ∧ a.recoveryId.bits.toNat ≤ b.recoveryId.bits.toNat)

/-- The handlers. -/
def handle (app : App) (principal : Principal) (now : Timestamp) (db : Db) :
    Endpoint → Response × Db
  | .health => (.ok 200 (.status "ok"), db)
  | .cockpit => (.ok 200 (.cockpit now (flowPanel db.tables) (risksPanel db.tables now)), db)
  | .qualityMetrics => (.ok 200 (.metrics (buildQualityMetricsSnapshot db.tables now)), db)
  | .pandaosProjection after full => (app.pandaosProjection after full db, db)
  | .createTask card => app.createTask card now db
  | .getTask taskId => (getTask principal taskId db, db)
  | .claim taskId body => claim principal taskId body now db
  | .heartbeat taskId body => heartbeat principal taskId body now db
  | .receipts taskId receipt => receipts principal taskId receipt now db
  | .reportFailure taskId report recoveryId =>
      reportFailure principal taskId report recoveryId now db
  | .approvalRequest taskId body approvalId => approvalRequest taskId body approvalId now db
  | .decide approvalId body => decide approvalId body now db
  | .trace correlationId => (.ok 200 (.events (trace db.tables correlationId)), db)
  | .expireLeases recoveryIds => callStore (.expireLeases recoveryIds) now rowsView db
  | .releaseRetries => callStore .releaseDueRetries now rowsView db
  | .resilience => (.ok 200 (resilienceSnapshot db.tables), db)

/-- The principal of a request, or the response of the middleware. -/
def authorize (app : App) (files : Files) (request : Request) : Except Response Principal :=
  match requiredScope request.method request.urlPath with
  | none => .ok development
  | some scope =>
    match app.auth.authenticate files request.authorization scope with
    | .ok principal => .ok principal
    | .error (.authentication detail) => .error (.error 401 detail)
    | .error (.authorization detail) => .error (.error 403 detail)
    | .error _ => .error .serverError

/-- The answer to a request. -/
def respond (app : App) (files : Files) (request : Request) (now : Timestamp) (db : Db) :
    Response × Db :=
  match app.authorize files request with
  | .error denied => (denied, db)
  | .ok principal =>
    match request.endpoint with
    | none => (.unprocessable, db)
    | some e => app.handle principal now db e

end App

/-- A request at a time, with the token files as they are then. -/
structure HttpCall where
  request : Request
  files : Files
  now : Timestamp

/-- The surface over the database. -/
def App.http (app : App) : Machine Db HttpCall Response where
  step call db := app.respond call.files call.request call.now db

end ControlHarness

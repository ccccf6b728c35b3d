import ControlHarness.General.Reading
import ControlHarness.Metrics
import ControlHarness.Policy
import ControlHarness.Store.Operations

/-!
The cockpit (`cockpit.py`) beside the operations of the store.

`build_cockpit_snapshot` runs seven `SELECT` statements in one transaction. The
transaction is `READ ONLY` and keeps the isolation level of the connection, so
that each statement sees what was committed before it started; `now()` is the
time at which the transaction began. The projection and the manifest read under
`REPEATABLE READ`.

* `CockpitStatement`, `CockpitRequest.answer`: the statements and what each
  returns on the tables.
* `buildCockpitSnapshot`: the panels, from the answers and the two policy
  documents. The metered cost of a receipt is always zero and is left out.
* `CockpitRequest.returned`: what a snapshot returns in a run of its statements
  and committed calls of the store.
* `cockpit_consistent`: when the answers are those on one committed state.
-/

namespace ControlHarness

open Policy

/-! ### The statements -/

/-- A `SELECT` of `build_cockpit_snapshot`. -/
inductive CockpitStatement where
  | now | workers | receipts | statuses | events | risks | knowledge
  deriving DecidableEq, Repr

/-- A worker with the tasks that name it as their owner. -/
structure WorkerRow where
  ownerRole : String
  ownerInstance : String
  taskCount : ℕ
  activeTaskCount : ℕ
  lastHeartbeatAt : Option Timestamp
  latestLeaseExpiresAt : Option Timestamp
  deriving DecidableEq, Repr

/-- The columns that are selected of a receipt. -/
structure CockpitReceipt where
  outcome : ReceiptOutcome
  receipt : ResultReceiptV1
  createdAt : Timestamp
  deriving DecidableEq, Repr

/-- The number of the events and the time of the latest. -/
structure EventSummary where
  eventCount : ℕ
  lastEventAt : Option Timestamp
  deriving DecidableEq, Repr

/-- The rows that a statement returns. -/
def CockpitStatement.Answer : CockpitStatement → Type
  | .now => Timestamp
  | .workers => List WorkerRow
  | .receipts => List CockpitReceipt
  | .statuses => List (TaskStatus × ℕ)
  | .events => EventSummary
  | .risks => RisksPanel
  | .knowledge => ℕ

instance : (q : CockpitStatement) → DecidableEq q.Answer
  | .now => inferInstanceAs (DecidableEq Timestamp)
  | .workers => inferInstanceAs (DecidableEq (List WorkerRow))
  | .receipts => inferInstanceAs (DecidableEq (List CockpitReceipt))
  | .statuses => inferInstanceAs (DecidableEq (List (TaskStatus × ℕ)))
  | .events => inferInstanceAs (DecidableEq EventSummary)
  | .risks => inferInstanceAs (DecidableEq RisksPanel)
  | .knowledge => inferInstanceAs (DecidableEq ℕ)

/-- The statements in the order of the source. -/
def cockpitStatements : List CockpitStatement :=
  [.now, .workers, .receipts, .statuses, .events, .risks, .knowledge]

/-- The row of an owner. -/
def workerRow (s : Tables) (owner : String × String) : WorkerRow :=
  let tasks := s.agentTasks.rows.filter fun r =>
    r.ownerRole = owner.1 && r.ownerInstance = some owner.2
  { ownerRole := owner.1
    ownerInstance := owner.2
    taskCount := tasks.length
    activeTaskCount := tasks.countP fun r => decide r.status.IsExecution
    lastHeartbeatAt := (tasks.filterMap (·.heartbeatAt)).max?
    latestLeaseExpiresAt := (tasks.filterMap (·.leaseExpiresAt)).max? }

/-- `ORDER BY owner_role, owner_instance` in a collation. -/
def ownerLe (collate : String → String → Bool) (a b : String × String) : Bool :=
  collate a.1 b.1 && (!collate b.1 a.1 || collate a.2 b.2)

/-- The owners, `GROUP BY owner_role, owner_instance`. -/
def Tables.owners (s : Tables) : List (String × String) :=
  (s.agentTasks.rows.filterMap fun r => r.ownerInstance.map fun i => (r.ownerRole, i)).dedup

/-- `SELECT .. FROM agent_tasks .. GROUP BY owner_role, owner_instance`. -/
def Tables.workerRows (collate : String → String → Bool) (s : Tables) : List WorkerRow :=
  (s.owners.insertionSort fun a b => ownerLe collate a b = true).map (workerRow s)

/-- `SELECT .. FROM routing_receipts ORDER BY receipt_id`. -/
def Tables.cockpitReceipts (s : Tables) : List CockpitReceipt :=
  (s.routingReceipts.insertionSort fun a b => a.receiptId ≤ b.receiptId).map fun rr =>
    ⟨rr.outcome, rr.receipt, rr.createdAt⟩

/-- The tasks in a status. -/
def Tables.statusCount (s : Tables) (status : TaskStatus) : ℕ :=
  s.agentTasks.rows.countP fun r => r.status = status

/-- `SELECT status, count(*) FROM agent_tasks GROUP BY status`. -/
def Tables.statusRows (s : Tables) : List (TaskStatus × ℕ) :=
  (s.agentTasks.rows.map TaskRow.status).dedup.map fun status => (status, s.statusCount status)

/-- `SELECT count(*), max(created_at) FROM agent_events`. -/
def Tables.eventSummary (s : Tables) : EventSummary :=
  ⟨s.agentEvents.length, (s.agentEvents.map (·.createdAt)).max?⟩

/-- The event types that count as captured knowledge. -/
def knowledgeTypes : List String := ["knowledge_captured", "handover_recorded"]

/-- `SELECT count(*) FROM agent_events WHERE event_type IN ..`. -/
def Tables.knowledgeEventCount (s : Tables) : ℕ :=
  s.agentEvents.countP fun e => e.event.eventType.value ∈ knowledgeTypes

/-- The arguments of a snapshot, the time at which its transaction began and the
collation of the database. -/
structure CockpitRequest where
  catalog : Yaml
  routingPolicy : Yaml
  now : Timestamp
  collate : String → String → Bool

/-- What a statement returns on the tables. -/
def CockpitRequest.answer (C : CockpitRequest) : (q : CockpitStatement) → Tables → q.Answer
  | .now, _ => C.now
  | .workers, s => s.workerRows C.collate
  | .receipts, s => s.cockpitReceipts
  | .statuses, s => s.statusRows
  | .events, s => s.eventSummary
  | .risks, s => risksPanel s C.now
  | .knowledge, s => s.knowledgeEventCount

/-! ### The panels -/

/-- `CockpitPanel.status`. -/
inductive PanelStatus where
  | available | partiallyAvailable | unavailable | disabled
  deriving DecidableEq, Repr

/-- `CockpitPanel`. -/
structure CockpitPanel (D : Type) where
  status : PanelStatus
  sources : List String
  data : D

/-- The data of the panel of the models. -/
structure ModelOauthPanel where
  verifiedOauthRoutes : List Yaml
  observedModels : List String
  liveOauthProbe : String

/-- The data of the panel of the quotas, but for the cost of zero. -/
structure QuotaCostPanel where
  receiptCount : ℕ
  quotaStatuses : List String
  quotaVisibility : List Yaml

/-- The data of the quality panel. -/
structure QualityPanel where
  receiptCount : ℕ
  lint : CheckCounts
  tests : CheckCounts

/-- The data of the knowledge panel. -/
structure KnowledgePanel where
  artifactCount : ℕ
  knowledgeEventCount : ℕ

/-- The data of the routing panel. -/
structure RoutingPanel where
  apiMetered : String
  apiMeteredAllowed : Bool
  configuredClasses : List Yaml
  verifiedRoutes : List Yaml
  observedProviderClasses : List String

/-- `CockpitPanels`. -/
structure CockpitPanels where
  workers : CockpitPanel (List WorkerRow)
  modelOauth : CockpitPanel ModelOauthPanel
  quotaCost : CockpitPanel QuotaCostPanel
  quality : CockpitPanel QualityPanel
  flow : CockpitPanel FlowPanel
  risks : CockpitPanel RisksPanel
  knowledge : CockpitPanel KnowledgePanel
  routing : CockpitPanel RoutingPanel

/-- `CockpitSnapshot`. -/
structure CockpitSnapshot where
  generatedAt : Timestamp
  panels : CockpitPanels

/-! ### The policy documents -/

/-- What the snapshot takes from the two documents. -/
structure CockpitPolicies where
  verifiedOauthRoutes : List Yaml
  quotaVisibility : List Yaml
  apiMeteredAllowed : Bool
  configuredClasses : List Yaml
  verifiedRoutes : List Yaml

/-- The model is reached through a subscription. -/
def isSubscriptionOauth (entry : Scalar × Yaml) : Except YamlError Bool := do
  let provider ← entry.2.getText "provider_class"
  pure (provider.asText = some "subscription_oauth")

/-- The model is reached through a subscription whose connection is verified. -/
def isVerifiedOauth (entry : Scalar × Yaml) : Except YamlError Bool := do
  if ← isSubscriptionOauth entry then
    let connection ← entry.2.getText "connection_status"
    pure (connection.asText = some "verified")
  else pure false

/-- The quota visibility of a model, as an element of a set. -/
def quotaVisibilityOf (entry : Scalar × Yaml) : Except YamlError Scalar := do
  let visibility ← entry.2.getD "quota_visibility" (.ofString "unavailable")
  visibility.hash

/-- The reading of the catalog and of the routing policy. The statements lie
between its parts; it does not depend on their answers. -/
def readCockpitPolicies (catalog routingPolicy : Yaml) : Except YamlError CockpitPolicies := do
  let configuredModels ← catalog.getD "models" noEntries
  let models ← configuredModels.items
  let verified ← models.filterM isVerifiedOauth
  let verifiedOauthRoutes ← Yaml.sortedList (verified.map fun entry => .scalar entry.1)
  let subscriptions ← models.filterM isSubscriptionOauth
  let visibilities ← subscriptions.mapM quotaVisibilityOf
  let quotaVisibility ← Yaml.sortedList ((Yaml.distinct visibilities).map .scalar)
  let routingDefaults ← routingPolicy.getD "defaults" noEntries
  let routingClasses ← routingPolicy.getD "classes" noEntries
  let allowed ← routingDefaults.getD "api_metered_allowed" (.scalar (.bool false))
  let configuredClasses ← routingClasses.sorted
  let verifiedRoutes ← configuredModels.sorted
  pure ⟨verifiedOauthRoutes, quotaVisibility, allowed.truthy, configuredClasses, verifiedRoutes⟩

/-! ### The snapshot -/

/-- `sorted({..})` of the texts that are not empty. -/
def sortedTexts (texts : List String) : List String :=
  (texts.filter (· ≠ "")).dedup.insertionSort (· ≤ ·)

/-- The counts of a check over the validations. -/
def validationCounts (check : ValidationResult → CheckState) (validations : List ValidationResult) :
    CheckCounts where
  passed := validations.countP fun v => check v = .passed
  failed := validations.countP fun v => check v = .failed
  notRun := validations.countP fun v => check v = .notRun

/-- The artifacts of a receipt that are given and not empty. -/
def givenArtifacts (a : Artifacts) : List String :=
  [a.branch, a.worktreeRef, a.commitSha, a.pullRequest, a.testReport].filterMap
    (·.filter (· ≠ ""))

/-- `status_counts`: every status with the count of its row, or zero. -/
def statusCounts (rows : List (TaskStatus × ℕ)) : List (TaskStatus × ℕ) :=
  allStatuses.map fun status => (status, (rows.lookup status).getD 0)

/-- The flow panel from the rows of the statuses and the summary of the
events. -/
def flowOf (rows : List (TaskStatus × ℕ)) (events : EventSummary) : FlowPanel where
  taskCount := ((statusCounts rows).map Prod.snd).sum
  statusCounts := statusCounts rows
  eventCount := events.eventCount
  lastEventAt := events.lastEventAt

/-- `has_risk`. -/
def RisksPanel.hasRisk (p : RisksPanel) : Bool :=
  [p.blockedCount, p.failedCount, p.recoveryCount, p.expiredActiveLeaseCount,
    p.openDeadLetterCount, p.openRecoveryCardCount, p.openCircuitCount].any (0 < ·)

/-- `quota_panel_status`. -/
def quotaPanelStatus (costReceipts : List CostReceipt) (quotaStatuses : List String)
    (quotaVisibility : List Yaml) : PanelStatus :=
  if costReceipts = [] then .unavailable
  else if quotaStatuses = ["available"] ∧ quotaVisibility.map Yaml.asText = [some "full"] then
    .available
  else .partiallyAvailable

/-- The status of a panel whose evidence is there or is missing. -/
def evidenceStatus (present : Bool) : PanelStatus := if present then .available else .unavailable

/-- The panels from the policies and the answers. -/
def cockpitPanels (p : CockpitPolicies) (answer : (q : CockpitStatement) → q.Answer) :
    CockpitPanels :=
  let workers : List WorkerRow := answer .workers
  let cockpitReceipts : List CockpitReceipt := answer .receipts
  let receipts := cockpitReceipts.map (·.receipt)
  let costReceipts := receipts.map (·.costReceipt)
  let quotaStatuses := sortedTexts (costReceipts.map (·.quotaStatus.value))
  let validations := receipts.map (·.validation)
  let artifacts := receipts.flatMap fun r => givenArtifacts r.artifacts
  let risks : RisksPanel := answer .risks
  let knowledgeEventCount : ℕ := answer .knowledge
  { workers :=
      { status := evidenceStatus !workers.isEmpty
        sources := ["agent_tasks.owner_instance", "agent_tasks.heartbeat_at"]
        data := workers }
    modelOauth :=
      { status := evidenceStatus !p.verifiedOauthRoutes.isEmpty
        sources := ["policies/model-catalog.yaml", "routing_receipts.receipt.cost_receipt"]
        data :=
          { verifiedOauthRoutes := p.verifiedOauthRoutes
            observedModels := sortedTexts (costReceipts.map (·.modelRef))
            liveOauthProbe := "unavailable" } }
    quotaCost :=
      { status := quotaPanelStatus costReceipts quotaStatuses p.quotaVisibility
        sources := ["routing_receipts.receipt.cost_receipt", "policies/model-catalog.yaml"]
        data :=
          { receiptCount := costReceipts.length
            quotaStatuses
            quotaVisibility :=
              if p.quotaVisibility.isEmpty then [.ofString "unavailable"] else p.quotaVisibility } }
    quality :=
      { status := evidenceStatus !validations.isEmpty
        sources := ["routing_receipts.receipt.validation"]
        data :=
          { receiptCount := validations.length
            lint := validationCounts ValidationResult.lint validations
            tests := validationCounts ValidationResult.tests validations } }
    flow :=
      { status := .available
        sources := ["agent_tasks.status", "agent_events.created_at"]
        data := flowOf (answer .statuses) (answer .events) }
    risks :=
      { status := if risks.hasRisk then .partiallyAvailable else .available
        sources := ["agent_tasks.status", "agent_tasks.lease_expires_at",
          "dead_letters.resolved_at", "recovery_cards.status", "circuit_breakers.state"]
        data := risks }
    knowledge :=
      { status := evidenceStatus (!artifacts.isEmpty || knowledgeEventCount ≠ 0)
        sources := ["routing_receipts.receipt.artifacts", "agent_events.event_type"]
        data := { artifactCount := artifacts.length, knowledgeEventCount } }
    routing :=
      { status := .available
        sources := ["policies/routing-policy.yaml", "policies/model-catalog.yaml",
          "routing_receipts.receipt.cost_receipt"]
        data :=
          { apiMetered := "disabled"
            apiMeteredAllowed := p.apiMeteredAllowed
            configuredClasses := p.configuredClasses
            verifiedRoutes := p.verifiedRoutes
            observedProviderClasses := sortedTexts (costReceipts.map (·.providerClass.value)) } } }

/-- `build_cockpit_snapshot`, once its statements have returned. -/
def buildCockpitSnapshot (catalog routingPolicy : Yaml)
    (answer : (q : CockpitStatement) → q.Answer) : Except YamlError CockpitSnapshot := do
  let policies ← readCockpitPolicies catalog routingPolicy
  pure { generatedAt := answer .now, panels := cockpitPanels policies answer }

namespace CockpitRequest

variable (C : CockpitRequest)

/-- The snapshot whose statements all see the same tables. -/
def snapshotOn (s : Tables) : Except YamlError CockpitSnapshot :=
  buildCockpitSnapshot C.catalog C.routingPolicy fun q => C.answer q s

/-- The reader after a run of its statements and the calls that are committed
between them. -/
def readerAfter (db : Db) (turns : List (Turn Call)) : Reader CockpitStatement Db :=
  (Reader.reading store).exec (Reader.start cockpitStatements db) turns

/-- `cockpit_snapshot` in a run, once every statement is executed. -/
def returned (db : Db) (turns : List (Turn Call)) : Option (Except YamlError CockpitSnapshot) :=
  let r := readerAfter db turns
  if r.todo = [] then
    some (buildCockpitSnapshot C.catalog C.routingPolicy fun q => C.answer q (r.seen q).tables)
  else none

end CockpitRequest

/-! ### One committed state -/

/-- The count of a status in the flow panel. -/
def FlowPanel.count (p : FlowPanel) (status : TaskStatus) : ℕ :=
  (p.statusCounts.lookup status).getD 0

/-- The blocked, failed and recovery counts of the risks panel are within those
of the flow panel. -/
structure RisksWithinFlow (panels : CockpitPanels) : Prop where
  blocked : panels.risks.data.blockedCount ≤ panels.flow.data.count .blocked
  failed : panels.risks.data.failedCount ≤ panels.flow.data.count .failed
  recovery : panels.risks.data.recoveryCount ≤ panels.flow.data.count .recoveryRequired

lemma mem_allStatuses (status : TaskStatus) : status ∈ allStatuses := by
  cases status <;> decide

namespace Tables

variable (s : Tables)

/-- Grouping loses no task: the row of a status carries its count, and a status
without a row has none. -/
lemma lookup_statusRows (status : TaskStatus) :
    (s.statusRows.lookup status).getD 0 = s.statusCount status := by
  rw [statusRows]
  by_cases hmem : status ∈ (s.agentTasks.rows.map TaskRow.status).dedup
  · rw [List.lookup_graph s.statusCount hmem, Option.getD_some]
  · have hnone : (((s.agentTasks.rows.map TaskRow.status).dedup).map
        fun status => (status, s.statusCount status)).lookup status = none := by
      rw [List.lookup_eq_none_iff]
      rintro row hrow
      obtain ⟨other, hother, rfl⟩ := List.mem_map.mp hrow
      have hne : status ≠ other := by
        rintro rfl
        exact hmem hother
      simpa using hne
    rw [hnone, Option.getD_none, eq_comm, statusCount, List.countP_eq_zero]
    intro r hr hstatus
    refine hmem (List.mem_dedup.mpr (List.mem_map.mpr ⟨r, hr, ?_⟩))
    simpa using hstatus

/-- On one state the flow panel is that of the tables. -/
lemma flowOf_eq : flowOf s.statusRows s.eventSummary = flowPanel s := by
  have hcounts : statusCounts s.statusRows
      = allStatuses.map fun status => (status, s.statusCount status) := by
    rw [statusCounts]
    refine List.map_congr_left fun status _ => ?_
    rw [s.lookup_statusRows status]
  rw [flowOf, hcounts]
  rfl

/-- The flow panel has the count of every status. -/
lemma count_flowPanel (status : TaskStatus) :
    (flowPanel s).count status = s.statusCount status := by
  have hlookup : (flowPanel s).statusCounts.lookup status = some (s.statusCount status) :=
    List.lookup_graph s.statusCount (mem_allStatuses status)
  rw [FlowPanel.count, hlookup, Option.getD_some]

/-- The operational tasks in a status are among the tasks in it. -/
lemma countP_operational_le (status : TaskStatus) :
    (s.agentTasks.rows.filter TaskRow.operational).countP (fun r => r.status = status)
      ≤ s.statusCount status :=
  List.filter_sublist.countP_le

end Tables

namespace CockpitRequest

variable {C : CockpitRequest}

/-- Where all statements see the same tables, the two panels are those of the
tables. -/
lemma panels_of_snapshotOn {s : Tables} {snapshot : CockpitSnapshot}
    (h : C.snapshotOn s = .ok snapshot) :
    snapshot.panels.flow.data = flowPanel s ∧ snapshot.panels.risks.data = risksPanel s C.now := by
  obtain ⟨policies, -, h⟩ := Except.bind_eq_ok.mp h
  obtain rfl := Except.ok.inj h
  exact ⟨s.flowOf_eq, rfl⟩

/-- **One state is enough**: where all statements see the same tables, no risk
count is past the count of its status. -/
lemma risksWithinFlow_of_snapshotOn {s : Tables} {snapshot : CockpitSnapshot}
    (h : C.snapshotOn s = .ok snapshot) : RisksWithinFlow snapshot.panels := by
  obtain ⟨hflow, hrisks⟩ := panels_of_snapshotOn h
  have hcount : ∀ status,
      (s.agentTasks.rows.filter TaskRow.operational).countP (fun r => r.status = status)
        ≤ snapshot.panels.flow.data.count status := by
    intro status
    rw [hflow, s.count_flowPanel]
    exact s.countP_operational_le status
  constructor
  · rw [hrisks]
    exact hcount .blocked
  · rw [hrisks]
    exact hcount .failed
  · rw [hrisks]
    exact hcount .recoveryRequired

variable (C)

/-- Whatever the snapshot returns in the run, it is what its statements give on
one committed state of the run; and the risks panel is within the flow panel. -/
structure Consistent (db : Db) (turns : List (Turn Call)) : Prop where
  committed : ∀ result, C.returned db turns = some result →
    ∃ calls, calls <+: Reader.commits turns ∧
      result = C.snapshotOn (store.exec db calls).tables
  within : ∀ snapshot, C.returned db turns = some (.ok snapshot) →
    RisksWithinFlow snapshot.panels

/-- A call leaves unchanged what the statements executed so far return. -/
def KeepsDone : Reader CockpitStatement Db → Turn Call → Prop :=
  Reader.KeepsDone (fun q db => C.answer q db.tables) store

/-- A call leaves unchanged what the statements to come return. -/
def KeepsTodo : Reader CockpitStatement Db → Turn Call → Prop :=
  Reader.KeepsTodo (fun q db => C.answer q db.tables) store

/-- There is a moment of the run such that no call before it changes what was
read by then, and no call after it changes what is still to be read. -/
def Undisturbed (db : Db) (turns : List (Turn Call)) : Prop :=
  ∃ pre post, turns = pre ++ post ∧
    (Reader.reading store).Along C.KeepsDone (Reader.start cockpitStatements db) pre ∧
    (Reader.reading store).Along C.KeepsTodo (readerAfter db pre) post

variable {C}

/-- Every statement has been executed once none is to come. -/
lemma mem_done {db : Db} {turns : List (Turn Call)} (h : (readerAfter db turns).todo = [])
    (q : CockpitStatement) : q ∈ (readerAfter db turns).done := by
  have hall : (readerAfter db turns).done ++ (readerAfter db turns).todo = cockpitStatements :=
    Reader.done_append_todo
  rw [h, List.append_nil] at hall
  rw [hall]
  cases q <;> decide

/-- **A snapshot is consistent** along every run in which, at some moment, the
calls before it leave what was read and the calls after it leave what is still
to be read. -/
theorem cockpit_consistent {db : Db} {turns : List (Turn Call)} (h : C.Undisturbed db turns) :
    C.Consistent db turns := by
  obtain ⟨pre, post, rfl, hpre, hpost⟩ := h
  have hprefix : Reader.commits pre <+: Reader.commits (pre ++ post) := by
    rw [Reader.commits, Reader.commits, List.filterMap_append]
    exact List.prefix_append _ _
  have hcommitted : ∀ result, C.returned db (pre ++ post) = some result →
      result = C.snapshotOn (store.exec db (Reader.commits pre)).tables := by
    intro result hresult
    rw [returned] at hresult
    split at hresult
    · rename_i htodo
      have hanswer : (fun q => C.answer q ((readerAfter db (pre ++ post)).seen q).tables)
          = fun q => C.answer q (store.exec db (Reader.commits pre)).tables := by
        funext q
        exact Reader.answers_at_moment hpre hpost q (mem_done htodo q)
      rw [hanswer] at hresult
      exact (Option.some.inj hresult).symm
    · exact absurd hresult (by simp)
  constructor
  · exact fun result hresult => ⟨_, hprefix, hcommitted result hresult⟩
  · intro snapshot hsnapshot
    exact risksWithinFlow_of_snapshotOn (hcommitted _ hsnapshot).symm

/-- A request without a configured model, in the order of the code points. -/
def sample : CockpitRequest where
  catalog := noEntries
  routingPolicy := noEntries
  now := 0
  collate a b := a ≤ b

instance (r : Reader CockpitStatement Db) : (turn : Turn Call) → Decidable (C.KeepsDone r turn)
  | .commit call => inferInstanceAs (Decidable (∀ q ∈ r.done,
      C.answer q (store.next call r.state).tables = C.answer q r.state.tables))
  | .select => isTrue trivial

instance (r : Reader CockpitStatement Db) : (turn : Turn Call) → Decidable (C.KeepsTodo r turn)
  | .commit call => inferInstanceAs (Decidable (∀ q ∈ r.todo,
      C.answer q (store.next call r.state).tables = C.answer q r.state.tables))
  | .select => isTrue trivial

/-- The card is created before the first statement and claimed before the
sixth. -/
theorem cockpit_consistent_claimed :
    sample.Consistent Db.init
      (.commit ⟨.createTask sampleCard, 0⟩ :: List.replicate 5 .select ++
        [.commit ⟨.claim sampleCard.taskId "hermes_local" "worker-a" 30, 0⟩, .select, .select]) :=
  cockpit_consistent ⟨.commit ⟨.createTask sampleCard, 0⟩ :: List.replicate 5 .select,
    [.commit ⟨.claim sampleCard.taskId "hermes_local" "worker-a" 30, 0⟩, .select, .select], rfl,
    by decide +kernel, by decide +kernel⟩

/-- A claimed task is reported blocked between the statement on the statuses and
the one on the risks. -/
def tornTurns : List (Turn Call) :=
  [.commit ⟨.createTask sampleCard, 0⟩,
    .commit ⟨.claim sampleCard.taskId "hermes_local" "worker-a" 30, 0⟩,
    .select, .select, .select, .select,
    .commit ⟨.submitReceipt { sampleReceipt with outcome := .blocked }, 0⟩,
    .select, .select, .select]

/-- The blocked count of the risks panel and that of the flow panel. -/
def blockedCounts (snapshot : CockpitSnapshot) : ℕ × ℕ :=
  (snapshot.panels.risks.data.blockedCount, snapshot.panels.flow.data.count .blocked)

/-- The risks panel counts the blocked task and the flow panel does not. -/
theorem not_cockpit_consistent : ¬ sample.Consistent Db.init tornTurns := by
  have hcounts : (sample.returned Db.init tornTurns).map (·.map blockedCounts)
      = some (.ok (1, 0)) := by decide +kernel
  intro h
  obtain ⟨result, hresult, hmap⟩ := Option.map_eq_some_iff.mp hcounts
  cases result with
  | error e => exact absurd hmap (by simp [Except.map])
  | ok snapshot =>
      have hwithin := (h.within snapshot hresult).blocked
      obtain ⟨hrisks, hflow⟩ := Prod.mk.inj (Except.ok.inj hmap)
      omega

end CockpitRequest

end ControlHarness

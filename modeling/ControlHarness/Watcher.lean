import ControlHarness.General.Process
import ControlHarness.JsonText
import ControlHarness.Scopes

/-!
The read-only worker of the pilot (`nas_watcher.py`).

The worker claims its task, or takes it up again if the task is its own, renews
the lease and prints a report on a public repository in a loop until the end of
the pilot, and submits one receipt. It is a process: what it asks of the API, of
its clock, of the public repository and of its surroundings are the questions,
and a state of it is a point of its program between two of them.

* `TaskJson`: what the worker reads of the answers of the API.
* `ApiCall`: the methods of `HarnessClient`, with the endpoint, the request and
  what becomes of the response.
* `PublicGitHubProbe`: the probe, which exists for the repository of the pilot
  only; `collectChecks` is what it makes of the two documents.
* `NasWatcher`, `Phase`, `NasWatcher.process`: the worker; `exitCode` is what
  `main` makes of its end.
* `session_shape`: what the worker asks, whatever it is answered.

Identifiers in answers are kept as identifiers, since their texts tell them, and
the task of the worker is named by the canonical text of its identifier.
-/

namespace ControlHarness

open Text

/-! ### The client -/

/-- What the worker raises: the classes of `nas_watcher.py`, and any other
exception. -/
inductive WorkerRaised where
  | authenticationRevoked
  | claimConflict
  | workerError (detail : String)
  | other
  deriving DecidableEq, Repr

/-- What the worker reads of a task in an answer; a member that the document does
not have is `none`. -/
structure TaskJson where
  taskId : Option UUID := none
  correlationId : Option UUID := none
  ownerInstance : Option String := none
  status : Option String := none
  deriving DecidableEq, Repr

/-- The members of `_jsonable(row)` that the worker reads. -/
def TaskRow.json (row : TaskRow) : TaskJson where
  taskId := some row.taskId
  correlationId := some row.correlationId
  ownerInstance := row.ownerInstance
  status := some row.status.value

/-- The members of a body that the worker reads. -/
def Body.json : Body → TaskJson
  | .task row => row.json
  | _ => {}

/-- The calls of the API. -/
inductive ApiCall where
  | claim (taskId : UUID) (workerId : String) (leaseMinutes : ℤ)
  | getTask (taskId : UUID)
  | heartbeat (taskId : UUID) (workerId : String) (leaseMinutes : ℤ)
  | submitReceipt (taskId correlationId : UUID) (workerId summary : String)
  deriving DecidableEq, Repr

namespace ApiCall

lemma monitor_ref : IsModelRef "deterministic_monitor" := by decide

lemma monitor_not_metered : ProviderClass.localModel ≠ .apiMetered := by decide

/-- The worker and the summary of a receipt have the lengths of the contract. -/
def FitsReceipt (workerId summary : String) : Prop :=
  HasLength 3 120 (strip isWhiteSpace workerId) ∧ HasLength 10 4000 (strip isWhiteSpace summary)

instance (workerId summary : String) : Decidable (FitsReceipt workerId summary) :=
  inferInstanceAs (Decidable (_ ∧ _))

lemma FitsReceipt.worker {workerId summary : String} (h : FitsReceipt workerId summary) :
    HasLength 3 120 (strip isWhiteSpace workerId) := h.1

lemma FitsReceipt.text {workerId summary : String} (h : FitsReceipt workerId summary) :
    HasLength 10 4000 (strip isWhiteSpace summary) := h.2

/-- The receipt that the API makes of the body of `submit_receipt`. -/
def receipt (taskId correlationId : UUID) {workerId summary : String}
    (h : FitsReceipt workerId summary) (now : Timestamp) : ResultReceiptV1 where
  taskId := taskId
  correlationId := correlationId
  workerInstance := strip isWhiteSpace workerId
  outcome := .completed
  summary := strip isWhiteSpace summary
  validation :=
    { lint := .notRun
      tests := .passed
      details := "Allowlisted read-only probes completed for the pilot window." }
  costReceipt :=
    { providerClass := .localModel
      modelRef := "deterministic_monitor"
      subscriptionQuotaConsumed := false
      quotaStatus := .unavailable
      modelRef_pattern := monitor_ref
      not_metered := monitor_not_metered }
  createdAt := now
  worker_length := h.worker
  summary_length := h.text

/-- The endpoint that a call resolves to, unless its body fails validation. -/
def endpoint (now : Timestamp) : ApiCall → Option Endpoint
  | claim taskId workerId leaseMinutes =>
      some (.claim taskId { ownerRole := "hermes_nas", workerId, leaseMinutes })
  | getTask taskId => some (.getTask taskId)
  | heartbeat taskId workerId leaseMinutes => some (.heartbeat taskId { workerId, leaseMinutes })
  | submitReceipt taskId correlationId workerId summary =>
      if h : FitsReceipt workerId summary then
        some (.receipts taskId (receipt taskId correlationId h now))
      else none

/-- The method of a call. -/
def method : ApiCall → String
  | getTask _ => "GET"
  | _ => "POST"

/-- The path of a call. -/
def path : ApiCall → String
  | claim taskId _ _ => "/v1/tasks/" ++ taskId.str ++ "/claim"
  | getTask taskId => "/v1/tasks/" ++ taskId.str
  | heartbeat taskId _ _ => "/v1/tasks/" ++ taskId.str ++ "/heartbeat"
  | submitReceipt taskId _ _ _ => "/v1/tasks/" ++ taskId.str ++ "/receipts"

/-- The endpoint is reached by its canonical path. -/
lemma method_path {c : ApiCall} {now : Timestamp} {e : Endpoint} (h : c.endpoint now = some e) :
    e.method = c.method ∧ e.path = c.path := by
  cases c with
  | claim taskId workerId leaseMinutes | getTask taskId
  | heartbeat taskId workerId leaseMinutes =>
      obtain rfl := Option.some.inj h
      exact ⟨rfl, rfl⟩
  | submitReceipt taskId correlationId workerId summary =>
      rw [endpoint] at h
      split at h
      · obtain rfl := Option.some.inj h
        exact ⟨rfl, rfl⟩
      · exact absurd h (by simp)

lemma route {c : ApiCall} {now : Timestamp} :
    ∀ e ∈ c.endpoint now, e.Route c.method c.path := by
  intro e he
  obtain ⟨hmethod, hpath⟩ := method_path he
  rw [← hmethod, ← hpath]
  exact e.route_path

/-- The request of a call, with the token of the client. -/
def request (token : String) (now : Timestamp) (c : ApiCall) : Request where
  method := c.method
  path := c.path
  urlPath := c.path
  authorization := some ("Bearer " ++ token)
  endpoint := c.endpoint now
  route := route

/-- The scope that a call needs. -/
def scope : ApiCall → String
  | claim .. => "tasks:claim"
  | getTask _ => "tasks:read"
  | heartbeat .. => "tasks:heartbeat"
  | submitReceipt .. => "tasks:receipt"

end ApiCall

/-- The status code of a response. -/
def Response.code : Response → ℕ
  | .ok status _ => status
  | .error status _ => status
  | .unprocessable => 422
  | .serverError => 500

/-- What `_request` makes of a response. -/
def readResponse (path : String) : Response → Except WorkerRaised TaskJson
  | .ok _ body => .ok body.json
  | r =>
    if r.code = 401 then .error .authenticationRevoked
    else if r.code = 409 then .error .claimConflict
    else .error (.workerError
      ("Harness returned HTTP " ++ Nat.repr r.code ++ " for " ++ path))

/-- What `_request` makes of a lost connection. -/
def unavailable (path : String) : WorkerRaised :=
  .workerError ("Harness unavailable for " ++ path)

/-! ### The probe -/

/-- `_ALLOWED_REPOSITORY`. -/
def allowedRepository : String := "visualfox-ch/harness-golden-path"

/-- A character of the name of a repository or of its owner. -/
def isRepositoryChar (c : Char) : Bool := isAlphaDigit c || c = '_' || c = '.' || c = '-'

/-- `_REPOSITORY_RE.fullmatch(repository)`. -/
def isRepository (repository : String) : Bool :=
  match repository.toList.splitOn '/' with
  | [owner, name] =>
      owner ≠ [] && name ≠ [] && owner.all isRepositoryChar && name.all isRepositoryChar
  | _ => false

/-- `PublicGitHubProbe`. -/
structure PublicGitHubProbe where
  repository : String
  allowed : repository = allowedRepository

/-- `PublicGitHubProbe.__init__`, unless it raises a `ValueError`. -/
def PublicGitHubProbe.init (repository : String) : Option PublicGitHubProbe :=
  if h : isRepository repository = true ∧ repository = allowedRepository then
    some ⟨repository, h.2⟩
  else none

/-- The commit of the main branch. -/
def PublicGitHubProbe.commitUrl (p : PublicGitHubProbe) : String :=
  "https://api.github.com/repos/" ++ p.repository ++ "/commits/main"

/-- The latest run of the checks. -/
def PublicGitHubProbe.runsUrl (p : PublicGitHubProbe) : String :=
  "https://api.github.com/repos/" ++ p.repository ++ "/actions/runs?per_page=1"

/-- A document of the public API. -/
abbrev PublicJson := Json ℚ

/-- The members of a document, unless it is no object. -/
def PublicJson.members : PublicJson → Option (List (String × PublicJson))
  | .dict ms => some ms
  | _ => none

/-- `ms[key]`. -/
def member (key : String) (ms : List (String × PublicJson)) : Option PublicJson :=
  (ms.find? fun m => m.1 = key).map Prod.snd

/-- `v[0]` of a list. -/
def PublicJson.head : PublicJson → Option PublicJson
  | .list items => items.head?
  | _ => none

/-- What `collect` returns. -/
structure Checks where
  repository : String
  headSha : PublicJson
  ciRunId : PublicJson
  ciStatus : PublicJson
  ciConclusion : PublicJson

/-- `collect` on the two documents; `none` where it raises on their shape. -/
def collectChecks (repository : String) (commit runs : PublicJson) : Option Checks := do
  let listed ← runs.members
  let latest ← ((member "workflow_runs" listed).getD (.list [.dict []])).head
  let run ← latest.members
  let head ← commit.members
  let sha ← member "sha" head
  pure
    { repository := repository
      headSha := sha
      ciRunId := (member "id" run).getD (.leaf .null)
      ciStatus := (member "status" run).getD (.leaf (.str "unavailable"))
      ciConclusion := (member "conclusion" run).getD (.leaf (.str "unavailable")) }

/-! ### The worker -/

/-- The report of a cycle. -/
structure Report where
  timestamp : Timestamp
  taskId : UUID
  workerId : String
  checks : Checks

/-- What the worker asks: a call of the API, its clock, a document of the public
API, and to print and to sleep. -/
inductive Ask where
  | api (c : ApiCall)
  | clock
  | publicJson (url : String)
  | emit (report : Report)
  | sleep (seconds : ℤ)

/-- The answers. -/
def Ask.Answer : Ask → Type
  | api _ => Except WorkerRaised TaskJson
  | clock => Timestamp
  | publicJson _ => Except WorkerRaised PublicJson
  | emit _ => Except WorkerRaised Unit
  | sleep _ => Except WorkerRaised Unit

/-- `NasWatcher`. -/
structure NasWatcher where
  probe : PublicGitHubProbe
  taskId : UUID
  workerId : String
  endAt : Timestamp
  intervalSeconds : ℤ := 300
  leaseMinutes : ℤ := 10
  namespaced : startsWith workerId "svc-hermes-nas:" = true

/-- The points of `run` between two questions. -/
inductive Phase where
  | claiming
  | resuming
  | checking (task : TaskJson) (cycles : ℕ)
  | beating (task : TaskJson) (cycles : ℕ)
  | stamping (task : TaskJson) (cycles : ℕ)
  | probing (task : TaskJson) (cycles : ℕ) (timestamp : Timestamp)
  | probingRuns (task : TaskJson) (cycles : ℕ) (timestamp : Timestamp) (commit : PublicJson)
  | emitting (task : TaskJson) (cycles : ℕ) (report : Report)
  | sleeping (task : TaskJson) (cycles : ℕ)
  | submitting (taskId correlationId : UUID) (cycles : ℕ)
  | finished (task : TaskJson)
  | raised (e : WorkerRaised)

namespace NasWatcher

variable (w : NasWatcher)

/-- The summary of a receipt. -/
def summary (cycles : ℕ) : String :=
  "P2-4 read-only pilot completed with " ++ Nat.repr cycles ++ " heartbeat/report cycles."

/-- `_claim_or_resume` takes a task up again that is its own and in execution. -/
def resumes (task : TaskJson) : Bool :=
  task.ownerInstance = some w.workerId &&
    (task.status = some "claimed" || task.status = some "in_progress")

/-- The start of `submit_receipt`, which reads the identifiers of the task. -/
def submission (task : TaskJson) (cycles : ℕ) : Phase :=
  match task.taskId, task.correlationId with
  | some taskId, some correlationId => .submitting taskId correlationId cycles
  | _, _ => .raised .other

/-- The report of a cycle. -/
def report (timestamp : Timestamp) (checks : Checks) : Report :=
  ⟨timestamp, w.taskId, w.workerId, checks⟩

/-- `run`: what the worker asks at each point, and where an answer leads. -/
def process : Process Phase Ask Ask.Answer where
  next
    | .claiming => some ⟨.api (.claim w.taskId w.workerId w.leaseMinutes), fun
        | .ok task => .checking task 0
        | .error .claimConflict => .resuming
        | .error e => .raised e⟩
    | .resuming => some ⟨.api (.getTask w.taskId), fun
        | .ok task =>
            if w.resumes task then .checking task 0
            else .raised (.workerError "task is not owned by this worker")
        | .error e => .raised e⟩
    | .checking task cycles => some ⟨.clock, fun (now : Timestamp) =>
        if now < w.endAt then .beating task cycles else submission task cycles⟩
    | .beating task cycles =>
        some ⟨.api (.heartbeat w.taskId w.workerId w.leaseMinutes), fun
          | .ok _ => .stamping task cycles
          | .error e => .raised e⟩
    | .stamping task cycles => some ⟨.clock, fun (now : Timestamp) => .probing task cycles now⟩
    | .probing task cycles timestamp => some ⟨.publicJson w.probe.commitUrl, fun
        | .ok commit => .probingRuns task cycles timestamp commit
        | .error e => .raised e⟩
    | .probingRuns task cycles timestamp commit => some ⟨.publicJson w.probe.runsUrl, fun
        | .ok runs =>
            match collectChecks w.probe.repository commit runs with
            | some checks => .emitting task cycles (w.report timestamp checks)
            | none => .raised .other
        | .error e => .raised e⟩
    | .emitting task cycles report => some ⟨.emit report, fun
        | .ok () => .sleeping task (cycles + 1)
        | .error e => .raised e⟩
    | .sleeping task cycles => some ⟨.sleep w.intervalSeconds, fun
        | .ok () => .checking task cycles
        | .error e => .raised e⟩
    | .submitting taskId correlationId cycles =>
        some ⟨.api (.submitReceipt taskId correlationId w.workerId (summary cycles)), fun
          | .ok task => .finished task
          | .error e => .raised e⟩
    | .finished _ => none
    | .raised _ => none

end NasWatcher

/-- The exit code of `main`, once the run has ended. -/
def Phase.exitCode : Phase → Option ℕ
  | finished _ => some 0
  | raised .authenticationRevoked => some 3
  | raised _ => some 1
  | _ => none

/-! ### What the worker asks -/

namespace NasWatcher

variable (w : NasWatcher)

/-- The claim, and the read after a conflict. -/
def openings : List (List Ask) :=
  [[.api (.claim w.taskId w.workerId w.leaseMinutes)],
    [.api (.claim w.taskId w.workerId w.leaseMinutes), .api (.getTask w.taskId)]]

/-- A cycle up to its report. -/
def watch : List Ask :=
  [.clock, .api (.heartbeat w.taskId w.workerId w.leaseMinutes), .clock,
    .publicJson w.probe.commitUrl, .publicJson w.probe.runsUrl]

/-- A cycle: one heartbeat, one report, one pause. -/
def cycle (r : Report) : List Ask := w.watch ++ [.emit r, .sleep w.intervalSeconds]

/-- A session of the worker: an opening, a cycle for each report, and the receipt
that counts them. -/
def session (opening : List Ask) (reports : List Report) (taskId correlationId : UUID) :
    List Ask :=
  opening ++ reports.flatMap w.cycle
    ++ [.clock, .api (.submitReceipt taskId correlationId w.workerId (summary reports.length))]

/-- The report is one of the worker on its task and on the repository of the
pilot. -/
def Own (r : Report) : Prop :=
  r.taskId = w.taskId ∧ r.workerId = w.workerId ∧ r.checks.repository = allowedRepository

/-- The worker has asked an opening, the cycles of its reports and `rest`. -/
def Asked (cycles : ℕ) (rest past : List Ask) : Prop :=
  ∃ opening ∈ w.openings, ∃ reports : List Report, reports.length = cycles ∧
    (∀ r ∈ reports, w.Own r) ∧ past = opening ++ reports.flatMap w.cycle ++ rest

/-- What has been asked so far is the start of a session. -/
def StartsSession (past : List Ask) : Prop :=
  ∃ opening ∈ w.openings, ∃ reports : List Report, ∃ taskId correlationId,
    (∀ r ∈ reports, w.Own r) ∧ past <+: w.session opening reports taskId correlationId

/-- What has been asked when the worker is at a point of its program. -/
def Trail (past : List Ask) : Phase → Prop
  | .claiming => past = []
  | .resuming => past = [.api (.claim w.taskId w.workerId w.leaseMinutes)]
  | .checking _ cycles => w.Asked cycles [] past
  | .beating _ cycles => w.Asked cycles (w.watch.take 1) past
  | .stamping _ cycles => w.Asked cycles (w.watch.take 2) past
  | .probing _ cycles _ => w.Asked cycles (w.watch.take 3) past
  | .probingRuns _ cycles _ _ => w.Asked cycles (w.watch.take 4) past
  | .emitting _ cycles r => w.Own r ∧ w.Asked cycles w.watch past
  | .sleeping _ cycles => ∃ r n, w.Own r ∧ cycles = n + 1 ∧ w.Asked n (w.watch ++ [.emit r]) past
  | .submitting _ _ cycles => w.Asked cycles [.clock] past
  | .finished _ => ∃ opening ∈ w.openings, ∃ reports : List Report, ∃ taskId correlationId,
      (∀ r ∈ reports, w.Own r) ∧ past = w.session opening reports taskId correlationId
  | .raised _ => w.StartsSession past

variable {w} {past rest : List Ask} {cycles n : ℕ} {q : Ask} {r : Report}

lemma Asked.concat (h : w.Asked cycles rest past) : w.Asked cycles (rest ++ [q]) (past ++ [q]) := by
  obtain ⟨opening, hopening, reports, hlength, hown, rfl⟩ := h
  exact ⟨opening, hopening, reports, hlength, hown, by rw [List.append_assoc _ rest]⟩

/-- After the pause the cycle is complete. -/
lemma Asked.complete (h : w.Asked cycles (w.watch ++ [.emit r]) past) (hr : w.Own r) :
    w.Asked (cycles + 1) [] (past ++ [.sleep w.intervalSeconds]) := by
  obtain ⟨opening, hopening, reports, rfl, hown, rfl⟩ := h
  refine ⟨opening, hopening, reports ++ [r], List.length_append, ?_, ?_⟩
  · rw [List.forall_mem_append]
    exact ⟨hown, fun r' hr' => List.mem_singleton.mp hr' ▸ hr⟩
  · simp only [List.flatMap_append, List.flatMap_singleton, cycle, List.append_assoc,
      List.append_nil, List.cons_append, List.nil_append]

/-- A worker in the middle of a cycle has asked the start of a session. -/
lemma Asked.startsSession (h : w.Asked cycles rest past) (hr : w.Own r)
    (hrest : rest <+: w.cycle r) : w.StartsSession past := by
  obtain ⟨opening, hopening, reports, -, hown, rfl⟩ := h
  refine ⟨opening, hopening, reports ++ [r], w.taskId, w.taskId, ?_, ?_⟩
  · rw [List.forall_mem_append]
    exact ⟨hown, fun r' hr' => List.mem_singleton.mp hr' ▸ hr⟩
  · obtain ⟨left, hleft⟩ := hrest
    refine ⟨left ++ [.clock, .api (.submitReceipt w.taskId w.taskId w.workerId
      (summary (reports ++ [r]).length))], ?_⟩
    rw [session, List.flatMap_append, List.flatMap_singleton, ← hleft]
    simp only [List.append_assoc]

/-- There is a report to complete a cycle with. -/
lemma exists_own (w : NasWatcher) : ∃ r : Report, w.Own r :=
  ⟨w.report 0 ⟨w.probe.repository, .leaf .null, .leaf .null, .leaf .null, .leaf .null⟩,
    rfl, rfl, w.probe.allowed⟩

lemma Asked.startsSession_watch (h : w.Asked cycles (w.watch.take n) past) :
    w.StartsSession past := by
  obtain ⟨r, hr⟩ := w.exists_own
  exact h.startsSession hr ((List.take_prefix n _).trans (List.prefix_append _ _))

lemma startsSession_opening {opening : List Ask} (h : opening ∈ w.openings)
    (hpast : past <+: opening) : w.StartsSession past := by
  refine ⟨opening, h, [], w.taskId, w.taskId, fun r hr => absurd hr List.not_mem_nil, ?_⟩
  exact hpast.trans ⟨_, (List.append_assoc _ _ _).symm⟩

/-- At every point a start of a session has been asked. -/
lemma Trail.startsSession {s : Phase} (h : w.Trail past s) : w.StartsSession past := by
  cases s with
  | claiming =>
      obtain rfl : past = [] := h
      exact startsSession_opening List.mem_cons_self List.nil_prefix
  | resuming =>
      obtain rfl : past = [.api (.claim w.taskId w.workerId w.leaseMinutes)] := h
      exact startsSession_opening List.mem_cons_self (List.prefix_refl _)
  | checking task cycles => exact Asked.startsSession_watch (n := 0) h
  | beating task cycles => exact Asked.startsSession_watch (n := 1) h
  | stamping task cycles => exact Asked.startsSession_watch (n := 2) h
  | probing task cycles timestamp => exact Asked.startsSession_watch (n := 3) h
  | probingRuns task cycles timestamp commit => exact Asked.startsSession_watch (n := 4) h
  | emitting task cycles report => exact Asked.startsSession_watch (n := 5) h.2
  | sleeping task cycles =>
      obtain ⟨report, n, hown, -, hasked⟩ := h
      exact hasked.startsSession hown ⟨[.sleep w.intervalSeconds], by simp [cycle]⟩
  | submitting taskId correlationId cycles => exact Asked.startsSession_watch (n := 1) h
  | finished task =>
      obtain ⟨opening, hopening, reports, taskId, correlationId, hown, rfl⟩ := h
      exact ⟨opening, hopening, reports, taskId, correlationId, hown, List.prefix_refl _⟩
  | raised e => exact h

/-- The probe reports on its own repository. -/
lemma repository_collectChecks {repository : String} {commit runs : PublicJson} {checks : Checks}
    (h : collectChecks repository commit runs = some checks) : checks.repository = repository := by
  rw [collectChecks] at h
  simp only [Option.bind_eq_bind, Option.bind_eq_some_iff] at h
  obtain ⟨listed, -, latest, -, run, -, head, -, sha, -, hchecks⟩ := h
  obtain rfl := Option.some.inj hchecks
  rfl

lemma trail_submission {task : TaskJson} (h : w.Asked cycles [.clock] past) :
    w.Trail past (submission task cycles) := by
  rw [submission]
  split
  · exact h
  · exact h.startsSession_watch (n := 1)

/-- Every answer leads on along the trail. -/
lemma Trail.step {s : Phase} {k : q.Answer → Phase} {a : q.Answer}
    (hnext : w.process.next s = some ⟨q, k⟩) (h : w.Trail past s) :
    w.Trail (past ++ [q]) (k a) := by
  cases s with
  | claiming =>
      cases hnext
      obtain rfl : past = [] := h
      cases a with
      | ok task => exact ⟨_, List.mem_cons_self, [], rfl, by simp, rfl⟩
      | error e =>
          cases e with
          | claimConflict => rfl
          | _ => exact startsSession_opening List.mem_cons_self (List.prefix_refl _)
  | resuming =>
      cases hnext
      obtain rfl : past = [.api (.claim w.taskId w.workerId w.leaseMinutes)] := h
      have hopening : [Ask.api (.claim w.taskId w.workerId w.leaseMinutes),
          .api (.getTask w.taskId)] ∈ w.openings := List.mem_cons_of_mem _ List.mem_cons_self
      cases a with
      | ok task =>
          dsimp only
          split
          · exact ⟨_, hopening, [], rfl, by simp, rfl⟩
          · exact startsSession_opening hopening (List.prefix_refl _)
      | error e => exact startsSession_opening hopening (List.prefix_refl _)
  | checking task cycles =>
      cases hnext
      have hclock : w.Asked cycles [.clock] (past ++ [.clock]) := Asked.concat h
      dsimp only
      split
      · exact hclock
      · exact trail_submission hclock
  | beating task cycles =>
      cases hnext
      have hbeat : w.Asked cycles (w.watch.take 2) _ := Asked.concat h
      cases a with
      | ok task => exact hbeat
      | error e => exact hbeat.startsSession_watch
  | stamping task cycles =>
      cases hnext
      exact Asked.concat h
  | probing task cycles timestamp =>
      cases hnext
      have hprobe : w.Asked cycles (w.watch.take 4) _ := Asked.concat h
      cases a with
      | ok commit => exact hprobe
      | error e => exact hprobe.startsSession_watch
  | probingRuns task cycles timestamp commit =>
      cases hnext
      have hprobe : w.Asked cycles (w.watch.take 5) _ := Asked.concat h
      cases a with
      | error e => exact hprobe.startsSession_watch
      | ok runs =>
          dsimp only
          split
          · rename_i checks hchecks
            exact ⟨⟨rfl, rfl, (repository_collectChecks hchecks).trans w.probe.allowed⟩, hprobe⟩
          · exact hprobe.startsSession_watch
  | emitting task cycles report =>
      cases hnext
      obtain ⟨hown, hasked⟩ := h
      have hemit := hasked.concat (q := .emit report)
      cases a with
      | ok u => exact ⟨report, cycles, hown, rfl, hemit⟩
      | error e => exact hemit.startsSession hown ⟨[.sleep w.intervalSeconds], by simp [cycle]⟩
  | sleeping task cycles =>
      cases hnext
      obtain ⟨report, n, hown, rfl, hasked⟩ := h
      cases a with
      | ok u => exact hasked.complete hown
      | error e => exact (hasked.complete hown).startsSession hown (List.nil_prefix)
  | submitting taskId correlationId cycles =>
      cases hnext
      obtain ⟨opening, hopening, reports, rfl, hown, rfl⟩ := h
      have hsession : opening ++ reports.flatMap w.cycle ++ [.clock]
          ++ [.api (.submitReceipt taskId correlationId w.workerId (summary reports.length))]
          = w.session opening reports taskId correlationId := by
        rw [session, List.append_assoc _ [Ask.clock]]
        rfl
      cases a with
      | ok task => exact ⟨opening, hopening, reports, taskId, correlationId, hown, hsession⟩
      | error e =>
          exact ⟨opening, hopening, reports, taskId, correlationId, hown,
            hsession ▸ List.prefix_refl _⟩
  | finished task | raised e => exact absurd hnext (by simp [process])

/-- **The session of the worker**, whatever it is answered: it claims its task, or
reads it after a conflict; it renews the lease once before each report, probes
two fixed documents, and submits one receipt that counts its reports, after which
it is at its end. -/
theorem session_shape (w : NasWatcher) (answers : List ((q : Ask) → q.Answer)) :
    w.StartsSession (w.process.asked .claiming answers) ∧
      (∀ task, w.process.alone.exec .claiming answers = .finished task →
        ∃ opening ∈ w.openings, ∃ reports : List Report, ∃ taskId correlationId,
          (∀ r ∈ reports, w.Own r) ∧ w.process.asked .claiming answers
            = w.session opening reports taskId correlationId) := by
  have htrail : w.Trail (w.process.asked .claiming answers)
      (w.process.alone.exec .claiming answers) :=
    Process.asked_induction rfl fun past s q k a hnext h => h.step hnext
  refine ⟨htrail.startsSession, fun task hend => ?_⟩
  rw [hend] at htrail
  exact htrail

end NasWatcher

end ControlHarness

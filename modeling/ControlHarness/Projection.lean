import Mathlib.Data.List.Sort
import ControlHarness.Store.EventLog

/-!
The one-way projection of tasks to PandaOS (`projection.py`, and
`pandaos_projection_snapshot` of `store.py`).

A snapshot reads the tables once. Its cutoff is the highest event number that
is visible; a task is listed with the number of its own latest event, and an
incremental snapshot lists the tasks whose number is past the cursor of the
consumer.

* `projectTask`, `buildProjectionBatch`, `pandaosProjectionSnapshot`: the
  functions of the source. The digest and the text of a point in time are taken
  from a `Rendering`.
* `Tables.projection`: what a snapshot says of one task.
* `mem_tasks`, `find?_tasks`: a snapshot lists the projections past the cursor
  and nothing else, each under its own key.
-/

namespace ControlHarness

/-- What the projection takes from the libraries: the hexadecimal SHA-256
digest of a text, and the text of a point in time (`isoformat`). -/
structure Rendering where
  sha256 : String → String
  isoformat : Timestamp → String

/-- A rendering that is right about the card of `sampleCard` in the ready
status. -/
def sampleRendering : Rendering where
  sha256 _ := "e2fee21d960d04e8d670d927acbb2120644668eaad85b9b92ccec6e264d1a7df"
  isoformat _ := "1970-01-01T00:00:00+00:00"

/-- The status of a task in PandaOS. -/
inductive PandaStatus where
  | pending | inProgress | completed
  deriving DecidableEq, Repr

/-- The text of the status. -/
def PandaStatus.value : PandaStatus → String
  | pending => "pending"
  | inProgress => "in_progress"
  | completed => "completed"

/-- `PandaTaskProjection`. -/
structure PandaTaskProjection where
  projectionKey : String
  harnessTaskId : String
  correlationId : String
  sourceEventId : ℕ
  subject : String
  project : String
  status : PandaStatus
  activeForm : String
  ownerInstance : Option String
  attemptCount : ℕ
  approvalRequired : List String
  actionRequired : Bool
  isProof : Bool
  fingerprint : String
  traceRef : String
  deriving DecidableEq, Repr

/-- `PandaProjectionBatch.mode`. -/
inductive ProjectionMode where
  | incremental | full
  deriving DecidableEq, Repr

/-- `PandaProjectionBatch`. -/
structure PandaProjectionBatch where
  mode : ProjectionMode
  fromEventId : ℕ
  throughEventId : ℕ
  tasks : List PandaTaskProjection
  deriving DecidableEq, Repr

/-- `ProjectionCursorError`. -/
inductive ProjectionCursorError where
  | aheadOfHarness
  deriving DecidableEq, Repr

/-- The columns that the snapshot selects. -/
structure ProjectionRow where
  taskId : UUID
  correlationId : UUID
  title : String
  project : String
  status : TaskStatus
  card : TaskCardV1
  ownerInstance : Option String
  attemptCount : ℕ
  approvalRequired : List String
  nextAttemptAt : Option Timestamp
  lastFailureClass : Option FailureClass
  sourceEventId : ℕ
  deriving DecidableEq, Repr

/-! ### The display of one task -/

/-- `_PANDA_STATUS`. -/
def pandaStatus : TaskStatus → PandaStatus
  | .ready => .pending
  | .claimed | .inProgress | .review => .inProgress
  | .awaitingApproval | .blocked | .failed => .pending
  | .done | .cancelled => .completed
  | .recoveryRequired | .retryWait | .awaitingDecision => .pending

/-- `_ACTION_STATES`. -/
def actionStates : List TaskStatus :=
  [.awaitingApproval, .awaitingDecision, .blocked, .failed, .recoveryRequired]

/-- Python's `value or default` on a text that may be missing. -/
def orDefault (value : Option String) (default : String) : String :=
  (value.filter (· ≠ "")).getD default

/-- `_active_form`. -/
def activeForm (R : Rendering) (row : ProjectionRow) (status : TaskStatus) (isProof : Bool) :
    String :=
  if isProof then "Evidence fixture — Harness status: " ++ status.value
  else match status with
    | .ready => "Ready in Harness"
    | .claimed | .inProgress =>
        "Running in Harness via " ++ orDefault row.ownerInstance "assigned worker"
    | .review => "Review in Harness"
    | .awaitingApproval =>
        "Awaiting Harness approval: " ++
          orDefault (some (String.intercalate ", " row.approvalRequired)) "decision"
    | .retryWait =>
        "Retry waiting until " ++ orDefault (row.nextAttemptAt.map R.isoformat) "scheduled release"
    | .recoveryRequired => "Harness recovery decision required"
    | .awaitingDecision => "Human decision required in Harness"
    | .blocked => "Blocked in Harness"
    | .failed => "Failed in Harness"
    | .cancelled => "Cancelled in Harness"
    | .done => "Completed in Harness"

/-- The escape `\uXXXX` of a UTF-16 unit. -/
def unicodeEscape (n : ℕ) : String := "\\u" ++ String.ofList (UUID.hexDigits 4 n)

/-- A character in a string of `json.dumps`, which keeps to ASCII. -/
def jsonChar (c : Char) : String :=
  match c.toNat with
  | 0x22 => "\\\""
  | 0x5c => "\\\\"
  | 0x0a => "\\n"
  | 0x0d => "\\r"
  | 0x09 => "\\t"
  | 0x08 => "\\b"
  | 0x0c => "\\f"
  | n =>
    if 0x20 ≤ n ∧ n ≤ 0x7e then String.singleton c
    else if n < 0x10000 then unicodeEscape n
    else
      -- a pair of surrogates
      unicodeEscape (0xd800 + (n - 0x10000) / 0x400) ++
        unicodeEscape (0xdc00 + (n - 0x10000) % 0x400)

/-- A text as `json.dumps` writes it. -/
def jsonString (s : String) : String := "\"" ++ String.join (s.toList.map jsonChar) ++ "\""

/-- `_target_fingerprint`. -/
def targetFingerprint (R : Rendering) (subject status activeForm : String) : String :=
  R.sha256 ("\x7b\"activeForm\":" ++ jsonString activeForm ++ ",\"status\":" ++ jsonString status ++
    ",\"subject\":" ++ jsonString subject ++ "\x7d")

/-- The key of a task in PandaOS. -/
def projectionKey (taskId : UUID) : String := "harness:" ++ taskId.str

/-- `project_task`. -/
def projectTask (R : Rendering) (row : ProjectionRow) : PandaTaskProjection :=
  let isProof : Bool := row.card.projectionKind = .evidence
  let form := activeForm R row row.status isProof
  { projectionKey := projectionKey row.taskId
    harnessTaskId := row.taskId.str
    correlationId := row.correlationId.str
    sourceEventId := row.sourceEventId
    subject := row.title
    project := row.project
    status := pandaStatus row.status
    activeForm := form
    ownerInstance := row.ownerInstance
    attemptCount := row.attemptCount
    approvalRequired := row.approvalRequired
    actionRequired := !isProof && row.status ∈ actionStates
    isProof
    fingerprint := targetFingerprint R row.title (pandaStatus row.status).value form
    traceRef := "/v1/traces/" ++ row.correlationId.str }

/-- `build_projection_batch`. -/
def buildProjectionBatch (R : Rendering) (rows : List ProjectionRow)
    (fromEventId throughEventId : ℕ) (full : Bool) :
    Except ProjectionCursorError PandaProjectionBatch :=
  if throughEventId < fromEventId then .error .aheadOfHarness
  else .ok
    { mode := if full then .full else .incremental
      fromEventId, throughEventId, tasks := rows.map (projectTask R) }

/-! ### The snapshot -/

/-- `COALESCE(max(event_id), 0)` of the events. -/
def Tables.throughEventId (s : Tables) : ℕ := ((s.agentEvents.map (·.eventId)).max?).getD 0

/-- The number of the latest event of a task up to a cutoff. -/
def Tables.sourceEventId (s : Tables) (through : ℕ) (taskId : UUID) : Option ℕ :=
  ((s.agentEvents.filter fun e => e.taskId = taskId && e.eventId ≤ through).map (·.eventId)).max?

/-- The selected columns of a task. -/
def projectionRow (task : TaskRow) (sourceEventId : ℕ) : ProjectionRow where
  taskId := task.taskId
  correlationId := task.correlationId
  title := task.title
  project := task.project
  status := task.status
  card := task.card
  ownerInstance := task.ownerInstance
  attemptCount := task.attemptCount
  approvalRequired := task.approvalRequired
  nextAttemptAt := task.nextAttemptAt
  lastFailureClass := task.lastFailureClass
  sourceEventId := sourceEventId

/-- `ORDER BY v.source_event_id, t.task_id`. -/
def ProjectionRow.le (a b : ProjectionRow) : Prop :=
  a.sourceEventId < b.sourceEventId ∨
    a.sourceEventId = b.sourceEventId ∧ a.taskId.bits.toNat ≤ b.taskId.bits.toNat

instance : DecidableRel ProjectionRow.le := fun _ _ => inferInstanceAs (Decidable (_ ∨ _ ∧ _))

/-- The rows that the snapshot selects, in their order. -/
def Tables.projectionRows (s : Tables) (afterEventId : ℕ) (full : Bool) : List ProjectionRow :=
  ((s.agentTasks.rows.filterMap fun task =>
      (s.sourceEventId s.throughEventId task.taskId).map (projectionRow task)).filter
    fun r => full || afterEventId < r.sourceEventId).insertionSort ProjectionRow.le

/-- `pandaos_projection_snapshot`. -/
def pandaosProjectionSnapshot (R : Rendering) (s : Tables) (afterEventId : ℕ) (full : Bool) :
    Except ProjectionCursorError PandaProjectionBatch :=
  buildProjectionBatch R (s.projectionRows afterEventId full) (if full then 0 else afterEventId)
    s.throughEventId full

/-! ### What a snapshot says of one task -/

/-- The projection of a task: of its row, under the number of its latest
event. -/
def Tables.projection (R : Rendering) (s : Tables) (t : UUID) : Option PandaTaskProjection :=
  (s.agentTasks.get? t).bind fun task =>
    (s.sourceEventId s.throughEventId t).map fun v => projectTask R (projectionRow task v)

variable {R : Rendering} {s : Tables} {t : UUID}

/-- Different tasks have different keys. -/
lemma projectionKey_injective : Function.Injective projectionKey := by
  intro t t' h
  have h' : ("harness:" ++ t.str).toList = ("harness:" ++ t'.str).toList :=
    congrArg String.toList h
  rw [String.toList_append, String.toList_append] at h'
  exact UUID.str_injective (String.toList_injective (List.append_cancel_left h'))

lemma Tables.projection_eq_some {p : PandaTaskProjection} :
    s.projection R t = some p ↔ ∃ task v, s.agentTasks.get? t = some task ∧
      s.sourceEventId s.throughEventId t = some v ∧ projectTask R (projectionRow task v) = p := by
  rw [Tables.projection, Option.bind_eq_some_iff]
  constructor
  · rintro ⟨task, htask, hp⟩
    obtain ⟨v, hv, hp⟩ := Option.map_eq_some_iff.mp hp
    exact ⟨task, v, htask, hv, hp⟩
  · rintro ⟨task, v, htask, hv, hp⟩
    exact ⟨task, htask, Option.map_eq_some_iff.mpr ⟨v, hv, hp⟩⟩

lemma Tables.projection_key {p : PandaTaskProjection} (h : s.projection R t = some p) :
    p.projectionKey = projectionKey t := by
  obtain ⟨task, v, htask, -, rfl⟩ := Tables.projection_eq_some.mp h
  have hkey : task.taskId = t := Table.key_of_get? htask
  exact congrArg projectionKey hkey

/-- The batch of a snapshot. -/
lemma snapshot_eq_ok {after : ℕ} {full : Bool} {batch : PandaProjectionBatch}
    (h : pandaosProjectionSnapshot R s after full = .ok batch) :
    batch.throughEventId = s.throughEventId ∧
      batch.tasks = (s.projectionRows after full).map (projectTask R) := by
  rw [pandaosProjectionSnapshot, buildProjectionBatch] at h
  generalize (if full then 0 else after) = fromEventId at h
  split at h
  · exact absurd h (by simp)
  · obtain rfl := Except.ok.inj h
    exact ⟨rfl, rfl⟩

/-- A snapshot up to the cutoff, or a full one, returns a batch. -/
lemma snapshot_returns (R : Rendering) (s : Tables) {after : ℕ} {full : Bool}
    (h : full = true ∨ after ≤ s.throughEventId) :
    ∃ batch, pandaosProjectionSnapshot R s after full = .ok batch := by
  rw [pandaosProjectionSnapshot, buildProjectionBatch, if_neg]
  · exact ⟨_, rfl⟩
  · rcases h with rfl | h
    · rw [if_pos rfl]
      omega
    · split <;> omega

/-- **What a snapshot lists**: the projections past the cursor, or all of
them. -/
lemma mem_tasks {after : ℕ} {full : Bool} {batch : PandaProjectionBatch}
    (h : pandaosProjectionSnapshot R s after full = .ok batch) {p : PandaTaskProjection} :
    p ∈ batch.tasks ↔
      ∃ t, s.projection R t = some p ∧ (full = true ∨ after < p.sourceEventId) := by
  rw [(snapshot_eq_ok h).2, List.mem_map]
  constructor
  · rintro ⟨row, hrow, rfl⟩
    rw [Tables.projectionRows, List.mem_insertionSort, List.mem_filter, List.mem_filterMap] at hrow
    obtain ⟨⟨task, htask, hv⟩, hpast⟩ := hrow
    obtain ⟨v, hv', rfl⟩ := Option.map_eq_some_iff.mp hv
    refine ⟨task.taskId, Tables.projection_eq_some.mpr ⟨task, v, ?_, hv', rfl⟩, ?_⟩
    · exact Table.get?_of_mem htask
    · rw [Bool.or_eq_true, decide_eq_true_eq] at hpast
      exact hpast
  · rintro ⟨t, hp, hpast⟩
    obtain ⟨task, v, htask, hv, rfl⟩ := Tables.projection_eq_some.mp hp
    refine ⟨projectionRow task v, ?_, rfl⟩
    rw [Tables.projectionRows, List.mem_insertionSort, List.mem_filter, List.mem_filterMap]
    have hkey : task.taskId = t := Table.key_of_get? htask
    refine ⟨⟨task, Table.mem_of_get? htask, ?_⟩, ?_⟩
    · rw [hkey, hv, Option.map_some]
    · simpa [projectTask] using hpast

/-- The projection of a task in a snapshot is found under its key. -/
lemma find?_tasks {after : ℕ} {full : Bool} {batch : PandaProjectionBatch}
    (h : pandaosProjectionSnapshot R s after full = .ok batch) (t : UUID) :
    batch.tasks.find? (fun p => p.projectionKey = projectionKey t)
      = (s.projection R t).filter fun p => full || after < p.sourceEventId := by
  cases hfind : batch.tasks.find? (fun p => p.projectionKey = projectionKey t) with
  | none =>
      symm
      rw [Option.filter_eq_none_iff]
      intro p hp hpast
      have hmem : p ∈ batch.tasks := (mem_tasks h).mpr ⟨t, hp, by simpa using hpast⟩
      exact List.find?_eq_none.mp hfind p hmem (decide_eq_true (Tables.projection_key hp))
  | some p =>
      have hkey : p.projectionKey = projectionKey t := by simpa using List.find?_some hfind
      obtain ⟨t', hp, hpast⟩ := (mem_tasks h).mp (List.mem_of_find?_eq_some hfind)
      obtain rfl : t' = t := projectionKey_injective ((Tables.projection_key hp).symm.trans hkey)
      symm
      rw [Option.filter_eq_some_iff]
      exact ⟨hp, by simpa using hpast⟩

/-! ### The numbers of the events -/

lemma le_throughEventId {e : EventRow} (he : e ∈ s.agentEvents) : e.eventId ≤ s.throughEventId := by
  rw [Tables.throughEventId]
  cases hmax : (s.agentEvents.map (·.eventId)).max? with
  | none =>
      exact absurd (List.max?_eq_none_iff.mp hmax) (List.ne_nil_of_mem (List.mem_map_of_mem he))
  | some n => exact (List.max?_eq_some_iff.mp hmax).2 _ (List.mem_map_of_mem he)

lemma throughEventId_le {n : ℕ} (h : ∀ e ∈ s.agentEvents, e.eventId ≤ n) :
    s.throughEventId ≤ n := by
  rw [Tables.throughEventId]
  cases hmax : (s.agentEvents.map (·.eventId)).max? with
  | none => exact Nat.zero_le n
  | some m =>
      obtain ⟨e, he, rfl⟩ := List.mem_map.mp (List.max?_eq_some_iff.mp hmax).1
      exact h e he

/-- The number of a task is that of its latest event. -/
lemma sourceEventId_eq_some {v : ℕ} :
    s.sourceEventId s.throughEventId t = some v ↔
      (∃ e ∈ s.agentEvents, e.taskId = t ∧ e.eventId = v) ∧
        ∀ e ∈ s.agentEvents, e.taskId = t → e.eventId ≤ v := by
  have hmem : ∀ n, n ∈ (s.agentEvents.filter fun e =>
      e.taskId = t && e.eventId ≤ s.throughEventId).map (·.eventId) ↔
        ∃ e ∈ s.agentEvents, e.taskId = t ∧ e.eventId = n := by
    intro n
    rw [List.mem_map]
    constructor
    · rintro ⟨e, he, rfl⟩
      obtain ⟨he, ht⟩ := List.mem_filter.mp he
      rw [Bool.and_eq_true, decide_eq_true_eq] at ht
      exact ⟨e, he, ht.1, rfl⟩
    · rintro ⟨e, he, ht, rfl⟩
      refine ⟨e, List.mem_filter.mpr ⟨he, ?_⟩, rfl⟩
      simp [ht, le_throughEventId he]
  rw [Tables.sourceEventId, List.max?_eq_some_iff, hmem]
  refine and_congr_right fun _ => ⟨fun h e he ht => ?_, fun h n hn => ?_⟩
  · exact h _ ((hmem _).mpr ⟨e, he, ht, rfl⟩)
  · obtain ⟨e, he, ht, rfl⟩ := (hmem n).mp hn
    exact h e he ht

/-- The number of a task depends on the events of the task alone. -/
lemma sourceEventId_congr {s' : Tables}
    (h : ∀ e, e.taskId = t → (e ∈ s'.agentEvents ↔ e ∈ s.agentEvents)) :
    s'.sourceEventId s'.throughEventId t = s.sourceEventId s.throughEventId t := by
  refine Option.ext fun v => ?_
  rw [sourceEventId_eq_some, sourceEventId_eq_some]
  constructor
  · rintro ⟨⟨e, he, ht, hv⟩, hle⟩
    exact ⟨⟨e, (h e ht).mp he, ht, hv⟩, fun e he ht => hle e ((h e ht).mpr he) ht⟩
  · rintro ⟨⟨e, he, ht, hv⟩, hle⟩
    exact ⟨⟨e, (h e ht).mpr he, ht, hv⟩, fun e he ht => hle e ((h e ht).mp he) ht⟩

/-- A task with an event has a number, at least that of the event. -/
lemma exists_sourceEventId {e : EventRow} (he : e ∈ s.agentEvents) :
    ∃ v, s.sourceEventId s.throughEventId e.taskId = some v ∧ e.eventId ≤ v := by
  cases hv : s.sourceEventId s.throughEventId e.taskId with
  | some v => exact ⟨v, rfl, (sourceEventId_eq_some.mp hv).2 e he rfl⟩
  | none =>
      rw [Tables.sourceEventId, List.max?_eq_none_iff, List.map_eq_nil_iff,
        List.filter_eq_nil_iff] at hv
      exact absurd (by simp [le_throughEventId he]) (hv e he)

end ControlHarness

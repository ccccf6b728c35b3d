import ControlHarness.Lifecycle.Circuit
import ControlHarness.Store.DeadLetterLog

/-!
What an accepted failure report commits.

`report_failure` writes to five tables and builds its answer beside the writes. For
every reachable state the two agree (`report_resolved`): the report ends in exactly
one of five outcomes, which the failure class, the side effects and the budget of
the task decide, and nothing but the task, its circuit, one card or one letter is
touched.

* `FailureOutcome`: the outcomes, each with the status and the action that the
  answer names and the reports that lead to it (`Called`).
* `Committed`: the writes of an outcome and the fields of the answer about them.
* `Framed`: what every accepted report leaves alone, and that the task is given up.
-/

namespace ControlHarness

open Store

/-- The outcomes of a failure report. -/
inductive FailureOutcome where
  | recoveryRequired | retryWait | failed | awaitingDecision | blocked
  deriving DecidableEq, Repr

namespace FailureOutcome

/-- The status in which the task ends. -/
def status : FailureOutcome → TaskStatus
  | recoveryRequired => .recoveryRequired
  | retryWait => .retryWait
  | failed => .failed
  | awaitingDecision => .awaitingDecision
  | blocked => .blocked

/-- The action that the answer names. -/
def action : FailureOutcome → ResilienceAction
  | recoveryRequired => .recoveryRequired
  | retryWait => .retryScheduled
  | failed => .deadLettered
  | awaitingDecision => .awaitingDecision
  | blocked => .blocked

lemma status_injective : Function.Injective status := by
  intro a b h
  cases a <;> cases b <;> first | rfl | exact absurd h (by decide)

/-- The class is uncertain, or the side effects are unknown. -/
def Unclear (report : FailureReportV1) : Prop :=
  report.failureClass = .uncertainSideEffect ∨ report.sideEffectState = .unknown

lemma unclear_iff {report : FailureReportV1} :
    Unclear report ↔ requiresRecovery report.failureClass report.sideEffectState = true := by
  rw [requiresRecovery, Bool.or_eq_true, decide_eq_true_iff, decide_eq_true_iff, Unclear]

lemma not_unclear {report : FailureReportV1}
    (h : requiresRecovery report.failureClass report.sideEffectState = false) :
    ¬ Unclear report := by
  rw [unclear_iff, h]
  exact Bool.false_ne_true

/-- The reports on the row that lead to the outcome. -/
def Called (report : FailureReportV1) (row : TaskRow) : FailureOutcome → Prop
  | recoveryRequired => Unclear report
  | retryWait =>
      ¬ Unclear report ∧ report.failureClass ∈ retryableFailures ∧
        row.attemptCount < row.card.budget.maxAttempts
  | failed =>
      ¬ Unclear report ∧ (report.failureClass ∈ retryableFailures ∧
        row.card.budget.maxAttempts ≤ row.attemptCount ∨ report.failureClass = .permanent)
  | awaitingDecision => ¬ Unclear report ∧ report.failureClass = .quotaExhausted
  | blocked => ¬ Unclear report ∧ report.failureClass = .policyViolation

end FailureOutcome

/-! ### The writes -/

/-- One open card for the task is new, under the identifier that the answer names. -/
def NewCard (s s' : Tables) (taskId : UUID) (d : ResilienceDecision) : Prop :=
  ∃ card : RecoveryCardRow, d.recoveryId = some card.recoveryId ∧ card.taskId = taskId ∧
    card.status = "open" ∧ s.recoveryCards.get? card.recoveryId = none ∧
    s'.recoveryCards.rows = s.recoveryCards.rows ++ [card]

/-- The cards stay, and the answer names none. -/
def NoCard (s s' : Tables) (d : ResilienceDecision) : Prop :=
  d.recoveryId = none ∧ s'.recoveryCards = s.recoveryCards

/-- One letter for the task is new, under the number that the answer names. -/
def NewLetter (s s' : Tables) (taskId : UUID) (d : ResilienceDecision) : Prop :=
  ∃ letter : DeadLetterRow, d.deadLetterId = some letter.deadLetterId ∧ letter.taskId = taskId ∧
    letter.resolvedAt = none ∧ (∀ l ∈ s.deadLetters, l.deadLetterId ≠ letter.deadLetterId) ∧
    s'.deadLetters = s.deadLetters ++ [letter]

/-- The letters stay, and the answer names none. -/
def NoLetter (s s' : Tables) (d : ResilienceDecision) : Prop :=
  d.deadLetterId = none ∧ s'.deadLetters = s.deadLetters

/-- What the outcome writes, and the fields of the answer about it. -/
def FailureOutcome.Committed (s s' : Tables) (row' : TaskRow) (d : ResilienceDecision) :
    FailureOutcome → Prop
  | recoveryRequired =>
      NewCard s s' row'.taskId d ∧ NoLetter s s' d ∧ d.retryAt = none ∧
        s'.circuitBreakers = s.circuitBreakers
  | retryWait =>
      NoCard s s' d ∧ NoLetter s s' d ∧
        ∃ retryAt, d.retryAt = some retryAt ∧ row'.nextAttemptAt = some retryAt
  | failed => NoCard s s' d ∧ NewLetter s s' row'.taskId d ∧ d.retryAt = none
  | awaitingDecision | blocked =>
      NoCard s s' d ∧ NoLetter s s' d ∧ d.retryAt = none ∧
        s'.circuitBreakers = s.circuitBreakers

/-- **The report ends in the outcome**, in the tables and in the answer alike. -/
structure EndsIn (s s' : Tables) (report : FailureReportV1) (row row' : TaskRow)
    (d : ResilienceDecision) (o : FailureOutcome) : Prop where
  called : o.Called report row
  status : row'.status = o.status
  answer : d.taskStatus = o.status ∧ d.action = o.action ∧
    d.taskId = report.taskId ∧ d.failureClass = report.failureClass
  committed : o.Committed s s' row' d
  circuit : ∀ state, d.circuitState = some state → ∃ key c, row.circuitKey = some key ∧
    s'.circuitBreakers.get? key = some c ∧ c.state = state

/-- **The frame of a report**: the task leaves the execution statuses and gives its
lease up; no other task and no circuit but that of the task changes. -/
structure Framed (s s' : Tables) (report : FailureReportV1) (row row' : TaskRow) : Prop where
  found : s.agentTasks.get? report.taskId = some row
  execution : row.status.IsExecution
  left : s'.agentTasks.get? report.taskId = some row'
  idle : ¬ row'.status.IsExecution
  lease : row'.leaseExpiresAt = none
  tasks : ∀ t, t ≠ report.taskId → s'.agentTasks.get? t = s.agentTasks.get? t
  circuits : ∀ key, row.circuitKey ≠ some key →
    s'.circuitBreakers.get? key = s.circuitBreakers.get? key
  approvals : s'.approvals = s.approvals
  receipts : s'.routingReceipts = s.routingReceipts

/-- The outcome is the only one, as the statuses differ. -/
lemma EndsIn.unique {s s' : Tables} {report : FailureReportV1} {row row' : TaskRow}
    {d : ResilienceDecision} {o o' : FailureOutcome} (h : EndsIn s s' report row row' d o)
    (h' : EndsIn s s' report row row' d o') : o' = o :=
  FailureOutcome.status_injective (h'.status.symm.trans h.status)

section

variable {s s' : Tables} {report : FailureReportV1} {row : TaskRow} {now : Timestamp}

/-- The frame of a report that rewrites its task by a move. -/
lemma framed_of_updateKey (now : Timestamp) {f : TaskRow → TaskRow}
    (hf : ∀ r, (f r).taskId = r.taskId)
    (hrow : s.agentTasks.get? report.taskId = some row) (hadm : Admitted report row)
    (htasks : s'.agentTasks = s.agentTasks.updateKey report.taskId f hf)
    (hidle : ¬ (f row).status.IsExecution) (hlease : (f row).leaseExpiresAt = none)
    (hcircuits : s'.circuitBreakers = s.circuitBreakers ∨
      s'.circuitBreakers = circuitsAfter s now row report.failureClass)
    (happrovals : s'.approvals = s.approvals)
    (hreceipts : s'.routingReceipts = s.routingReceipts) : Framed s s' report row (f row) where
  found := hrow
  execution := hadm.execution
  left := by rw [htasks, Table.get?_updateKey, if_pos rfl, hrow, Option.map_some]
  idle := hidle
  lease := hlease
  tasks := fun t ht => by rw [htasks, Table.get?_updateKey, if_neg ht]
  circuits := by
    intro key hkey
    rcases hcircuits with hsame | hcounted
    · rw [hsame]
    · rw [hcounted, get?_circuitsAfter, if_neg]
      exact fun h => hkey (countedCircuit_eq_some.mp h).1
  approvals := happrovals
  receipts := hreceipts

/-- The frame of a report that moves its task out of execution. -/
lemma framed_of_moved (now : Timestamp) {target : TaskStatus} (hidle : ¬ target.IsExecution)
    (hrow : s.agentTasks.get? report.taskId = some row) (hadm : Admitted report row)
    (htasks : s'.agentTasks
      = s.agentTasks.updateKey report.taskId (movedRow target) (movedRow_taskId _))
    (hcircuits : s'.circuitBreakers = s.circuitBreakers ∨
      s'.circuitBreakers = circuitsAfter s now row report.failureClass)
    (happrovals : s'.approvals = s.approvals)
    (hreceipts : s'.routingReceipts = s.routingReceipts) :
    Framed s s' report row (movedRow target row) :=
  framed_of_updateKey now (movedRow_taskId _) hrow hadm htasks (by rwa [movedRow_status])
    (movedRow_leaseExpiresAt hidle row) hcircuits happrovals hreceipts

/-- The state of the circuit that the answer names. -/
lemma circuit_of_counted {state : CircuitState}
    (hcircuits : s'.circuitBreakers = circuitsAfter s now row report.failureClass)
    (hstate : (circuitAfter s now row report.failureClass).map (·.state) = some state) :
    ∃ key c, row.circuitKey = some key ∧ s'.circuitBreakers.get? key = some c ∧
      c.state = state := by
  obtain ⟨c, hc, rfl⟩ := Option.map_eq_some_iff.mp hstate
  obtain ⟨key, hkey, rfl⟩ := Option.map_eq_some_iff.mp hc
  refine ⟨key, _, (countedCircuit_eq_some.mp hkey).1, ?_, rfl⟩
  rw [hcircuits, get?_circuitsAfter, if_pos hkey]

end

/-- **What one accepted report does.** -/
lemma report_endsIn {db : Db} {report : FailureReportV1} {recoveryId : UUID} {now : Timestamp}
    {reply : Reply}
    (hletters : Serial DeadLetterRow.deadLetterId db.tables.deadLetters db.seq.deadLetterId)
    (hout : store.out ⟨.reportFailure report recoveryId, now⟩ db = .ok reply) :
    ∃ d row row', reply = .decision d ∧
      Framed db.tables (store.next ⟨.reportFailure report recoveryId, now⟩ db).tables report row
        row' ∧
      ∃ o, EndsIn db.tables (store.next ⟨.reportFailure report recoveryId, now⟩ db).tables report
        row row' d o := by
  have heff := store_effect ⟨.reportFailure report recoveryId, now⟩ db
  have hnew : ∀ d letter, store.out ⟨.reportFailure report recoveryId, now⟩ db = .ok (.decision d) →
      (store.next ⟨.reportFailure report recoveryId, now⟩ db).tables.deadLetters
        = db.tables.deadLetters ++ [letter] →
      ∀ l ∈ db.tables.deadLetters, l.deadLetterId ≠ letter.deadLetterId :=
    fun d letter => newLetter_fresh hletters
  rw [hout] at heff hnew
  generalize (store.next ⟨.reportFailure report recoveryId, now⟩ db).tables = s' at heff hnew ⊢
  cases heff with
  | recovery _ _ row e₁ e₂ hrow hadm hrec hfresh =>
      have hkey : row.taskId = report.taskId := Table.key_of_get? hrow
      refine ⟨_, row, movedRow .recoveryRequired row, rfl, ?_, .recoveryRequired, ?_⟩
      · exact framed_of_moved now (by decide) hrow hadm rfl (Or.inl rfl) rfl rfl
      · constructor
        case called => exact FailureOutcome.unclear_iff.mpr hrec
        case status => exact movedRow_status _ row
        case answer => exact ⟨rfl, rfl, hkey, rfl⟩
        case committed =>
          exact ⟨⟨_, rfl, (movedRow_taskId _ row).symm, rfl, hfresh, Table.rows_insert hfresh⟩,
            ⟨rfl, rfl⟩, rfl, rfl⟩
        case circuit => exact fun state hstate => absurd hstate (by simp)
  | retryScheduled _ _ row e₁ e₂ delay hrow hadm hrec hretry hbudget hdelay =>
      have hkey : row.taskId = report.taskId := Table.key_of_get? hrow
      have hclear := FailureOutcome.not_unclear hrec
      refine ⟨_, row, retriedRow (now + seconds delay) report.failureClass row.circuitKey row, rfl,
        ?_, .retryWait, ?_⟩
      · have hidle : ¬ TaskStatus.retryWait.IsExecution := by decide
        exact framed_of_updateKey now (retriedRow_taskId _ _ _) hrow hadm rfl
          (by rwa [retriedRow_status]) (retriedRow_leaseExpiresAt _ _ _ row) (Or.inr rfl) rfl rfl
      · constructor
        case called => exact ⟨hclear, hretry, hbudget⟩
        case status => exact retriedRow_status _ _ _ row
        case answer => exact ⟨rfl, rfl, hkey, rfl⟩
        case committed => exact ⟨⟨rfl, rfl⟩, ⟨rfl, rfl⟩, _, rfl, rfl⟩
        case circuit => exact fun state hstate => circuit_of_counted rfl hstate
  | deadLettered _ _ row e₁ e₂ deadLetterId reason hrow hadm hrec hfinal =>
      have hkey : row.taskId = report.taskId := Table.key_of_get? hrow
      have hclear := FailureOutcome.not_unclear hrec
      refine ⟨_, row, movedRow .failed row, rfl, ?_, .failed, ?_⟩
      · exact framed_of_moved now (by decide) hrow hadm rfl (Or.inr rfl) rfl rfl
      · constructor
        case called =>
          rcases hfinal with ⟨hretry, hspent, -⟩ | ⟨hpermanent, -⟩
          · exact ⟨hclear, Or.inl ⟨hretry, hspent⟩⟩
          · exact ⟨hclear, Or.inr hpermanent⟩
        case status => exact movedRow_status _ row
        case answer => exact ⟨rfl, rfl, hkey, rfl⟩
        case committed =>
          have hfresh := hnew _ (newDeadLetter row report reason deadLetterId now) rfl rfl
          exact ⟨⟨rfl, rfl⟩, ⟨_, rfl, (movedRow_taskId _ row).symm, rfl, hfresh, rfl⟩, rfl⟩
        case circuit => exact fun state hstate => circuit_of_counted rfl hstate
  | stopped _ _ row e₁ action target hrow hadm hrec hstop =>
      have hkey : row.taskId = report.taskId := Table.key_of_get? hrow
      have hclear := FailureOutcome.not_unclear hrec
      -- the two outcomes that only move the task
      rcases hstop with ⟨hcls, rfl, rfl⟩ | ⟨hcls, rfl, rfl⟩
      · refine ⟨_, row, movedRow .awaitingDecision row, rfl, ?_, .awaitingDecision, ?_⟩
        · exact framed_of_moved now (by decide) hrow hadm rfl (Or.inl rfl) rfl rfl
        · exact ⟨⟨hclear, hcls⟩, movedRow_status _ row, ⟨rfl, rfl, hkey, rfl⟩,
            ⟨⟨rfl, rfl⟩, ⟨rfl, rfl⟩, rfl, rfl⟩, fun state hstate => absurd hstate (by simp)⟩
      · refine ⟨_, row, movedRow .blocked row, rfl, ?_, .blocked, ?_⟩
        · exact framed_of_moved now (by decide) hrow hadm rfl (Or.inl rfl) rfl rfl
        · exact ⟨⟨hclear, hcls⟩, movedRow_status _ row, ⟨rfl, rfl, hkey, rfl⟩,
            ⟨⟨rfl, rfl⟩, ⟨rfl, rfl⟩, rfl, rfl⟩, fun state hstate => absurd hstate (by simp)⟩

/-- **The law**: the report ends in exactly one outcome, the same in the tables and
in the answer, within its frame, and it asks for recovery exactly when the class is
uncertain or the side effects are unknown. -/
def Resolves (s s' : Tables) (report : FailureReportV1) (reply : Reply) : Prop :=
  ∃ d row row', reply = .decision d ∧ Framed s s' report row row' ∧
    (∃! o, EndsIn s s' report row row' d o) ∧
    (EndsIn s s' report row row' d .recoveryRequired ↔
      report.failureClass = .uncertainSideEffect ∨ report.sideEffectState = .unknown)

/-- **An accepted failure report commits what it decides**, in every reachable
state. -/
theorem report_resolved (calls : List Call) (report : FailureReportV1) (recoveryId : UUID)
    (now : Timestamp) {reply : Reply}
    (hout : store.out ⟨.reportFailure report recoveryId, now⟩ (store.exec Db.init calls)
      = .ok reply) :
    Resolves (store.exec Db.init calls).tables
      (store.next ⟨.reportFailure report recoveryId, now⟩ (store.exec Db.init calls)).tables
      report reply := by
  obtain ⟨d, row, row', hreply, hframe, o, hends⟩ := report_endsIn (lettersOrdered_exec calls) hout
  refine ⟨d, row, row', hreply, hframe, ⟨o, hends, fun o' ho' => hends.unique ho'⟩, ?_⟩
  constructor
  · exact fun hrec => hrec.called
  · intro hunclear
    have hcalled := hends.called
    cases o with
    | recoveryRequired => exact hends
    | _ => exact absurd hunclear hcalled.1

/-- A claimed task. -/
def claimedRun : List Call :=
  [⟨.createTask sampleCard, 0⟩, ⟨.claim sampleCard.taskId "hermes_local" "worker-a" 30, 0⟩]

/-- The first attempt times out. -/
theorem report_resolved_retry :
    Resolves (store.exec Db.init claimedRun).tables
      (store.next ⟨.reportFailure sampleReport ⟨9⟩, minutes 1⟩
        (store.exec Db.init claimedRun)).tables
      sampleReport
      (.decision
        { taskId := sampleCard.taskId, failureClass := .transient, action := .retryScheduled,
          taskStatus := .retryWait, retryAt := some (minutes 1 + seconds 30),
          circuitState := some .closed }) :=
  report_resolved claimedRun sampleReport ⟨9⟩ (minutes 1) rfl

end ControlHarness

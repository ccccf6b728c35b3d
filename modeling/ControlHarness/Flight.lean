import ControlHarness.General.Overlay
import ControlHarness.Lifecycle.Outcome
import ControlHarness.Store.Acceptance
import ControlHarness.Store.Ledger

/-!
Transactions in flight.

A transaction runs on the tables that were committed when it began and holds locks on
the rows it wrote; it inserts its events one at a time, each under the next number of
the sequence, and everything it wrote becomes visible at its commit.

Two operations write the row of a circuit when their first event is inserted already: a
failure report that counts against the circuit of its task, and a receipt that closes
it. Tasks of one route share the row, so these transactions begin side by side, insert
their first events, and wait for each other at the circuit. A transaction that goes on
reads the circuit as it is committed by then, and its task as it was, since it holds the
lock on it.

* `Op.circuit`: the circuit that an operation writes.
* `Flight`: a transaction in flight, `Flight.pass` its way past the circuit.
* `circuit_next`: what a call that writes a circuit does.
-/

namespace ControlHarness

open Store

/-! ### The circuit of an operation -/

/-- The circuit that the operation writes, with its task. -/
def Op.circuit (s : Tables) : Op → Option (UUID × String)
  | .reportFailure report _ =>
      ((s.agentTasks.get? report.taskId).filter fun task => decide (Admitted report task ∧
        requiresRecovery report.failureClass report.sideEffectState = false)).bind fun task =>
          (countedCircuit task report.failureClass).map (report.taskId, ·)
  | .submitReceipt receipt =>
      ((s.agentTasks.get? receipt.taskId).filter fun task => decide
        (task.ownerInstance = some receipt.workerInstance ∧
          task.status.IsExecution)).bind fun task =>
            (closedKey task (receiptTarget task receipt.outcome)).map (receipt.taskId, ·)
  | _ => none

/-- The number of events of an operation that writes a circuit: a receipt tells of the
circuit only where it has a row. -/
def Op.eventCount (present : Bool) : Op → ℕ
  | .submitReceipt _ => if present then 2 else 1
  | _ => 2

lemma Op.eventCount_mono {op : Op} {p q : Bool} (h : p = true → q = true) :
    op.eventCount p ≤ op.eventCount q := by
  cases op with
  | submitReceipt receipt =>
      cases p with
      | true => rw [h rfl]
      | false =>
          rw [Op.eventCount, Op.eventCount, if_neg Bool.false_ne_true]
          split <;> omega
  | _ => exact le_rfl

section

variable {s s' : Tables} {t : UUID} {key : String}

lemma circuit_reportFailure {report : FailureReportV1} {recoveryId : UUID}
    (h : (Op.reportFailure report recoveryId).circuit s = some (t, key)) :
    t = report.taskId ∧ ∃ task, s.agentTasks.get? report.taskId = some task ∧
      Admitted report task ∧
      requiresRecovery report.failureClass report.sideEffectState = false ∧
      countedCircuit task report.failureClass = some key := by
  obtain ⟨task, htask, hkey⟩ := Option.bind_eq_some_iff.mp h
  obtain ⟨hrow, hadm⟩ := Option.filter_eq_some_iff.mp htask
  obtain ⟨key', hkey', hpair⟩ := Option.map_eq_some_iff.mp hkey
  obtain ⟨rfl, rfl⟩ := Prod.mk.inj hpair
  obtain ⟨hadm, hrec⟩ := of_decide_eq_true hadm
  exact ⟨rfl, task, hrow, hadm, hrec, hkey'⟩

lemma circuit_submitReceipt {receipt : ResultReceiptV1}
    (h : (Op.submitReceipt receipt).circuit s = some (t, key)) :
    t = receipt.taskId ∧ ∃ task, s.agentTasks.get? receipt.taskId = some task ∧
      task.ownerInstance = some receipt.workerInstance ∧ task.status.IsExecution ∧
      closedKey task (receiptTarget task receipt.outcome) = some key := by
  obtain ⟨task, htask, hkey⟩ := Option.bind_eq_some_iff.mp h
  obtain ⟨hrow, howner⟩ := Option.filter_eq_some_iff.mp htask
  obtain ⟨key', hkey', hpair⟩ := Option.map_eq_some_iff.mp hkey
  obtain ⟨rfl, rfl⟩ := Prod.mk.inj hpair
  obtain ⟨howner, hexec⟩ := of_decide_eq_true howner
  exact ⟨rfl, task, hrow, howner, hexec, hkey'⟩

/-- The circuit depends on the row of the task only. -/
lemma circuit_congr {op : Op} (h : op.circuit s = some (t, key))
    (hrow : s'.agentTasks.get? t = s.agentTasks.get? t) : op.circuit s' = some (t, key) := by
  cases op with
  | reportFailure report recoveryId =>
      obtain ⟨rfl, -⟩ := circuit_reportFailure h
      rw [Op.circuit, hrow]
      exact h
  | submitReceipt receipt =>
      obtain ⟨rfl, -⟩ := circuit_submitReceipt h
      rw [Op.circuit, hrow]
      exact h
  | createTask | claim | heartbeat | expireLeases | releaseDueRetries | requestApproval
  | decideApproval | transition => exact absurd h (by simp [Op.circuit])

end

/-- What a call that writes a circuit does to a task: it moves the task, writes no row of
another one, and inserts so many events, all of this task. -/
structure WritesCircuit (s s' : Tables) (t : UUID) (count : ℕ) : Prop where
  events : ∃ evs, s'.agentEvents = s.agentEvents ++ evs ∧ evs.length = count ∧
    ∀ e ∈ evs, e.taskId = t
  moved : ∃ row row', s.agentTasks.get? t = some row ∧ s'.agentTasks.get? t = some row' ∧
    row' ≠ row
  others : ∀ u, u ≠ t → s'.agentTasks.get? u = s.agentTasks.get? u

/-- An update of a task in execution that ends the execution. -/
lemma WritesCircuit.of_update {s s' : Tables} {t : UUID} {row : TaskRow}
    {f : TaskRow → TaskRow} (hf : ∀ r, (f r).taskId = r.taskId) (es : List HarnessEvent)
    {evs : List EventRow} (hrow : s.agentTasks.get? t = some row) (hexec : row.status.IsExecution)
    (hend : ¬ (f row).status.IsExecution)
    (htasks : s'.agentTasks = s.agentTasks.updateKey t f hf)
    (hevents : s'.agentEvents = s.agentEvents ++ evs) (hlog : logOf evs = es.map (t, ·)) :
    WritesCircuit s s' t es.length := by
  constructor
  · refine ⟨evs, hevents, ?_, fun e he => ?_⟩
    · have hlength := congrArg List.length hlog
      rwa [logOf, List.length_map, List.length_map] at hlength
    · have hmem : (e.taskId, e.event) ∈ es.map (t, ·) :=
        hlog ▸ List.mem_map.mpr ⟨e, he, rfl⟩
      obtain ⟨_, -, heq⟩ := List.mem_map.mp hmem
      exact (Prod.mk.inj heq).1.symm
  · refine ⟨row, f row, hrow, ?_, fun hsame => hend (hsame.symm ▸ hexec)⟩
    rw [htasks, Table.get?_updateKey, if_pos rfl, hrow, Option.map_some]
  · intro u hu
    rw [htasks, Table.get?_updateKey, if_neg hu]

/-- **What a call that writes a circuit does.** -/
theorem circuit_next {call : Call} {db : Db} {t : UUID} {key : String}
    (h : call.op.circuit db.tables = some (t, key)) :
    WritesCircuit db.tables (store.next call db).tables t
      (call.op.eventCount (db.tables.circuitBreakers.get? key).isSome) := by
  obtain ⟨op, now⟩ := call
  cases op with
  | reportFailure report recoveryId =>
      obtain ⟨rfl, task, hrow, hadm, hrec, hkey⟩ := circuit_reportFailure h
      have hid : task.taskId = report.taskId := Table.key_of_get? hrow
      have hlog : ∀ e₁ e₂ e, logOf [logged now e₁ task (classified task report),
          logged now e₂ task e] = [classified task report, e].map (report.taskId, ·) := by
        intro e₁ e₂ e
        rw [← hid]
        rfl
      obtain ⟨d, hout⟩ := reportFailure_accepted recoveryId now hrow hadm hrec
      have heff := effect_of_out rfl hout
      generalize (store.next ⟨.reportFailure report recoveryId, now⟩ db).tables = s' at heff ⊢
      cases heff with
      | recovery _ _ _ _ _ _ _ hrec' => exact absurd (hrec.symm.trans hrec') (by simp)
      | retryScheduled _ _ row e₁ e₂ delay hr =>
          obtain rfl := Option.some.inj (hrow.symm.trans hr)
          exact .of_update (retriedRow_taskId _ _ _) _ hrow hadm.execution
            (by rw [retriedRow_status]; decide) rfl rfl (hlog _ _ _)
      | deadLettered _ _ row e₁ e₂ letterId _ hr =>
          obtain rfl := Option.some.inj (hrow.symm.trans hr)
          exact .of_update (movedRow_taskId .failed) _ hrow hadm.execution
            (by rw [movedRow_status]; decide) rfl rfl (hlog _ _ _)
      | stopped _ _ _ _ _ _ _ _ _ hstop =>
          -- neither class counts against a circuit
          have hcls : report.failureClass ∈ circuitFailures := by
            rw [countedCircuit, Option.filter_eq_some_iff] at hkey
            exact (of_decide_eq_true hkey.2).2
          rcases hstop with ⟨hcls', -⟩ | ⟨hcls', -⟩ <;> rw [hcls'] at hcls <;>
            exact absurd hcls (by decide)
  | submitReceipt receipt =>
      obtain ⟨rfl, task, hrow, howner, hexec, hkey⟩ := circuit_submitReceipt h
      have hid : task.taskId = receipt.taskId := Table.key_of_get? hrow
      obtain ⟨row, hout⟩ := submitReceipt_accepted now hrow howner hexec
      have heff := effect_of_out rfl hout
      generalize (store.next ⟨.submitReceipt receipt, now⟩ db).tables = s' at heff ⊢
      cases heff with
      | receiptAccepted _ task' receiptId evs hr _ _ hlog =>
          obtain rfl := Option.some.inj (hrow.symm.trans hr)
          have hcount : (Op.submitReceipt receipt).eventCount
              (db.tables.circuitBreakers.get? key).isSome
                = (accepted task receipt ::
                  closingEvents db.tables task (receiptTarget task receipt.outcome)).length := by
            rw [List.length_cons, closingEvents, hkey, Option.filter_some, Op.eventCount]
            split <;> rfl
          rw [hcount]
          exact .of_update (movedRow_taskId _) _ hrow hexec
            (by rw [movedRow_status]; exact not_isExecution_receiptTarget task receipt.outcome)
            rfl rfl (hid ▸ hlog)
  | createTask | claim | heartbeat | expireLeases | releaseDueRetries | requestApproval
  | decideApproval | transition => exact absurd h (by simp [Op.circuit])

/-! ### Transactions in flight -/

/-- A transaction in flight: its call and the numbers it began with, the committed tables it
ran on, the tables it leaves, and its events, inserted and still to insert. It waits until it
is past the circuit that it writes. -/
structure Flight where
  call : Call
  seq : Sequences
  base : Tables
  result : Tables
  inserted : List EventRow
  pending : List EventRow
  waiting : Bool

namespace Flight

/-- The transaction of a call that begins on the committed tables. -/
def start (call : Call) (db : Db) : Flight where
  call := call
  seq := db.seq
  base := db.tables
  result := (store.next call db).tables
  inserted := []
  pending := (store.next call db).tables.agentEvents.drop db.tables.agentEvents.length
  waiting := (call.op.circuit db.tables).isSome

/-- The transaction goes on past the circuit: it reads and writes the row as it is committed,
and has its further events to insert. -/
def pass (f : Flight) (s : Tables) : Flight :=
  let result := (store.next f.call ⟨s, f.seq⟩).tables
  { f with
    base := s
    result
    pending := (result.agentEvents.drop s.agentEvents.length).drop f.inserted.length
    waiting := false }

/-- The rows of `agent_tasks` that the transaction wrote. -/
def tasks (f : Flight) : Table TaskRow.taskId := f.result.agentTasks.changed f.base.agentTasks

/-- The rows of `approvals` that it wrote. -/
def approvals (f : Flight) : Table ApprovalRow.approvalId :=
  f.result.approvals.changed f.base.approvals

/-- The rows of `circuit_breakers` that it wrote, none while it waits. -/
def circuits (f : Flight) : Table CircuitRow.circuitKey :=
  if f.waiting then Table.empty else f.result.circuitBreakers.changed f.base.circuitBreakers

/-- The rows of `recovery_cards` that it wrote. -/
def recoveryCards (f : Flight) : Table RecoveryCardRow.recoveryId :=
  f.result.recoveryCards.changed f.base.recoveryCards

/-- The events of the transaction. -/
def events (f : Flight) : List EventRow := f.inserted ++ f.pending

/-- The two transactions hold no lock that the other waits for: they write
different rows, and no two new tasks under one idempotency key. -/
def Compatible (f g : Flight) : Prop :=
  f.tasks.Disjoint g.tasks ∧ f.approvals.Disjoint g.approvals ∧ f.circuits.Disjoint g.circuits ∧
    f.recoveryCards.Disjoint g.recoveryCards ∧
    ∀ r ∈ f.tasks.rows, ∀ q ∈ g.tasks.rows, r.idempotencyKey ≠ q.idempotencyKey

instance (f g : Flight) : Decidable (f.Compatible g) :=
  inferInstanceAs (Decidable (_ ∧ _ ∧ _ ∧ _ ∧ _))

/-- The next statement of the transaction is the write of its circuit. -/
def AtCircuit (f : Flight) : Prop := f.waiting = true ∧ f.inserted ≠ []

instance (f : Flight) : Decidable f.AtCircuit := inferInstanceAs (Decidable (_ ∧ _))

/-- Insert the next event under the number. -/
def draw (f : Flight) (eventId : ℕ) : Flight :=
  match f.pending with
  | [] => f
  | e :: rest => { f with inserted := f.inserted ++ [{ e with eventId }], pending := rest }

/-- The committed tables after the commit of the transaction. -/
def commit (f : Flight) (s : Tables) : Tables where
  agentTasks := s.agentTasks.overlay f.tasks
  agentEvents := s.agentEvents ++ f.inserted
  approvals := s.approvals.overlay f.approvals
  routingReceipts :=
    s.routingReceipts ++ f.result.routingReceipts.drop f.base.routingReceipts.length
  circuitBreakers := s.circuitBreakers.overlay f.circuits
  deadLetters := s.deadLetters ++ f.result.deadLetters.drop f.base.deadLetters.length
  recoveryCards := s.recoveryCards.overlay f.recoveryCards

/-- The transaction has drawn the last of its numbers for the task, and the
cutoff is not below it. A receipt that waits has drawn the last of them where no row of its
circuit is committed. -/
def Overtaken (f : Flight) (through : ℕ) (t : UUID) : Prop :=
  (∃ e ∈ f.events, e.taskId = t) ∧ (∀ e ∈ f.pending, e.taskId ≠ t) ∧
    ∀ e ∈ f.inserted, e.taskId = t → e.eventId ≤ through

end Flight

end ControlHarness

import ControlHarness.Store.Acceptance

/-!
What a failed call leaves behind.

A call fails when its operation raises, or when it is a claim that returns
`None`. Whatever the operation wrote before is rolled back, so the tables are as
they were. The two exceptions commit before they raise: a heartbeat that is
refused for a task that exists and a receipt of a worker that is not the owner
leave one event each (`failed_leaves_tables`).

* `Fails`: the call fails.
* `Op.rejection`: the event that a refused message leaves, with its task.
* `Tables.withEvent`: the tables with one event more.
-/

namespace ControlHarness

open Store

/-- The operation raises, or is a claim that returns `None`. -/
def Fails (call : Call) (db : Db) : Prop :=
  (∃ e, store.out call db = .error e) ∨ store.out call db = .ok (.claimed none)

/-- The event that a refused heartbeat of an existing task, or the receipt of a
worker that is not the owner, leaves in the log. -/
def Op.rejection (s : Tables) : Op → Option (TaskRow × HarnessEvent)
  | .heartbeat taskId worker mins =>
      if IntervalMins mins then
        (s.agentTasks.get? taskId).map fun task => (task, .heartbeatRejected worker)
      else none
  | .submitReceipt receipt =>
      ((s.agentTasks.get? receipt.taskId).filter fun task =>
          task.ownerInstance ≠ some receipt.workerInstance).map fun task =>
        (task, .receiptRejected "not lease owner" receipt.workerInstance)
  | _ => none

/-- The tables with one event more. -/
def Tables.withEvent (s : Tables) (e : EventRow) : Tables :=
  { s with agentEvents := s.agentEvents ++ [e] }

namespace Store

/-- A call whose program raised leaves what was committed before. -/
lemma tables_of_error {call : Call} {db : Db} {e : Raised} {c' : StoreConn}
    (hrun : call.op.program ⟨db.tables, db.tables, db.seq, call.now⟩ = (.error e, c')) :
    (store.next call db).tables = c'.committed := by
  have hconnect := Tx.connect_error hrun
  exact congrArg (fun r => r.2.tables) hconnect

variable {db : Db} {now : Timestamp}

/-- A heartbeat whose interval the database cannot make leaves nothing. -/
lemma heartbeat_interval_tables {taskId : UUID} {worker : String} {mins : ℤ}
    (h : ¬ IntervalMins mins) :
    (store.next ⟨.heartbeat taskId worker mins, now⟩ db).tables = db.tables := by
  have hrun : heartbeat taskId worker mins ⟨db.tables, db.tables, db.seq, now⟩
      = (.error (.database "function make_interval(mins => bigint) does not exist"),
        ⟨db.tables, db.tables, db.seq, now⟩) := by
    rw [heartbeat, Tx.bind_ok (Tx.now_apply _), Tx.bind_error (makeIntervalMins_error h)]
  exact (tables_of_error (Tx.bind_error hrun)).trans rfl

/-- A heartbeat that is refused for a task that exists leaves one event. -/
lemma heartbeat_rejected {taskId : UUID} {worker : String} {mins : ℤ} {task : TaskRow}
    (hmins : IntervalMins mins) (hrow : db.tables.agentTasks.get? taskId = some task)
    (hrej : renewable worker now task = false) :
    ∃ eventId, (store.next ⟨.heartbeat taskId worker mins, now⟩ db).tables
      = db.tables.withEvent (logged now eventId task (.heartbeatRejected worker)) := by
  set c : StoreConn := ⟨db.tables, db.tables, db.seq, now⟩
  rcases updateTask_apply (c := c) taskId (fun _ r => renewable worker now r)
      (renewedRow (minutes mins) now) (renewedRow_taskId _ now) with
    ⟨r, hr, hp, -⟩ | ⟨-, hupd⟩
  · obtain rfl : task = r := Option.some.inj (hrow.symm.trans hr)
    exact absurd (hrej.symm.trans hp) (by simp)
  · have hrow' : c.tables.agentTasks.get? taskId = some task := hrow
    obtain ⟨c', hrun, hcommit⟩ : ∃ c', heartbeat taskId worker mins c
        = (.error (.ownership "heartbeat without valid ownership rejected"), c') ∧
          c'.committed = db.tables.withEvent
            (eventRow c task.taskId task.correlationId (.heartbeatRejected worker)) := by
      rw [heartbeat, Tx.bind_ok (Tx.now_apply c), Tx.bind_ok (makeIntervalMins_ok hmins),
        Tx.bind_ok hupd]
      dsimp only
      rw [Tx.bind_ok (selectTask_apply _), hrow']
      dsimp only
      rw [Tx.bind_ok (event_apply _ _ _)]
      exact ⟨_, rfl, rfl⟩
    exact ⟨_, (tables_of_error (Tx.bind_error hrun)).trans hcommit⟩

/-- A receipt of a worker that is not the owner leaves one event. -/
lemma receipt_rejected {receipt : ResultReceiptV1} {task : TaskRow}
    (hrow : db.tables.agentTasks.get? receipt.taskId = some task)
    (hown : task.ownerInstance ≠ some receipt.workerInstance) :
    ∃ eventId, (store.next ⟨.submitReceipt receipt, now⟩ db).tables
      = db.tables.withEvent (logged now eventId task
        (.receiptRejected "not lease owner" receipt.workerInstance)) := by
  set c : StoreConn := ⟨db.tables, db.tables, db.seq, now⟩
  have hrow' : c.tables.agentTasks.get? receipt.taskId = some task := hrow
  obtain ⟨c', hrun, hcommit⟩ : ∃ c', submitReceipt receipt c
      = (.error (.ownership "receipt from non-owner worker rejected"), c') ∧
        c'.committed = db.tables.withEvent (eventRow c task.taskId task.correlationId
          (.receiptRejected "not lease owner" receipt.workerInstance)) := by
    rw [submitReceipt, Tx.bind_ok (selectTask_apply _), hrow']
    dsimp only
    rw [if_pos hown, rejectReceipt, Tx.bind_ok (event_apply _ _ _)]
    exact ⟨_, rfl, rfl⟩
  exact ⟨_, (tables_of_error (Tx.bind_error hrun)).trans hcommit⟩

end Store

/-- The effects of a call that fails. -/
lemma Effect.of_fails {now : Timestamp} {s s' : Tables} {op : Op} {r : Except Raised Reply}
    (h : Effect now s op r s') (hfail : (∃ e, r = .error e) ∨ r = .ok (.claimed none)) :
    s' = s ∨
      (∃ t worker mins task, op = .heartbeat t worker mins ∧
        s.agentTasks.get? t = some task ∧ renewable worker now task = false) ∨
      ∃ receipt task, op = .submitReceipt receipt ∧
        s.agentTasks.get? receipt.taskId = some task ∧
        task.ownerInstance ≠ some receipt.workerInstance := by
  cases h with
  | failed | notClaimed => exact Or.inl rfl
  | heartbeatRejected t worker mins task eventId hrow hrej =>
      exact Or.inr (Or.inl ⟨t, worker, mins, task, rfl, hrow, hrej⟩)
  | receiptRejected receipt task eventId hrow hown =>
      exact Or.inr (Or.inr ⟨receipt, task, rfl, hrow, hown⟩)
  | _ =>
      rcases hfail with ⟨e, he⟩ | hnone
      · exact absurd he (by simp)
      · exact absurd hnone (by simp)

/-- A call that fails without a rejection leaves the tables alone. -/
lemma failed_unchanged {call : Call} {db : Db} (hfail : Fails call db)
    (hnone : call.op.rejection db.tables = none) : (store.next call db).tables = db.tables := by
  obtain ⟨op, now⟩ := call
  rcases (store_effect ⟨op, now⟩ db).of_fails hfail with
    hsame | ⟨t, worker, mins, task, hop, hrow, -⟩ | ⟨receipt, task, hop, hrow, hown⟩
  · exact hsame
  · obtain rfl : op = .heartbeat t worker mins := hop
    have hmins : ¬ IntervalMins mins := by
      intro hmins
      rw [Op.rejection, if_pos hmins, hrow] at hnone
      exact absurd hnone (by simp)
    exact heartbeat_interval_tables hmins
  · obtain rfl : op = .submitReceipt receipt := hop
    rw [Op.rejection, hrow, Option.filter_some, if_pos (decide_eq_true hown)] at hnone
    exact absurd hnone (by simp)

/-- **Failed calls leave the tables untouched**: whatever a call wrote before it
raised or returned `None` is gone, but for the one event of a refused heartbeat
or of a receipt from another worker. -/
theorem failed_leaves_tables (call : Call) (db : Db) (hfail : Fails call db) :
    (call.op.rejection db.tables = none → (store.next call db).tables = db.tables) ∧
      ∀ task e, call.op.rejection db.tables = some (task, e) →
        ∃ eventId, (store.next call db).tables
          = db.tables.withEvent (logged call.now eventId task e) := by
  refine ⟨failed_unchanged hfail, fun task e hsome => ?_⟩
  obtain ⟨op, now⟩ := call
  cases op with
  | heartbeat taskId worker mins =>
      dsimp only [Op.rejection] at hsome
      split at hsome
      · rename_i hmins
        obtain ⟨row, hrow, hpair⟩ := Option.map_eq_some_iff.mp hsome
        obtain ⟨rfl, rfl⟩ := Prod.mk.inj hpair
        refine heartbeat_rejected hmins hrow ?_
        by_contra hrenew
        have hout := heartbeat_accepted now hmins hrow (Bool.eq_true_of_not_eq_false hrenew)
        rcases hfail with ⟨e, he⟩ | hclaimed
        · exact absurd (he.symm.trans hout) (by simp)
        · exact absurd (hclaimed.symm.trans hout) (by simp)
      · exact absurd hsome (by simp)
  | submitReceipt receipt =>
      obtain ⟨row, hrow, hpair⟩ := Option.map_eq_some_iff.mp hsome
      obtain ⟨rfl, rfl⟩ := Prod.mk.inj hpair
      obtain ⟨hget, hown⟩ := Option.filter_eq_some_iff.mp hrow
      exact receipt_rejected hget (of_decide_eq_true hown)
  | _ => exact absurd hsome (by simp [Op.rejection])

/-- A claimed task. -/
def claimedDb : Db :=
  store.exec Db.init
    [⟨.createTask sampleCard, 0⟩, ⟨.claim sampleCard.taskId "hermes_local" "worker-a" 30, 0⟩]

/-- A report that names another circuit raises after its first event was written,
and leaves nothing. -/
theorem failed_leaves_tables_circuit :
    (store.next ⟨.reportFailure { sampleReport with
        circuitKey := some "route:other", circuitKey_pattern := by decide } ⟨9⟩, 0⟩
      claimedDb).tables = claimedDb.tables :=
  (failed_leaves_tables ⟨.reportFailure { sampleReport with
      circuitKey := some "route:other", circuitKey_pattern := by decide } ⟨9⟩, 0⟩ claimedDb
    (Or.inl ⟨_, rfl⟩)).1 rfl

end ControlHarness

import ControlHarness.General.Serial
import ControlHarness.Store.StepSpec

/-!
The order of the dead letters.

The dead letters take their numbers from one sequence, so along every run of the
store the rows of `dead_letters` stand in the order of their numbers
(`lettersOrdered_exec`), and the number of a new letter is that of no other
(`newLetter_fresh`). Only an accepted failure report appends a row, under the next
number (`reportFailure_filed`).
-/

namespace ControlHarness

open Store

/-- A connection does not take numbers of dead letters back. -/
def KeepsLetters (c c' : StoreConn) : Prop := c.seq.deadLetterId ≤ c'.seq.deadLetterId

instance : StoreRel KeepsLetters where
  refl _ := le_refl _
  trans _ _ _ h h' := le_trans h h'
  write _ _ _ := le_refl _
  event c taskId correlationId e := by
    rw [event_apply]
    exact le_refl c.seq.deadLetterId
  drawReceipt c := le_refl c.seq.deadLetterId
  drawDeadLetter c := Nat.le_succ c.seq.deadLetterId

/-- The letters stay, or one is appended under the next number. -/
def LetterFiled (c c' : StoreConn) : Prop :=
  c'.tables.deadLetters = c.tables.deadLetters ∨
    ∃ letter : DeadLetterRow, letter.deadLetterId = c.seq.deadLetterId + 1 ∧
      c'.tables.deadLetters = c.tables.deadLetters ++ [letter] ∧
      c.seq.deadLetterId + 1 ≤ c'.seq.deadLetterId

/-- A task moves, and its letter is filed. -/
lemma letterFiled_of_record {c c₁ c' : StoreConn} {task : TaskRow} {report : FailureReportV1}
    {reason : String} {target : TaskStatus} {id : ℕ}
    (hset : setStatus task.taskId task.status target c = (.ok (), c₁))
    (hrecord : recordDeadLetter task report reason c₁ = (.ok id, c')) : LetterFiled c c' := by
  obtain ⟨-, -, rfl⟩ := setStatus_eq_ok.mp hset
  rw [recordDeadLetter_apply] at hrecord
  obtain ⟨-, rfl⟩ := Prod.mk.inj hrecord
  exact Or.inr ⟨_, rfl, rfl, le_refl _⟩

lemma letterFiled_of_setStatus {c c' : StoreConn} {taskId : UUID} {expected target : TaskStatus}
    (hset : setStatus taskId expected target c = (.ok (), c')) : LetterFiled c c' := by
  obtain ⟨-, -, rfl⟩ := setStatus_eq_ok.mp hset
  exact Or.inl rfl

lemma retryOrDeadLetter_filed {c c' : StoreConn} {task : TaskRow} {report : FailureReportV1}
    {circuit : Option CircuitRow} {d : ResilienceDecision}
    (hrun : retryOrDeadLetter task report circuit c = (.ok d, c')) : LetterFiled c c' := by
  rw [retryOrDeadLetter, Tx.bind_ok (Tx.now_apply _)] at hrun
  split at hrun
  · obtain ⟨_, c₁, hset, hrun⟩ := Tx.bind_eq_ok.mp hrun
    obtain ⟨-, -, rfl⟩ := setStatus_eq_ok.mp hset
    obtain ⟨_, c₂, hupdate, hrun⟩ := Tx.bind_eq_ok.mp hrun
    rw [Tx.bind_ok (event_apply _ _ _)] at hrun
    obtain ⟨-, rfl⟩ := Prod.mk.inj hrun
    rw [updateTask, Tx.bind_ok (Tx.read_apply _ _), Tx.bind_ok (Tx.write_apply _ _)] at hupdate
    obtain ⟨-, rfl⟩ := Prod.mk.inj hupdate
    exact Or.inl rfl
  · obtain ⟨_, c₁, hset, hrun⟩ := Tx.bind_eq_ok.mp hrun
    obtain ⟨_, c₂, hrecord, hrun⟩ := Tx.bind_eq_ok.mp hrun
    obtain ⟨-, rfl⟩ := Prod.mk.inj hrun
    exact letterFiled_of_record hset hrecord

lemma handleFailure_filed {c c' : StoreConn} {task : TaskRow} {report : FailureReportV1}
    {d : ResilienceDecision} (hrun : handleFailure task report c = (.ok d, c')) :
    LetterFiled c c' := by
  rw [handleFailure, Tx.bind_ok (countFailure_apply task report)] at hrun
  -- the counted circuit is no letter
  suffices hfiled : LetterFiled { c with tables := { c.tables with
      circuitBreakers := circuitsAfter c.tables c.now task report.failureClass } } c' from hfiled
  split at hrun
  · exact retryOrDeadLetter_filed hrun
  split at hrun
  · obtain ⟨_, c₁, hset, hrun⟩ := Tx.bind_eq_ok.mp hrun
    obtain ⟨-, rfl⟩ := Prod.mk.inj hrun
    exact letterFiled_of_setStatus hset
  split at hrun
  · obtain ⟨_, c₁, hset, hrun⟩ := Tx.bind_eq_ok.mp hrun
    obtain ⟨-, rfl⟩ := Prod.mk.inj hrun
    exact letterFiled_of_setStatus hset
  · obtain ⟨_, c₁, hset, hrun⟩ := Tx.bind_eq_ok.mp hrun
    obtain ⟨_, c₂, hrecord, hrun⟩ := Tx.bind_eq_ok.mp hrun
    obtain ⟨-, rfl⟩ := Prod.mk.inj hrun
    exact letterFiled_of_record hset hrecord

/-- An accepted failure report appends a letter under the next number, if any. -/
lemma reportFailure_filed {c c' : StoreConn} {report : FailureReportV1} {recoveryId : UUID}
    {d : ResilienceDecision} (hrun : reportFailure report recoveryId c = (.ok d, c')) :
    LetterFiled c c' := by
  rw [reportFailure, Tx.bind_ok (selectTask_apply _)] at hrun
  cases htask : c.tables.agentTasks.get? report.taskId with
  | none =>
      rw [htask] at hrun
      simp at hrun
  | some task =>
      rw [htask] at hrun
      dsimp only at hrun
      -- the four checks raise
      iterate 3
        split at hrun
        · simp at hrun
      rw [Tx.bind_ok (event_apply _ _ _)] at hrun
      suffices hfiled : LetterFiled (afterClassified c task report) c' from hfiled
      split at hrun
      · simp at hrun
      split at hrun
      · obtain ⟨_, c₁, hset, hrun⟩ := Tx.bind_eq_ok.mp hrun
        obtain ⟨-, -, rfl⟩ := setStatus_eq_ok.mp hset
        obtain ⟨_, c₂, hcard, hrun⟩ := Tx.bind_eq_ok.mp hrun
        obtain ⟨-, -, rfl⟩ := createRecoveryCard_eq_ok.mp hcard
        obtain ⟨-, rfl⟩ := Prod.mk.inj hrun
        exact Or.inl rfl
      · exact handleFailure_filed hrun

/-- An operation other than an accepted failure report leaves the letters alone. -/
lemma deadLetters_of_effect {now : Timestamp} {s s' : Tables} {op : Op}
    {reply : Except Raised Reply} (h : Effect now s op reply s') :
    s'.deadLetters = s.deadLetters ∨
      ∃ report id d, op = .reportFailure report id ∧ reply = .ok (.decision d) := by
  cases h with
  | deadLettered report id => exact Or.inr ⟨report, id, _, rfl, rfl⟩
  | _ => exact Or.inl rfl

/-- The letters after an accepted failure report. -/
lemma letterFiled_next {db : Db} {report : FailureReportV1} {id : UUID} {now : Timestamp}
    {d : ResilienceDecision} (hout : store.out ⟨.reportFailure report id, now⟩ db
      = .ok (.decision d)) :
    LetterFiled ⟨db.tables, db.tables, db.seq, now⟩
      ⟨(store.next ⟨.reportFailure report id, now⟩ db).tables, db.tables,
        (store.next ⟨.reportFailure report id, now⟩ db).seq, now⟩ := by
  obtain ⟨c', hrun, hnext⟩ : ∃ c', (Op.reportFailure report id).program
      ⟨db.tables, db.tables, db.seq, now⟩ = (.ok (.decision d), c') ∧
      (⟨c'.tables, c'.seq⟩ : Db) = store.next ⟨.reportFailure report id, now⟩ db :=
    Tx.connect_eq_ok.mp (Prod.ext hout rfl)
  obtain ⟨_, c₁, hreport, hret⟩ := Tx.bind_eq_ok.mp hrun
  obtain ⟨-, rfl⟩ := Prod.mk.inj hret
  rw [← hnext]
  have hfiled := reportFailure_filed hreport
  exact hfiled

/-- Every call keeps the order of the letters. -/
lemma lettersOrdered_next {db : Db}
    (h : Serial DeadLetterRow.deadLetterId db.tables.deadLetters db.seq.deadLetterId)
    (call : Call) :
    Serial DeadLetterRow.deadLetterId (store.next call db).tables.deadLetters
      (store.next call db).seq.deadLetterId := by
  obtain ⟨op, now⟩ := call
  have hcommit : Tx.Within KeepsLetters (Tx.commit : StoreTx Unit) := fun _ => le_refl _
  have hdrawn : db.seq.deadLetterId ≤ (store.next ⟨op, now⟩ db).seq.deadLetterId := by
    calc db.seq.deadLetterId
        ≤ (op.program ⟨db.tables, db.tables, db.seq, now⟩).2.seq.deadLetterId :=
          within_program hcommit op ⟨db.tables, db.tables, db.seq, now⟩
      _ = (store.next ⟨op, now⟩ db).seq.deadLetterId :=
          congrArg Sequences.deadLetterId (Tx.connect_seq op.program now db).symm
  rcases deadLetters_of_effect (store_effect ⟨op, now⟩ db) with
    hsame | ⟨report, id, d, hop, hout⟩
  · rw [hsame]
    exact h.mono hdrawn
  · obtain rfl : op = .reportFailure report id := hop
    rcases letterFiled_next hout with hsame | ⟨letter, hnumber, hrows, hseq⟩
    · rw [hsame]
      exact h.mono hdrawn
    · rw [hrows]
      exact (h.concat hnumber).mono hseq

/-- **The order of the dead letters**: along every run the rows of `dead_letters`
stand in the order of their numbers. -/
theorem lettersOrdered_exec (calls : List Call) :
    Serial DeadLetterRow.deadLetterId (store.exec Db.init calls).tables.deadLetters
      (store.exec Db.init calls).seq.deadLetterId :=
  Machine.invariant
    (P := fun db : Db =>
      Serial DeadLetterRow.deadLetterId db.tables.deadLetters db.seq.deadLetterId)
    Serial.empty fun _ call h => lettersOrdered_next h call

/-- The letter that a failure report appends bears a number of its own. -/
lemma newLetter_fresh {db : Db} {report : FailureReportV1} {id : UUID} {now : Timestamp}
    {d : ResilienceDecision} {letter : DeadLetterRow}
    (h : Serial DeadLetterRow.deadLetterId db.tables.deadLetters db.seq.deadLetterId)
    (hout : store.out ⟨.reportFailure report id, now⟩ db = .ok (.decision d))
    (hrows : (store.next ⟨.reportFailure report id, now⟩ db).tables.deadLetters
      = db.tables.deadLetters ++ [letter]) :
    ∀ l ∈ db.tables.deadLetters, l.deadLetterId ≠ letter.deadLetterId := by
  intro l hl
  rcases letterFiled_next hout with hsame | ⟨letter', hnumber, hrows', -⟩
  · have hnone : [letter] = [] :=
      List.append_cancel_left (hrows.symm.trans (hsame.trans (List.append_nil _).symm))
    exact absurd hnone (List.cons_ne_nil _ _)
  · obtain rfl : letter = letter' :=
      List.singleton_inj.mp (List.append_cancel_left (hrows.symm.trans hrows'))
    have hbound := h.bounded l hl
    rw [hnumber]
    exact (Nat.lt_succ_of_le hbound).ne

end ControlHarness

import ControlHarness.General.Serial
import ControlHarness.Store.StepSpec

/-!
The order of the receipts.

The receipts take their numbers from one sequence, so along every run of the
store the rows of `routing_receipts` stand in the order of their numbers
(`receiptsOrdered_exec`). Only an accepted receipt appends a row, under the next
number (`acceptReceipt_receipts`).
-/

namespace ControlHarness

open Store

/-- A connection does not take numbers of receipts back. -/
def KeepsDrawn (c c' : StoreConn) : Prop := c.seq.receiptId ≤ c'.seq.receiptId

instance : StoreRel KeepsDrawn where
  refl _ := le_refl _
  trans _ _ _ h h' := le_trans h h'
  write _ _ _ := le_refl _
  event c taskId correlationId e := by
    rw [event_apply]
    exact le_refl c.seq.receiptId
  drawReceipt c := Nat.le_succ c.seq.receiptId
  drawDeadLetter c := le_refl c.seq.receiptId

/-- A receipt that is accepted appends a row under the next number. -/
lemma acceptReceipt_receipts {c c' : StoreConn} {task row : TaskRow} {receipt : ResultReceiptV1}
    (hrow : c.tables.agentTasks.get? receipt.taskId = some task)
    (hrun : acceptReceipt task receipt c = (.ok row, c')) :
    ∃ r : ReceiptRow, r.receiptId = c.seq.receiptId + 1 ∧
      c'.tables.routingReceipts = c.tables.routingReceipts ++ [r] ∧
      c.seq.receiptId + 1 ≤ c'.seq.receiptId := by
  have hkey : task.taskId = receipt.taskId := Table.key_of_get? hrow
  by_cases hexec : task.status.IsExecution
  swap
  · simp [acceptReceipt, hexec] at hrun
  rw [acceptReceipt, if_neg (not_not.mpr hexec)] at hrun
  obtain ⟨_, c₁, hstart, hrun⟩ := Tx.bind_eq_ok.mp hrun
  obtain ⟨_, c₂, hset, hrun⟩ := Tx.bind_eq_ok.mp hrun
  obtain rfl := startProgress_setStatus hkey hstart hset
  rw [Tx.bind_ok (Tx.now_apply _), Tx.bind_ok (Tx.draw_apply _ _), Tx.bind_ok (Tx.write_apply _ _),
    Tx.bind_ok (event_apply _ _ _)] at hrun
  obtain ⟨_, c₃, hclose, hrun⟩ := Tx.bind_eq_ok.mp hrun
  have hdrawn : KeepsDrawn _ c₃ := (within_closeCircuit task _).of_run hclose
  obtain ⟨evs, seq, -, hclose'⟩ := closeCircuit_apply task (receiptTarget task receipt.outcome) _
  obtain ⟨-, rfl⟩ := Prod.mk.inj (hclose.symm.trans hclose')
  rw [Tx.bind_ok (selectTask_apply _)] at hrun
  simp only [Table.get?_updateKey, hrow, if_true, Option.map_some] at hrun
  obtain ⟨-, rfl⟩ := Prod.mk.inj hrun
  exact ⟨_, rfl, rfl, hdrawn⟩

/-- The receipts after a receipt from the owner of its task that was accepted. -/
lemma submitReceipt_receipts {c c' : StoreConn} {row : TaskRow} {receipt : ResultReceiptV1}
    (hrun : submitReceipt receipt c = (.ok row, c')) :
    ∃ r : ReceiptRow, r.receiptId = c.seq.receiptId + 1 ∧
      c'.tables.routingReceipts = c.tables.routingReceipts ++ [r] ∧
      c.seq.receiptId + 1 ≤ c'.seq.receiptId := by
  rw [submitReceipt, Tx.bind_ok (selectTask_apply _)] at hrun
  cases htask : c.tables.agentTasks.get? receipt.taskId with
  | none =>
      rw [htask] at hrun
      simp at hrun
  | some task =>
      rw [htask] at hrun
      dsimp only at hrun
      by_cases hown : task.ownerInstance = some receipt.workerInstance
      · rw [if_neg (not_not.mpr hown)] at hrun
        exact acceptReceipt_receipts htask hrun
      · rw [if_pos hown, rejectReceipt, Tx.bind_ok (event_apply _ _ _),
          Tx.bind_ok (Tx.commit_apply _)] at hrun
        exact absurd (congrArg Prod.fst hrun) (by simp)

/-- An operation other than an accepted receipt leaves the receipts alone. -/
lemma routingReceipts_of_effect {now : Timestamp} {s s' : Tables} {op : Op}
    {reply : Except Raised Reply} (h : Effect now s op reply s') :
    s'.routingReceipts = s.routingReceipts ∨
      ∃ receipt row, op = .submitReceipt receipt ∧ reply = .ok (.row row) := by
  cases h with
  | receiptAccepted receipt task => exact Or.inr ⟨receipt, _, rfl, rfl⟩
  | _ => exact Or.inl rfl

/-- Every call keeps the order of the receipts. -/
lemma receiptsOrdered_next {db : Db}
    (h : Serial ReceiptRow.receiptId db.tables.routingReceipts db.seq.receiptId) (call : Call) :
    Serial ReceiptRow.receiptId (store.next call db).tables.routingReceipts
      (store.next call db).seq.receiptId := by
  obtain ⟨op, now⟩ := call
  rcases routingReceipts_of_effect (store_effect ⟨op, now⟩ db) with
    hsame | ⟨receipt, row, hop, hout⟩
  · have hcommit : Tx.Within KeepsDrawn (Tx.commit : StoreTx Unit) := fun _ => le_refl _
    have hdrawn : db.seq.receiptId ≤ (store.next ⟨op, now⟩ db).seq.receiptId := by
      calc db.seq.receiptId
          ≤ (op.program ⟨db.tables, db.tables, db.seq, now⟩).2.seq.receiptId :=
            within_program hcommit op ⟨db.tables, db.tables, db.seq, now⟩
        _ = (store.next ⟨op, now⟩ db).seq.receiptId :=
            congrArg Sequences.receiptId (Tx.connect_seq op.program now db).symm
    rw [hsame]
    exact h.mono hdrawn
  · obtain rfl : op = .submitReceipt receipt := hop
    obtain ⟨c', hrun, hnext⟩ : ∃ c', (Op.submitReceipt receipt).program
        ⟨db.tables, db.tables, db.seq, now⟩ = (.ok (.row row), c') ∧
        (⟨c'.tables, c'.seq⟩ : Db) = store.next ⟨.submitReceipt receipt, now⟩ db :=
      Tx.connect_eq_ok.mp (Prod.ext hout rfl)
    obtain ⟨_, c₁, hsubmit, hret⟩ := Tx.bind_eq_ok.mp hrun
    obtain ⟨-, rfl⟩ := Prod.mk.inj hret
    obtain ⟨r, hnumber, hrows, hseq⟩ := submitReceipt_receipts hsubmit
    rw [← hnext, hrows]
    exact (h.concat hnumber).mono hseq

/-- **The order of the receipts**: along every run the rows of
`routing_receipts` stand in the order of their numbers. -/
theorem receiptsOrdered_exec (calls : List Call) :
    Serial ReceiptRow.receiptId (store.exec Db.init calls).tables.routingReceipts
      (store.exec Db.init calls).seq.receiptId :=
  Machine.invariant
    (P := fun db : Db => Serial ReceiptRow.receiptId db.tables.routingReceipts db.seq.receiptId)
    Serial.empty fun _ call h => receiptsOrdered_next h call

end ControlHarness

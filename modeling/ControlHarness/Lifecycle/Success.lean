import ControlHarness.Lifecycle.Circuit
import ControlHarness.Store.Acceptance

/-!
Success and the circuit breaker.

A completed receipt should close the circuit of its task. `submit_receipt` does
so for a task that moves to review; a task whose card asks for no approval is
done at once, and its circuit keeps the failures it has counted, so failures on
both sides of a success add up.

* `SuccessCloses`: in a run, every accepted completion leaves its circuit closed
  and without failures, and an open circuit has seen three failures since the
  last one.
* `CountedSuccess`: a completion of a task without approvals whose circuit has
  counted failures.
* `successCloses_iff`: a run has the property exactly when it holds no such
  completion.
* `not_successCloses`: not every run has it.
-/

namespace ControlHarness

open Store

/-- The answer to the operation accepts a completed receipt for a task of the
circuit. -/
def succeedsOn (k : String) (s : Tables) : Op → Except Raised Reply → Bool
  | .submitReceipt receipt, .ok (.row _) =>
      receipt.outcome = .completed && s.circuitKeyOf receipt.taskId = some k
  | _, _ => false

/-- The step is a success on the circuit. -/
def StoreStep.succeeding (k : String) (o : StoreStep) : Bool :=
  succeedsOn k o.before.tables o.input.op o.output

/-- The steps that count against the circuit since the last success on it. -/
def failuresSinceSuccess (k : String) (past : List StoreStep) : List StoreStep :=
  Machine.since (StoreStep.succeeding k) (StoreStep.counts k) past

/-- Along the run every accepted completion leaves the circuit of its task
closed and without failures, and a circuit is open only after three failures
since the last completion on it. -/
def SuccessCloses (calls : List Call) : Prop :=
  (∀ pre x post receipt row key circuit, calls = pre ++ x :: post →
      Receives (store.exec Db.init pre) x receipt → receipt.outcome = .completed →
      (store.exec Db.init pre).tables.agentTasks.get? receipt.taskId = some row →
      row.circuitKey = some key →
      (store.exec Db.init (pre ++ [x])).tables.circuitBreakers.get? key = some circuit →
      circuit.state = .closed ∧ circuit.failureCount = 0 ∧ circuit.openUntil = none) ∧
    ∀ pre post key circuit, calls = pre ++ post →
      (store.exec Db.init pre).tables.circuitBreakers.get? key = some circuit →
      circuit.state = .open →
      circuitFailureThreshold ≤ (failuresSinceSuccess key (store.occs Db.init pre)).length

/-- The call completes a task that asks for no approval, by the owner and in
execution, while its circuit has counted failures. -/
def CountedSuccess (db : Db) (call : Call) : Prop :=
  ∃ receipt row key circuit, call.op = .submitReceipt receipt ∧ receipt.outcome = .completed ∧
    db.tables.agentTasks.get? receipt.taskId = some row ∧
    row.ownerInstance = some receipt.workerInstance ∧ row.status.IsExecution ∧
    row.approvalRequired = [] ∧ row.circuitKey = some key ∧
    db.tables.circuitBreakers.get? key = some circuit ∧ circuit.failureCount ≠ 0

/-! ### What a receipt does to the circuit -/

/-- Review is where the completion of a task with approvals leads. -/
lemma receiptTarget_eq_review {row : TaskRow} {outcome : ReceiptOutcome} :
    receiptTarget row outcome = .review ↔ outcome = .completed ∧ row.approvalRequired ≠ [] := by
  cases outcome with
  | completed =>
      rw [receiptTarget]
      split <;> simp_all
  | failed | blocked => simp [receiptTarget]

/-- The answer and the circuits of an accepted receipt. -/
lemma Receives.circuits {db : Db} {call : Call} {receipt : ResultReceiptV1} {row : TaskRow}
    (h : Receives db call receipt)
    (hrow : db.tables.agentTasks.get? receipt.taskId = some row) :
    store.out call db = .ok (.row (receiptRow row receipt)) ∧
      (store.next call db).tables.circuitBreakers
        = circuitsClosed db.tables call.now row (receiptTarget row receipt.outcome) := by
  obtain ⟨hop, answer, hout⟩ := h
  have heff := effect_of_out hop hout
  rw [hout]
  generalize (store.next call db).tables = s' at heff ⊢
  cases heff with
  | receiptAccepted _ task _ evs hrow' hown hexec =>
      obtain rfl : row = task := Option.some.inj (hrow.symm.trans hrow')
      exact ⟨rfl, rfl⟩

/-- A step that closes the circuit is a success on it. -/
lemma succeeding_of_closing {k : String} {db : Db} {call : Call}
    (h : StoreStep.closing k (store.occ db call) = true) :
    StoreStep.succeeding k (store.occ db call) = true := by
  have hcloses : closes k db.tables call.op (store.out call db) = true := h
  change succeedsOn k db.tables call.op (store.out call db) = true
  unfold closes at hcloses
  split at hcloses
  · rename_i receipt answer hop hout
    rw [Bool.and_eq_true, decide_eq_true_eq, decide_eq_true_eq] at hcloses
    have hreceives : Receives db call receipt := ⟨hop, answer, hout⟩
    obtain ⟨row, hrow, -⟩ := hreceives.spec
    have hanswer := hreceives.circuits hrow
    rw [hout, Except.ok.injEq, Reply.row.injEq] at hanswer
    have hreview : receiptTarget row receipt.outcome = .review := by
      rw [← hcloses.1, hanswer.1, receiptRow, movedRow_status]
    rw [hop, hout, succeedsOn, hcloses.2, (receiptTarget_eq_review.mp hreview).1]
    simp
  · exact absurd hcloses Bool.false_ne_true

/-- A success on a circuit, read off its answer. -/
lemma receives_of_succeeding {k : String} {db : Db} {call : Call}
    (h : StoreStep.succeeding k (store.occ db call) = true) :
    ∃ receipt row, Receives db call receipt ∧ receipt.outcome = .completed ∧
      db.tables.agentTasks.get? receipt.taskId = some row ∧ row.circuitKey = some k := by
  have hsucceeds : succeedsOn k db.tables call.op (store.out call db) = true := h
  unfold succeedsOn at hsucceeds
  split at hsucceeds
  · rename_i receipt answer hop hout
    rw [Bool.and_eq_true, decide_eq_true_eq, decide_eq_true_eq] at hsucceeds
    have hreceives : Receives db call receipt := ⟨hop, answer, hout⟩
    obtain ⟨row, hrow, -⟩ := hreceives.spec
    refine ⟨receipt, row, hreceives, hsucceeds.1, hrow, ?_⟩
    rw [← Tables.circuitKeyOf_eq hrow]
    exact hsucceeds.2
  · exact absurd hsucceeds Bool.false_ne_true

/-- A completion that is not counted finds approvals on the card, or a circuit
without failures. -/
lemma approval_or_clean {db : Db} {call : Call} {receipt : ResultReceiptV1} {row : TaskRow}
    {key : String} (hcounted : ¬ CountedSuccess db call) (h : Receives db call receipt)
    (hcompleted : receipt.outcome = .completed)
    (hrow : db.tables.agentTasks.get? receipt.taskId = some row)
    (hkey : row.circuitKey = some key) :
    row.approvalRequired ≠ [] ∨
      ∀ circuit ∈ db.tables.circuitBreakers.get? key, circuit.failureCount = 0 := by
  by_contra hneither
  push Not at hneither
  obtain ⟨hnone, circuit, hcircuit, hcount⟩ := hneither
  obtain ⟨task, htask, hown, hexec, -⟩ := h.spec
  obtain rfl : row = task := Option.some.inj (hrow.symm.trans htask)
  exact hcounted ⟨receipt, row, key, circuit, h.1, hcompleted, hrow, hown, hexec, hnone, hkey,
    hcircuit, hcount⟩

/-- A circuit without failures is closed. -/
lemma CircuitAgrees.clean {failures : List StoreStep} {circuit : CircuitRow}
    (h : CircuitAgrees failures (some circuit)) (hcount : circuit.failureCount = 0) :
    failures = [] ∧ circuit.state = .closed ∧ circuit.openUntil = none := by
  have hlen : failures.length = 0 := by rw [← h.count, Option.elim_some, hcount]
  have hclosed : circuit.state ≠ .open := by
    intro hopen
    have hthird := h.openIff.mp (by simp [hopen])
    omega
  refine ⟨List.eq_nil_of_length_eq_zero hlen, ?_, ?_⟩
  · cases hstate : circuit.state with
    | closed => rfl
    | «open» => exact absurd hstate hclosed
  · rw [h.openUntil circuit rfl, if_neg hclosed]

/-! ### Runs -/

/-- **The step of the count**: without a counted success, the failures since the
circuit was last closed are those since the last success. -/
lemma failuresSince_next {k : String} {past : List StoreStep} {db : Db} {call : Call}
    (h : failuresSince k past = failuresSinceSuccess k past)
    (hagrees : CircuitAgrees (failuresSince k past) (db.tables.circuitBreakers.get? k))
    (hcounted : ¬ CountedSuccess db call) :
    failuresSince k (past ++ [store.occ db call])
      = failuresSinceSuccess k (past ++ [store.occ db call]) := by
  rw [failuresSince_eq, failuresSinceSuccess]
  cases hcloses : StoreStep.closing k (store.occ db call) with
  | true => rw [Machine.since_stop hcloses, Machine.since_stop (succeeding_of_closing hcloses)]
  | false =>
      cases hsuccess : StoreStep.succeeding k (store.occ db call) with
      | true =>
          -- the success did not close the circuit, so there was nothing to forget
          obtain ⟨receipt, row, hreceives, hcompleted, hrow, hkey⟩ :=
            receives_of_succeeding hsuccess
          have hnil : failuresSince k past = [] := by
            rcases approval_or_clean hcounted hreceives hcompleted hrow hkey with hreq | hclean
            · have hanswer := (hreceives.circuits hrow).1
              have hreview : closes k db.tables call.op (store.out call db) = true := by
                rw [hreceives.1, hanswer, closes, receiptRow, movedRow_status,
                  receiptTarget_eq_review.mpr ⟨hcompleted, hreq⟩, Tables.circuitKeyOf_eq hrow, hkey]
                simp
              exact absurd (hcloses.symm.trans hreview) Bool.false_ne_true
            · cases hcircuit : db.tables.circuitBreakers.get? k with
              | none =>
                  rw [hcircuit] at hagrees
                  exact List.eq_nil_of_length_eq_zero hagrees.count.symm
              | some circuit =>
                  rw [hcircuit] at hagrees
                  exact (hagrees.clean (hclean circuit hcircuit)).1
          have hkeep : StoreStep.counts k (store.occ db call) = false := by
            change countsAgainst k db.tables call.op (store.out call db) = false
            rw [hreceives.1]
            rfl
          rw [Machine.since_other hcloses hkeep, Machine.since_stop hsuccess]
          exact hnil
      | false =>
          cases hkeep : StoreStep.counts k (store.occ db call) with
          | true =>
              rw [Machine.since_keep hcloses hkeep, Machine.since_keep hsuccess hkeep]
              exact congrArg (· ++ [store.occ db call]) h
          | false =>
              rw [Machine.since_other hcloses hkeep, Machine.since_other hsuccess hkeep]
              exact h

lemma failuresSince_exec {calls : List Call} (k : String)
    (h : store.Along (fun db c => ¬ CountedSuccess db c) Db.init calls) :
    failuresSince k (store.occs Db.init calls)
      = failuresSinceSuccess k (store.occs Db.init calls) := by
  induction calls using List.reverseRecOn with
  | nil => rw [Machine.occs_nil, failuresSince_eq, failuresSinceSuccess, Machine.since_nil,
      Machine.since_nil]
  | append_singleton calls call ih =>
      rw [Machine.along_concat] at h
      rw [Machine.occs_concat]
      exact failuresSince_next (ih h.1) (circuitAgrees_exec calls k) h.2

/-- The circuit after an accepted completion that is not counted. -/
lemma circuit_of_completion {pre : List Call} {x : Call} {receipt : ResultReceiptV1}
    {row : TaskRow} {key : String} {circuit : CircuitRow}
    (hcounted : ¬ CountedSuccess (store.exec Db.init pre) x)
    (h : Receives (store.exec Db.init pre) x receipt) (hcompleted : receipt.outcome = .completed)
    (hrow : (store.exec Db.init pre).tables.agentTasks.get? receipt.taskId = some row)
    (hkey : row.circuitKey = some key)
    (hcircuit : (store.exec Db.init (pre ++ [x])).tables.circuitBreakers.get? key
      = some circuit) :
    circuit.state = .closed ∧ circuit.failureCount = 0 ∧ circuit.openUntil = none := by
  have hnamed : key ≠ "" := by
    rintro rfl
    exact namedCircuits_exec pre _ _ hrow hkey
  rw [Machine.exec_concat, (h.circuits hrow).2, get?_circuitsClosed] at hcircuit
  rcases approval_or_clean hcounted h hcompleted hrow hkey with hreq | hclean
  · have hclosed : closedKey row (receiptTarget row receipt.outcome) = some key :=
      closedKey_eq_some.mpr ⟨hkey, receiptTarget_eq_review.mpr ⟨hcompleted, hreq⟩, hnamed⟩
    rw [if_pos hclosed] at hcircuit
    obtain ⟨before, -, rfl⟩ := Option.map_eq_some_iff.mp hcircuit
    exact ⟨rfl, rfl, rfl⟩
  · split at hcircuit
    · obtain ⟨before, -, rfl⟩ := Option.map_eq_some_iff.mp hcircuit
      exact ⟨rfl, rfl, rfl⟩
    · have hcount := hclean circuit hcircuit
      have hagrees := circuitAgrees_exec pre key
      rw [hcircuit] at hagrees
      obtain ⟨-, hstate, huntil⟩ := hagrees.clean hcount
      exact ⟨hstate, hcount, huntil⟩

/-- **Success closes the circuit, exactly without counted successes**: along a
run every accepted completion leaves its circuit closed and without failures,
and failures on both sides of it do not add up, if and only if no completion is
of a task without approvals whose circuit has counted failures. -/
theorem successCloses_iff (calls : List Call) :
    SuccessCloses calls ↔ store.Along (fun db c => ¬ CountedSuccess db c) Db.init calls := by
  constructor
  · rintro ⟨hcloses, -⟩ pre x post hcalls
      ⟨receipt, row, key, circuit, hop, hcompleted, hrow, hown, hexec, hnone, hkey, hcircuit,
        hcount⟩
    obtain ⟨answer, hout⟩ := submitReceipt_accepted x.now hrow hown hexec
    have hreceives : Receives (store.exec Db.init pre) x receipt := by
      refine ⟨hop, answer, ?_⟩
      rw [← hop] at hout
      exact hout
    -- the task is done, so its circuit is as it was
    have hkept : closedKey row (receiptTarget row receipt.outcome) ≠ some key := by
      rw [Ne, closedKey_eq_some, receiptTarget_eq_review]
      rintro ⟨-, ⟨-, hreq⟩, -⟩
      exact hreq hnone
    have hafter : (store.exec Db.init (pre ++ [x])).tables.circuitBreakers.get? key
        = some circuit := by
      rw [Machine.exec_concat, (hreceives.circuits hrow).2, get?_circuitsClosed, if_neg hkept]
      exact hcircuit
    exact hcount (hcloses pre x post receipt row key circuit hcalls hreceives hcompleted hrow hkey
      hafter).2.1
  · intro hclean
    refine ⟨?_, ?_⟩
    · rintro pre x post receipt row key circuit hcalls hreceives hcompleted hrow hkey hafter
      exact circuit_of_completion (hclean pre x post hcalls) hreceives hcompleted hrow hkey hafter
    · rintro pre post key circuit rfl hcircuit hopen
      rw [Machine.along_append] at hclean
      have hagrees := circuitAgrees_exec pre key
      rw [hcircuit] at hagrees
      rw [← failuresSince_exec key hclean.1]
      exact hagrees.openIff.mp (by simp [hopen])

/-- The card of a task that asks for no approval. -/
def directCard : TaskCardV1 :=
  { sampleCard with approvalRequired := [], approval_length := noApproval_length }

/-- A failure and then the completion of such a task. -/
def directRun : List Call :=
  [⟨.createTask directCard, 0⟩, ⟨.claim directCard.taskId "hermes_local" "worker-a" 30, 0⟩,
    ⟨.reportFailure sampleReport ⟨9⟩, 1⟩, ⟨.releaseDueRetries, minutes 10⟩,
    ⟨.claim directCard.taskId "hermes_local" "worker-a" 30, minutes 10⟩]

/-- Not every run closes its circuits on success: the failure before the
completion of a task without approvals stays counted. -/
theorem not_successCloses : ¬ ∀ calls, SuccessCloses calls := by
  intro h
  have hcount : ((store.exec Db.init (directRun ++ [⟨.submitReceipt sampleReceipt, minutes 11⟩])
      ).tables.circuitBreakers.get? "route:anthropic_oauth_reasoner").map CircuitRow.failureCount
      = some 1 := by decide +kernel
  obtain ⟨circuit, hcircuit, hone⟩ := Option.map_eq_some_iff.mp hcount
  have hkey : ((store.exec Db.init directRun).tables.agentTasks.get? sampleReceipt.taskId).bind
      TaskRow.circuitKey = some "route:anthropic_oauth_reasoner" := by decide +kernel
  obtain ⟨row, hrow, hkey⟩ := Option.bind_eq_some_iff.mp hkey
  have hzero := (h _).1 directRun ⟨.submitReceipt sampleReceipt, minutes 11⟩ [] sampleReceipt row
    _ circuit rfl ⟨rfl, _, rfl⟩ rfl hrow hkey hcircuit
  rw [hone] at hzero
  exact absurd hzero.2.1 (by decide)

end ControlHarness

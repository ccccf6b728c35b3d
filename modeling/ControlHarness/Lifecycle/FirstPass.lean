import ControlHarness.Lifecycle.Budget
import ControlHarness.Lifecycle.Correlation
import ControlHarness.Metrics

/-!
The first-pass and retry rates.

A stored receipt never changes, but the metrics join it with the attempts that its
task has by now. The rates count the attempt at which each receipt was accepted
exactly in the runs in which no task is claimed for a second attempt while it has
a receipt (`countsAttempts_iff`): such a claim turns the receipts of the first
attempt into retries (`not_countsAttempts`).

* `acceptedRows`: the receipts of operational tasks as they were accepted, each
  with the attempt of its task at that moment.
* `metricsRows_next`: the rows of the metrics after one call.
* `CountsAttempts`: the law; `Reclassifies` the claims that break it.
-/

namespace ControlHarness

open Store

/-! ### The rows of the metrics -/

/-- The row counts as a first pass. -/
def MetricsRow.firstPass (r : MetricsRow) : Bool := r.outcome = .completed && r.attemptCount = 1

/-- The row counts as a retry. -/
def MetricsRow.retried (r : MetricsRow) : Bool := 1 < r.attemptCount

/-- How the row counts. -/
def MetricsRow.counted (r : MetricsRow) : Bool × Bool := (r.firstPass, r.retried)

lemma MetricsRow.counted_of_retry {r : MetricsRow} (h : 1 < r.attemptCount) :
    r.counted = (false, true) := by
  have hfirst : r.attemptCount ≠ 1 := by omega
  rw [counted, firstPass, retried, decide_eq_true h, decide_eq_false hfirst, Bool.and_false]

/-- The row of a stored receipt. -/
def ReceiptRow.metrics (s : Tables) (rr : ReceiptRow) : Option MetricsRow :=
  metricsRow s.agentTasks rr.taskId rr.outcome rr.receipt

/-- The receipt that the step accepts for an operational task, with the attempt of
the task. -/
def StoreStep.acceptedRow (o : StoreStep) : Option MetricsRow :=
  match o.input.op, o.output with
  | .submitReceipt receipt, .ok (.row _) =>
      metricsRow o.before.tables.agentTasks receipt.taskId receipt.outcome receipt
  | _, _ => none

/-- The receipts of operational tasks that the run accepts, in order. -/
def acceptedRows (calls : List Call) : List MetricsRow :=
  (store.occs Db.init calls).filterMap StoreStep.acceptedRow

/-- **The law**: the numerators of the two rates count the accepted receipts by the
attempt at which they were accepted, and how a receipt counts never changes. -/
structure CountsAttempts (calls : List Call) : Prop where
  firstPass : (qualityMetrics (store.exec Db.init calls).tables.metricsRows).firstPassRate =
    rateMetric ((acceptedRows calls).countP MetricsRow.firstPass) (acceptedRows calls).length
  retry : (qualityMetrics (store.exec Db.init calls).tables.metricsRows).retryRate =
    rateMetric ((acceptedRows calls).countP MetricsRow.retried) (acceptedRows calls).length
  kept : ∀ pre post, calls = pre ++ post →
    (store.exec Db.init pre).tables.metricsRows.map MetricsRow.counted <+:
      (store.exec Db.init calls).tables.metricsRows.map MetricsRow.counted

/-- The call claims an operational task that is on its first attempt and has a
receipt. -/
def Reclassifies (db : Db) (call : Call) : Prop :=
  ∃ t role worker mins row, call.op = .claim t role worker mins ∧ IntervalMins mins ∧
    db.tables.agentTasks.get? t = some row ∧ claimable call.now db.tables row = true ∧
    row.operational = true ∧ row.attemptCount = 1 ∧ ∃ rr ∈ db.tables.routingReceipts, rr.taskId = t

/-! ### The attempts of the tasks with receipts -/

/-- A task with an owner was claimed. -/
def OwnerClaimed (v : TaskView) : Prop :=
  ∀ row ∈ v.row, row.ownerInstance.isSome → 1 ≤ row.attemptCount

lemma TaskStep.ownerClaimed {now : Timestamp} {t : UUID} {v v' : TaskView} {op : Op}
    (h : TaskStep now t v op v') (hv : OwnerClaimed v) : OwnerClaimed v' := by
  have hmoved : ∀ {target : TaskStatus} {row : TaskRow}, v.row = some row →
      ∀ r ∈ some (movedRow target row), r.ownerInstance.isSome → 1 ≤ r.attemptCount := by
    rintro target row hrow r ⟨⟩ howner
    rw [movedRow_ownerInstance] at howner
    rw [movedRow_attemptCount]
    exact hv row hrow howner
  cases h with
  | created card route hid hrow =>
      rintro r ⟨⟩ howner
      exact absurd howner (by simp [newTask])
  | claimed role worker mins row hrow =>
      rintro r ⟨⟩ -
      exact Nat.succ_pos _
  | renewed worker mins row hrow | swept ids row hrow =>
      rintro r ⟨⟩ howner
      exact hv row hrow howner
  | heartbeatRejected | receiptRejected => exact hv
  | released row hrow =>
      rintro r ⟨⟩ howner
      exact absurd howner (by simp [releasedRow])
  | retryScheduled report id row delay hid hrow =>
      rintro r ⟨⟩ howner
      have howner' : (movedRow .retryWait row).ownerInstance.isSome := howner
      rw [movedRow_ownerInstance] at howner'
      rw [retriedRow_attemptCount]
      exact hv row hrow howner'
  | recovery report id row hid hrow | deadLettered report id row letterId reason hid hrow
  | stopped report id row target hid hrow | receiptAccepted receipt row receiptId closing hid hrow
  | approvalRequested card row hid hrow | transitioned target reason row hrow => exact hmoved hrow
  | approvalDecided id decision by_ reason d approval row hd happ hkey hopen hrow =>
      exact hmoved hrow

lemma ownerClaimed_exec (calls : List Call) (t : UUID) :
    OwnerClaimed ((store.exec Db.init calls).tables.view t) :=
  view_exec (A := fun _ => True) (fun _ _ => trivial) t
    (fun row hrow => absurd hrow (by simp [TaskView.empty])) fun _ _ _ _ _ h hv => h.ownerClaimed hv

/-- A task with a stored receipt was claimed. -/
lemma attempts_of_receipt (calls : List Call) :
    ∀ rr ∈ (store.exec Db.init calls).tables.routingReceipts,
      1 ≤ ((store.exec Db.init calls).tables.view rr.taskId).attempts := by
  induction calls using List.reverseRecOn with
  | nil => exact fun rr hrr => absurd hrr List.not_mem_nil
  | append_singleton calls call ih =>
      rw [Machine.exec_concat]
      have hgrows := attempts_next (store.exec Db.init calls) call
      have howner := ownerClaimed_exec calls
      generalize store.exec Db.init calls = db at ih hgrows howner
      intro rr hrr
      rw [hgrows]
      rcases receipts_next db call with ⟨-, hsame⟩ | ⟨receipt, receiptId, hreceives, hrows⟩
      · rw [hsame] at hrr
        exact (ih rr hrr).trans (Nat.le_add_right _ _)
      · rw [hrows, List.mem_append, List.mem_singleton] at hrr
        rcases hrr with hrr | rfl
        · exact (ih rr hrr).trans (Nat.le_add_right _ _)
        · obtain ⟨row, hrow, hown, -⟩ := hreceives.spec
          have hclaimed : 1 ≤ row.attemptCount :=
            howner receipt.taskId row hrow (by rw [hown, Option.isSome_some])
          exact (attempts_of_row hrow ▸ hclaimed).trans (Nat.le_add_right _ _)

/-! ### One call -/

section

variable {db : Db} {call : Call}

/-- The row of a receipt after a call: a claim of its task adds an attempt. -/
lemma metrics_next {rr : ReceiptRow} (htask : 1 ≤ (db.tables.view rr.taskId).attempts) :
    rr.metrics (store.next call db).tables = (rr.metrics db.tables).map fun r =>
      { r with attemptCount :=
          r.attemptCount + [store.occ db call].countP (StoreStep.claiming rr.taskId) } := by
  have hgrows := attempts_next db call rr.taskId
  cases hrow : db.tables.agentTasks.get? rr.taskId with
  | none =>
      have hzero : (db.tables.view rr.taskId).attempts = 0 :=
        congrArg (fun r : Option TaskRow => r.elim 0 TaskRow.attemptCount) hrow
      omega
  | some row =>
      obtain ⟨row', hrow', hsame⟩ := sameCard_next call hrow
      have hattempts : row'.attemptCount =
          row.attemptCount + [store.occ db call].countP (StoreStep.claiming rr.taskId) := by
        rw [← attempts_of_row hrow', hgrows, attempts_of_row hrow]
      have hoper : row'.operational = row.operational := by
        rw [TaskRow.operational, hsame.card, TaskRow.operational]
      rw [ReceiptRow.metrics, ReceiptRow.metrics, metricsRow, metricsRow, hrow, hrow',
        Option.filter_some, Option.filter_some, hoper]
      split
      · simp only [Option.map_some, hattempts]
      · rfl

/-- The receipts that a call accepts. -/
lemma acceptedRow_occ (hnone : ∀ receipt, ¬ Receives db call receipt) :
    StoreStep.acceptedRow (store.occ db call) = none := by
  rw [StoreStep.acceptedRow]
  split
  · rename_i receipt row hop hout
    exact absurd ⟨hop, row, hout⟩ (hnone receipt)
  · rfl

/-- The rows of the metrics, as the receipts stand. -/
lemma metricsRows_exec (calls : List Call) :
    (store.exec Db.init calls).tables.metricsRows =
      (store.exec Db.init calls).tables.routingReceipts.filterMap
        (ReceiptRow.metrics (store.exec Db.init calls).tables) := by
  rw [Tables.metricsRows_eq (receiptsOrdered_exec calls)]
  rfl

/-- **The rows of the metrics after a call**: those of the receipts before, and the
receipt that the call accepts. -/
lemma metricsRows_next (calls : List Call) (call : Call) :
    (store.exec Db.init (calls ++ [call])).tables.metricsRows =
      (store.exec Db.init calls).tables.routingReceipts.filterMap
          (ReceiptRow.metrics (store.exec Db.init (calls ++ [call])).tables) ++
        [store.occ (store.exec Db.init calls) call].filterMap StoreStep.acceptedRow := by
  rw [metricsRows_exec, Machine.exec_concat]
  generalize store.exec Db.init calls = db
  rcases receipts_next db call with ⟨hnone, hsame⟩ | ⟨receipt, receiptId, hreceives, happend⟩
  · rw [hsame, List.filterMap_cons, acceptedRow_occ hnone, List.filterMap_nil, List.append_nil]
  · rw [happend, List.filterMap_append]
    congr 1
    obtain ⟨row, hrow, -, -, hrow'⟩ := hreceives.spec
    obtain ⟨hop, answer, hout⟩ := hreceives
    have haccepted : StoreStep.acceptedRow (store.occ db call) =
        metricsRow db.tables.agentTasks receipt.taskId receipt.outcome receipt := by
      have hinput : (store.occ db call).input.op = .submitReceipt receipt := hop
      have houtput : (store.occ db call).output = .ok (.row answer) := hout
      rw [StoreStep.acceptedRow, hinput, houtput]
      rfl
    have hmetrics : metricsRow (store.next call db).tables.agentTasks receipt.taskId
        receipt.outcome receipt =
          metricsRow db.tables.agentTasks receipt.taskId receipt.outcome receipt := by
      rw [metricsRow, metricsRow, hrow, hrow', Option.filter_some, Option.filter_some,
        TaskRow.operational, receiptRow, movedRow_card]
      split
      · simp [TaskRow.operational, *]
      · simp [TaskRow.operational, *]
    rw [List.filterMap_cons, List.filterMap_cons, haccepted, ReceiptRow.metrics]
    dsimp only
    rw [hmetrics]
    rfl

/-! ### Claims of a task with a receipt -/

/-- A claim that succeeds asks for an interval that the database can make. -/
lemma Claims.interval {t : UUID} {role worker : String} {mins : ℤ}
    (h : Claims db call t worker) (hop : call.op = .claim t role worker mins) :
    IntervalMins mins := by
  by_contra hno
  obtain ⟨op, now⟩ := call
  obtain rfl : op = .claim t role worker mins := hop
  have hrun : claim t role worker mins ⟨db.tables, db.tables, db.seq, now⟩ =
      (.error (.database "function make_interval(mins => bigint) does not exist"),
        ⟨db.tables, db.tables, db.seq, now⟩) := by
    rw [claim, Tx.bind_ok (Tx.now_apply _), Tx.bind_error (makeIntervalMins_error hno)]
  obtain ⟨-, row, hout⟩ := h
  exact absurd ((out_of_error (Tx.bind_error hrun)).symm.trans hout) (by simp)

/-- The attempts that a call adds to a task: one by a claim of it. -/
lemma claiming_cases (db : Db) (call : Call) (t : UUID) :
    (∀ worker, ¬ Claims db call t worker) ∧
        [store.occ db call].countP (StoreStep.claiming t) = 0 ∨
      (∃ worker, Claims db call t worker) ∧
        [store.occ db call].countP (StoreStep.claiming t) = 1 := by
  by_cases hclaim : ∃ worker, Claims db call t worker
  · obtain ⟨worker, hworker⟩ := hclaim
    exact Or.inr ⟨⟨worker, hworker⟩, countP_claiming_one hworker⟩
  · have hnone : ∀ worker, ¬ Claims db call t worker := fun worker h => hclaim ⟨worker, h⟩
    exact Or.inl ⟨hnone, countP_claiming_zero hnone⟩

/-- The row of a receipt comes from its task. -/
lemma metrics_eq_some {s : Tables} {rr : ReceiptRow} {r : MetricsRow}
    (h : rr.metrics s = some r) :
    ∃ row, s.agentTasks.get? rr.taskId = some row ∧ row.operational = true ∧
      r.attemptCount = row.attemptCount := by
  obtain ⟨row, hrow, rfl⟩ := Option.map_eq_some_iff.mp h
  obtain ⟨hget, hoper⟩ := Option.filter_eq_some_iff.mp hrow
  exact ⟨row, hget, hoper, rfl⟩

/-- A claim that reclassifies nothing leaves each receipt counted as it was. -/
lemma counted_next {rr : ReceiptRow} (hrr : rr ∈ db.tables.routingReceipts)
    (htask : 1 ≤ (db.tables.view rr.taskId).attempts) (hcall : ¬ Reclassifies db call) :
    (rr.metrics (store.next call db).tables).map MetricsRow.counted =
      (rr.metrics db.tables).map MetricsRow.counted := by
  rw [metrics_next htask, Option.map_map]
  cases hr : rr.metrics db.tables with
  | none => rfl
  | some r =>
      obtain ⟨row, hrow, hoper, hattempt⟩ := metrics_eq_some hr
      have hbefore := attempts_of_row hrow
      rcases claiming_cases db call rr.taskId with ⟨-, hzero⟩ | ⟨⟨worker, hclaim⟩, hone⟩
      · rw [hzero]
        rfl
      · obtain ⟨role, mins, row', hop, hrow', hclaimable, -⟩ := hclaim.spec
        obtain rfl := Option.some.inj (hrow.symm.trans hrow')
        have hsecond : row.attemptCount ≠ 1 := fun hfirst =>
          hcall ⟨rr.taskId, role, worker, mins, row, hop, hclaim.interval hop, hrow, hclaimable,
            hoper, hfirst, rr, hrr, rfl⟩
        -- past the first attempt a receipt is a retry, and stays one
        have hretry : 1 < r.attemptCount := by omega
        rw [Option.map_some, Option.map_some, MetricsRow.counted_of_retry hretry]
        exact congrArg some (MetricsRow.counted_of_retry (by dsimp only; omega))

/-- A receipt that counts as a retry keeps counting as one. -/
lemma retried_next {rr : ReceiptRow} (htask : 1 ≤ (db.tables.view rr.taskId).attempts)
    (h : (rr.metrics db.tables).any MetricsRow.retried = true) :
    (rr.metrics (store.next call db).tables).any MetricsRow.retried = true := by
  rw [metrics_next htask]
  cases hr : rr.metrics db.tables with
  | none => exact absurd (hr ▸ h) (by simp)
  | some r =>
      rw [hr] at h
      have hretry : 1 < r.attemptCount := of_decide_eq_true h
      have hmore : 1 < r.attemptCount +
          [store.occ db call].countP (StoreStep.claiming rr.taskId) := by omega
      exact decide_eq_true hmore

/-- A claim that reclassifies turns a receipt into a retry. -/
lemma retried_of_reclassifies (hcall : Reclassifies db call) :
    ∃ rr ∈ db.tables.routingReceipts, (rr.metrics db.tables).any MetricsRow.retried = false ∧
      (rr.metrics (store.next call db).tables).any MetricsRow.retried = true := by
  obtain ⟨t, role, worker, mins, row, hop, hmins, hrow, hclaimable, hoper, hfirst, rr, hrr, rfl⟩ :=
    hcall
  have hbefore := attempts_of_row hrow
  have hmetrics : rr.metrics db.tables = some ⟨rr.outcome, rr.receipt, row.attemptCount⟩ := by
    rw [ReceiptRow.metrics, metricsRow, hrow, Option.filter_some, if_pos hoper]
    rfl
  have hclaim : Claims db call rr.taskId worker := by
    obtain ⟨op, now⟩ := call
    obtain rfl : op = .claim rr.taskId role worker mins := hop
    exact ⟨⟨role, mins, rfl⟩, _, claim_accepted now role worker hmins hrow hclaimable⟩
  refine ⟨rr, hrr, ?_, ?_⟩
  · rw [hmetrics, hfirst]
    rfl
  · rw [metrics_next (by omega), hmetrics, countP_claiming_one hclaim, hfirst]
    rfl

end

/-! ### Runs -/

lemma acceptedRows_concat (calls : List Call) (call : Call) :
    acceptedRows (calls ++ [call]) = acceptedRows calls ++
      [store.occ (store.exec Db.init calls) call].filterMap StoreStep.acceptedRow := by
  rw [acceptedRows, Machine.occs_concat, List.filterMap_append, acceptedRows]

/-- Each receipt has its row. -/
lemma length_metricsRows (calls : List Call) :
    (store.exec Db.init calls).tables.metricsRows.length = (acceptedRows calls).length := by
  induction calls using List.reverseRecOn with
  | nil => rfl
  | append_singleton calls call ih =>
      rw [metricsRows_next, acceptedRows_concat, List.length_append, List.length_append, ← ih,
        metricsRows_exec, Machine.exec_concat]
      congr 1
      rw [List.length_filterMap_eq_countP, List.length_filterMap_eq_countP]
      refine List.countP_congr fun rr hrr => ?_
      rw [metrics_next (attempts_of_receipt calls rr hrr), Option.isSome_map]

/-- Without a claim that reclassifies, the receipts count as they were accepted. -/
lemma counted_exec {calls : List Call}
    (h : store.Along (fun db call => ¬ Reclassifies db call) Db.init calls) :
    (store.exec Db.init calls).tables.metricsRows.map MetricsRow.counted =
      (acceptedRows calls).map MetricsRow.counted := by
  induction calls using List.reverseRecOn with
  | nil => rfl
  | append_singleton calls call ih =>
      obtain ⟨hcalls, hcall⟩ := Machine.along_concat.mp h
      rw [metricsRows_next, acceptedRows_concat, List.map_append, List.map_append, ← ih hcalls,
        metricsRows_exec, Machine.exec_concat]
      congr 1
      rw [List.map_filterMap, List.map_filterMap]
      exact List.filterMap_congr fun rr hrr =>
        counted_next hrr (attempts_of_receipt calls rr hrr) hcall

lemma countP_retried (s : Tables) (receipts : List ReceiptRow) :
    (receipts.filterMap (ReceiptRow.metrics s)).countP MetricsRow.retried =
      receipts.countP fun rr => (rr.metrics s).any MetricsRow.retried := by
  rw [List.countP_filterMap]
  refine List.countP_congr fun rr _ => ?_
  cases rr.metrics s <;> rfl

/-- Counting by a weaker condition gives more, once it holds of another element. -/
lemma countP_lt {α : Type*} {p q : α → Bool} {l : List α} (h : ∀ a ∈ l, p a = true → q a = true)
    {a : α} (ha : a ∈ l) (hp : p a = false) (hq : q a = true) : l.countP p < l.countP q := by
  obtain ⟨before, after, rfl⟩ := List.append_of_mem ha
  rw [List.forall_mem_append, List.forall_mem_cons] at h
  have hbefore := List.countP_mono_left h.1
  have hafter := List.countP_mono_left h.2.2
  rw [List.countP_append, List.countP_append, List.countP_cons_of_neg (by simp [hp]),
    List.countP_cons_of_pos hq]
  omega

/-- **Retries only become more**: the rates count at least the retries that were
accepted, and more after a claim that reclassifies. -/
lemma retried_exec (calls : List Call) :
    (acceptedRows calls).countP MetricsRow.retried ≤
        (store.exec Db.init calls).tables.metricsRows.countP MetricsRow.retried ∧
      ((store.exec Db.init calls).tables.metricsRows.countP MetricsRow.retried ≤
          (acceptedRows calls).countP MetricsRow.retried →
        store.Along (fun db call => ¬ Reclassifies db call) Db.init calls) := by
  induction calls using List.reverseRecOn with
  | nil => exact ⟨le_rfl, fun _ => Machine.along_nil⟩
  | append_singleton calls call ih =>
      have hstays : ∀ rr ∈ (store.exec Db.init calls).tables.routingReceipts,
          (rr.metrics (store.exec Db.init calls).tables).any MetricsRow.retried = true →
          (rr.metrics (store.next call (store.exec Db.init calls)).tables).any
            MetricsRow.retried = true := fun rr hrr =>
        retried_next (attempts_of_receipt calls rr hrr)
      rw [metricsRows_next, acceptedRows_concat, List.countP_append, List.countP_append,
        Machine.along_concat, Machine.exec_concat, countP_retried]
      rw [metricsRows_exec, countP_retried] at ih
      generalize store.exec Db.init calls = db at ih hstays ⊢
      obtain ⟨hle, hfew⟩ := ih
      have hmore := List.countP_mono_left hstays
      refine ⟨by omega, fun h => ⟨hfew (by omega), fun hcall => ?_⟩⟩
      obtain ⟨rr, hrr, hfirst, hretry⟩ := retried_of_reclassifies hcall
      have hlt := countP_lt hstays hrr hfirst hretry
      omega

/-- Rates over the same number of receipts tell their numerators apart. -/
lemma rateMetric_inj {m n total : ℕ} (hm : m ≤ total) (hn : n ≤ total)
    (h : rateMetric m total = rateMetric n total) : m = n := by
  rw [rateMetric, rateMetric] at h
  split at h
  · omega
  · exact (MetricValue.available.inj h).1

/-- **The rates count the attempts of the receipts** exactly in the runs without a
claim that reclassifies. -/
theorem countsAttempts_iff (calls : List Call) :
    CountsAttempts calls ↔ store.Along (fun db call => ¬ Reclassifies db call) Db.init calls := by
  constructor
  · rintro ⟨-, hretry, -⟩
    refine (retried_exec calls).2 (le_of_eq ?_)
    rw [← length_metricsRows calls] at hretry
    refine rateMetric_inj List.countP_le_length ?_ hretry
    rw [length_metricsRows calls]
    exact List.countP_le_length
  · intro h
    have hcount : ∀ p : Bool × Bool → Bool,
        (store.exec Db.init calls).tables.metricsRows.countP (p ∘ MetricsRow.counted) =
          (acceptedRows calls).countP (p ∘ MetricsRow.counted) := by
      intro p
      rw [← List.countP_map, counted_exec h, List.countP_map]
    refine ⟨?_, ?_, ?_⟩
    · rw [qualityMetrics, length_metricsRows]
      exact congrArg (rateMetric · _) (hcount Prod.fst)
    · rw [qualityMetrics, length_metricsRows]
      exact congrArg (rateMetric · _) (hcount Prod.snd)
    · rintro pre post rfl
      rw [counted_exec h, counted_exec (Machine.along_append.mp h).1, acceptedRows, acceptedRows,
        Machine.occs_append, List.filterMap_append, List.map_append]
      exact List.prefix_append _ _

/-- A task that is completed on its first attempt, rejected, and claimed again. -/
def reworkedRun : List Call :=
  [⟨.createTask sampleCard, 0⟩, ⟨.claim sampleCard.taskId "hermes_local" "worker-a" 30, 0⟩,
    ⟨.submitReceipt sampleReceipt, 1⟩, ⟨.requestApproval sampleApproval, 2⟩,
    ⟨.decideApproval sampleApproval.approvalId "rejected" "panda_os" "", 3⟩,
    ⟨.transition sampleCard.taskId .ready "rework", 4⟩,
    ⟨.claim sampleCard.taskId "hermes_local" "worker-b" 30, 5⟩]

/-- The claim after a rejected approval turns the first pass into a retry. -/
theorem not_countsAttempts : ¬ ∀ calls, CountsAttempts calls := by
  intro h
  have hbefore : (store.exec Db.init (reworkedRun.take 6)).tables.metricsRows.map
      MetricsRow.counted = [(true, false)] := by decide +kernel
  have hafter : (store.exec Db.init reworkedRun).tables.metricsRows.map
      MetricsRow.counted = [(false, true)] := by decide +kernel
  have hkept := (h reworkedRun).kept (reworkedRun.take 6) (reworkedRun.drop 6) rfl
  rw [hbefore, hafter] at hkept
  exact absurd hkept (by decide)

end ControlHarness

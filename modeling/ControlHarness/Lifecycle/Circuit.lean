import ControlHarness.Lifecycle.Orderly
import ControlHarness.Lifecycle.Outcome

/-!
Circuit breakers.

The row of a circuit is written by failure reports and receipts of all tasks
that share its key, and read by claims and releases. It says what the history
of these says (`circuit_agrees`): the failures since the last receipt that
closed the circuit are counted, the circuit is open from the third on, and it
stays open until the cooldown after the last of them.

* `countsAgainst`, `closes`: the answers that count against a circuit and the
  answers that close it.
* `failuresSince`: the steps of a run that count since the last closing one.
* `CircuitAgrees`: the row of a circuit and the counted steps agree; one step
  keeps it (`CircuitAgrees.next`).
-/

namespace ControlHarness

open Store

/-- A step of a run of the store. -/
abbrev StoreStep := Machine.Occ Db Call (Except Raised Reply)

/-- The circuit key of a task. -/
def Tables.circuitKeyOf (s : Tables) (t : UUID) : Option String :=
  (s.agentTasks.get? t).bind TaskRow.circuitKey

/-- The answer to the operation accepts a failure report of class transient or
rate_limited, its side effects not unknown, on a task of the circuit. -/
def countsAgainst (k : String) (s : Tables) : Op → Except Raised Reply → Bool
  | .reportFailure report _, .ok (.decision _) =>
      report.failureClass ∈ [.transient, .rateLimited] && report.sideEffectState ≠ .unknown &&
        s.circuitKeyOf report.taskId = some k
  | _, _ => false

/-- The answer to the operation accepts a receipt that moves a task of the
circuit to review. -/
def closes (k : String) (s : Tables) : Op → Except Raised Reply → Bool
  | .submitReceipt receipt, .ok (.row row) =>
      row.status = .review && s.circuitKeyOf receipt.taskId = some k
  | _, _ => false

/-- The step counts against the circuit. -/
def StoreStep.counts (k : String) (o : StoreStep) : Bool :=
  countsAgainst k o.before.tables o.input.op o.output

/-- The step closes the circuit. -/
def StoreStep.closing (k : String) (o : StoreStep) : Bool :=
  closes k o.before.tables o.input.op o.output

/-- The steps that count against the circuit since the last one that closed
it. -/
def failuresSince (k : String) (past : List StoreStep) : List StoreStep :=
  (past.rtakeWhile fun o => !StoreStep.closing k o).filter (StoreStep.counts k)

/-- The rules for counting since a reset apply to it. -/
lemma failuresSince_eq (k : String) (past : List StoreStep) :
    failuresSince k past = Machine.since (StoreStep.closing k) (StoreStep.counts k) past := rfl

/-! ### What a call does to a circuit -/

lemma countedCircuit_eq_some {task : TaskRow} {cls : FailureClass} {k : String} :
    countedCircuit task cls = some k ↔
      task.circuitKey = some k ∧ k ≠ "" ∧ cls ∈ circuitFailures := by
  rw [countedCircuit, Option.filter_eq_some_iff, decide_eq_true_iff]

lemma closedKey_eq_some {task : TaskRow} {target : TaskStatus} {k : String} :
    closedKey task target = some k ↔ task.circuitKey = some k ∧ target = .review ∧ k ≠ "" := by
  rw [closedKey, Option.filter_eq_some_iff, decide_eq_true_iff]

lemma get?_circuitsAfter (s : Tables) (now : Timestamp) (task : TaskRow) (cls : FailureClass)
    (k : String) :
    (circuitsAfter s now task cls).get? k
      = if countedCircuit task cls = some k
        then some (afterFailure k cls now (s.circuitBreakers.get? k))
        else s.circuitBreakers.get? k := by
  rw [circuitsAfter]
  cases countedCircuit task cls with
  | none => rw [Option.elim_none, if_neg (by simp)]
  | some key =>
      rw [Option.elim_some, get?_failedCircuits]
      by_cases hk : k = key
      · subst hk
        rw [if_pos rfl, if_pos rfl]
      · rw [if_neg hk, if_neg fun h => hk (Option.some.inj h).symm]

lemma get?_circuitsClosed (s : Tables) (now : Timestamp) (task : TaskRow) (target : TaskStatus)
    (k : String) :
    (circuitsClosed s now task target).get? k
      = if closedKey task target = some k
        then (s.circuitBreakers.get? k).map (closedCircuit now)
        else s.circuitBreakers.get? k := by
  rw [circuitsClosed]
  cases closedKey task target with
  | none => rw [Option.elim_none, if_neg (by simp)]
  | some key =>
      rw [Option.elim_some, Table.get?_updateKey]
      by_cases hk : k = key
      · subst hk
        rw [if_pos rfl, if_pos rfl]
      · rw [if_neg hk, if_neg fun h => hk (Option.some.inj h).symm]

/-- **What a call does to a circuit**: a counted failure is recorded, a closing
receipt closes the circuit, every other call leaves it alone. -/
inductive CircuitStep (k : String) (db : Db) (call : Call) : Prop where
  | failed (cls : FailureClass)
      (hcounts : countsAgainst k db.tables call.op (store.out call db) = true)
      (hcloses : closes k db.tables call.op (store.out call db) = false)
      (hnext : (store.next call db).tables.circuitBreakers.get? k
        = some (afterFailure k cls call.now (db.tables.circuitBreakers.get? k)))
  | closed (hcloses : closes k db.tables call.op (store.out call db) = true)
      (hnext : (store.next call db).tables.circuitBreakers.get? k
        = (db.tables.circuitBreakers.get? k).map (closedCircuit call.now))
  | kept (hcounts : countsAgainst k db.tables call.op (store.out call db) = false)
      (hcloses : closes k db.tables call.op (store.out call db) = false)
      (hnext : (store.next call db).tables.circuitBreakers.get? k
        = db.tables.circuitBreakers.get? k)

/-- No task has the empty text as its circuit key. -/
def NamedCircuits (s : Tables) : Prop :=
  ∀ t row, s.agentTasks.get? t = some row → row.circuitKey ≠ some ""

lemma Tables.circuitKeyOf_eq {s : Tables} {t : UUID} {row : TaskRow}
    (h : s.agentTasks.get? t = some row) : s.circuitKeyOf t = row.circuitKey := by
  rw [Tables.circuitKeyOf, h, Option.bind_some]

/-- An accepted failure report with known side effects counts exactly against
the counted circuit of its task. -/
lemma countsAgainst_decision {s : Tables} (hnamed : NamedCircuits s) {report : FailureReportV1}
    {task : TaskRow} (hrow : s.agentTasks.get? report.taskId = some task)
    (hrec : requiresRecovery report.failureClass report.sideEffectState = false) (id : UUID)
    (d : ResilienceDecision) (k : String) :
    countsAgainst k s (.reportFailure report id) (.ok (.decision d)) = true ↔
      countedCircuit task report.failureClass = some k := by
  have hknown : report.sideEffectState ≠ .unknown := by
    intro h
    rw [(requiresRecovery_iff report).mpr h] at hrec
    exact Bool.noConfusion hrec
  rw [countedCircuit_eq_some, countsAgainst, Tables.circuitKeyOf_eq hrow]
  simp only [Bool.and_eq_true, decide_eq_true_eq, circuitFailures]
  constructor
  · rintro ⟨⟨hcls, -⟩, hkey⟩
    refine ⟨hkey, ?_, hcls⟩
    rintro rfl
    exact hnamed _ _ hrow hkey
  · rintro ⟨hkey, -, hcls⟩
    exact ⟨⟨hcls, hknown⟩, hkey⟩

/-- The circuits after an accepted failure report with known side effects. -/
lemma circuitStep_decision {db : Db} {call : Call} {k : String} (hnamed : NamedCircuits db.tables)
    {report : FailureReportV1} {task : TaskRow} {id : UUID} {d : ResilienceDecision}
    (hop : call.op = .reportFailure report id) (hout : store.out call db = .ok (.decision d))
    (hrow : db.tables.agentTasks.get? report.taskId = some task)
    (hrec : requiresRecovery report.failureClass report.sideEffectState = false)
    (hnext : (store.next call db).tables.circuitBreakers
      = circuitsAfter db.tables call.now task report.failureClass) : CircuitStep k db call := by
  have hiff := countsAgainst_decision hnamed hrow hrec id d k
  by_cases hcounted : countedCircuit task report.failureClass = some k
  · refine .failed report.failureClass ?_ ?_ ?_
    · rw [hop, hout]
      exact hiff.mpr hcounted
    · rw [hop, hout]
      rfl
    · rw [hnext, get?_circuitsAfter, if_pos hcounted]
  · refine .kept ?_ ?_ ?_
    · rw [hop, hout]
      exact Bool.eq_false_iff.mpr fun h => hcounted (hiff.mp h)
    · rw [hop, hout]
      rfl
    · rw [hnext, get?_circuitsAfter, if_neg hcounted]

lemma circuitStep {db : Db} (hnamed : NamedCircuits db.tables) (call : Call) (k : String) :
    CircuitStep k db call := by
  obtain ⟨r, hout⟩ : ∃ r, store.out call db = r := ⟨_, rfl⟩
  obtain ⟨op, hop⟩ : ∃ op, call.op = op := ⟨_, rfl⟩
  obtain ⟨s', hs'⟩ : ∃ s', (store.next call db).tables = s' := ⟨_, rfl⟩
  have heff := effect_of_out hop hout
  rw [hs'] at heff
  have hkept : countsAgainst k db.tables op r = false → closes k db.tables op r = false →
      s'.circuitBreakers.get? k = db.tables.circuitBreakers.get? k → CircuitStep k db call := by
    intro hcounts hcloses hnext
    refine .kept ?_ ?_ ?_
    · rw [hop, hout]
      exact hcounts
    · rw [hop, hout]
      exact hcloses
    · rw [hs']
      exact hnext
  cases heff with
  | failed op e => exact hkept (by cases op <;> rfl) (by cases op <;> rfl) rfl
  | recovery report id task e₁ e₂ hrow hadm hrec =>
      refine hkept ?_ rfl rfl
      have hunknown := (requiresRecovery_iff report).mp hrec
      simp [countsAgainst, hunknown]
  | retryScheduled report id task e₁ e₂ delay hrow hadm hrec
  | deadLettered report id task e₁ e₂ letterId reason hrow hadm hrec =>
      exact circuitStep_decision hnamed hop hout hrow hrec (by rw [hs'])
  | stopped report id task e₁ action target hrow hadm hrec hstop =>
      refine hkept ?_ rfl rfl
      rcases hstop with ⟨hcls, -⟩ | ⟨hcls, -⟩ <;> simp [countsAgainst, hcls]
  | receiptAccepted receipt task receiptId evs hrow hown hexec hlog =>
      -- the receipt closes the circuit exactly when the task moved to review
      have hiff : closes k db.tables (.submitReceipt receipt)
            (.ok (.row (receiptRow task receipt))) = true ↔
          closedKey task (receiptTarget task receipt.outcome) = some k := by
        rw [closedKey_eq_some, closes, Tables.circuitKeyOf_eq hrow, receiptRow, movedRow_status]
        simp only [Bool.and_eq_true, decide_eq_true_eq]
        constructor
        · rintro ⟨hreview, hkey⟩
          refine ⟨hkey, hreview, ?_⟩
          rintro rfl
          exact hnamed _ _ hrow hkey
        · rintro ⟨hkey, hreview, -⟩
          exact ⟨hreview, hkey⟩
      by_cases hclosed : closedKey task (receiptTarget task receipt.outcome) = some k
      · refine .closed ?_ ?_
        · rw [hop, hout]
          exact hiff.mpr hclosed
        · rw [hs', get?_circuitsClosed, if_pos hclosed]
      · refine hkept rfl (Bool.eq_false_iff.mpr fun h => hclosed (hiff.mp h)) ?_
        rw [get?_circuitsClosed, if_neg hclosed]
  | _ => exact hkept rfl rfl rfl

/-! ### Keys -/

/-- The circuit key of every task names its route. -/
lemma namedCircuits_exec (calls : List Call) : NamedCircuits (store.exec Db.init calls).tables := by
  intro t
  refine Machine.invariant (M := store) (P := fun db : Db =>
    ∀ row, db.tables.agentTasks.get? t = some row → row.circuitKey ≠ some "") ?_ ?_
  · intro row hrow
    exact absurd hrow (by simp [Db.init, Tables.init])
  intro db call hnamed row' hrow'
  rcases view_next call db t with hview | hstep
  · exact hnamed row' ((congrArg TaskView.row hview).symm.trans hrow')
  · rcases hstep.sameCard with ⟨card, route, -, -, -, hrow⟩ | ⟨row, r, hrow, hr, hsame⟩
    · obtain rfl : newTask card route call.now = row' := Option.some.inj (hrow.symm.trans hrow')
      intro hkey
      have hlen := congrArg String.length (Option.some.inj hkey)
      simp at hlen
    · obtain rfl : r = row' := Option.some.inj (hr.symm.trans hrow')
      rw [hsame.circuitKey]
      exact hnamed row hrow

/-! ### The row and the history -/

/-- **The circuit agrees with the history**: its row against the steps that
count since it was last closed. -/
structure CircuitAgrees (failures : List StoreStep) (circuit : Option CircuitRow) : Prop where
  count : circuit.elim 0 CircuitRow.failureCount = failures.length
  openIff : circuit.any (·.state = .open) = true ↔ 3 ≤ failures.length
  threshold : ∀ c ∈ circuit, c.failureThreshold = circuitFailureThreshold
  openedAt : ∀ c ∈ circuit, c.openedAt.isSome ↔ c.state = .open
  openUntil : ∀ c ∈ circuit, c.openUntil = if c.state = .open
    then failures.getLast?.map (·.input.now + seconds circuitCooldownSeconds) else none

namespace CircuitAgrees

lemma none_nil : CircuitAgrees [] none where
  count := rfl
  openIff := by simp
  threshold := by simp
  openedAt := by simp
  openUntil := by simp

/-- A closed circuit agrees with a history without failures since. -/
lemma closed {failures : List StoreStep} {circuit : Option CircuitRow}
    (h : CircuitAgrees failures circuit) (now : Timestamp) :
    CircuitAgrees [] (circuit.map (closedCircuit now)) := by
  cases circuit with
  | none => exact none_nil
  | some c =>
      have hthreshold := h.threshold c rfl
      constructor <;> simp [closedCircuit, hthreshold]

/-- The counter after a counted failure is one more. -/
lemma failedCircuit_count {failures : List StoreStep} {circuit : Option CircuitRow}
    (h : CircuitAgrees failures circuit) (k : String) (cls : FailureClass) (now : Timestamp) :
    (failedCircuit k cls now circuit).failureCount = failures.length + 1 ∧
      (failedCircuit k cls now circuit).failureThreshold = 3 := by
  cases circuit with
  | none => exact ⟨congrArg (· + 1) h.count, rfl⟩
  | some c => exact ⟨congrArg (· + 1) h.count, h.threshold c rfl⟩

/-- A counted failure keeps the agreement. -/
lemma failed {failures : List StoreStep} {circuit : Option CircuitRow}
    (h : CircuitAgrees failures circuit) (k : String) (cls : FailureClass) (o : StoreStep) :
    CircuitAgrees (failures ++ [o]) (some (afterFailure k cls o.input.now circuit)) := by
  obtain ⟨hcount, hthreshold⟩ := h.failedCircuit_count k cls o.input.now
  have hlen : (failures ++ [o]).length = failures.length + 1 := List.length_append
  rw [afterFailure, hcount, hthreshold]
  split
  · -- below the threshold the circuit was closed and stays closed
    rename_i hlt
    have hclosed : ¬ circuit.any (·.state = .open) = true := by
      rw [h.openIff]
      omega
    have hstate : (failedCircuit k cls o.input.now circuit).state = .closed ∧
        (failedCircuit k cls o.input.now circuit).openedAt = none ∧
        (failedCircuit k cls o.input.now circuit).openUntil = none := by
      cases circuit with
      | none => exact ⟨rfl, rfl, rfl⟩
      | some c =>
          have hne : c.state ≠ .open := by simpa using hclosed
          have hopened : c.openedAt = none := by
            have hiff := h.openedAt c rfl
            rw [← Option.not_isSome_iff_eq_none, hiff]
            exact hne
          have huntil : c.openUntil = none := by
            rw [h.openUntil c rfl, if_neg hne]
          refine ⟨?_, hopened, huntil⟩
          cases hc : c.state with
          | closed => exact hc
          | «open» => exact absurd hc hne
    obtain ⟨hclosed', hopened, huntil⟩ := hstate
    constructor
    · rw [Option.elim_some, hcount, hlen]
    · rw [hlen]
      simp only [Option.any_some, hclosed', decide_eq_true_eq, reduceCtorEq, false_iff]
      omega
    · rintro c ⟨⟩
      exact hthreshold
    · rintro c ⟨⟩
      simp [hclosed', hopened]
    · rintro c ⟨⟩
      simp [hclosed', huntil]
  · -- from the threshold on the circuit is opened, or opened again
    rename_i hge
    constructor
    · rw [Option.elim_some, hlen]
      exact hcount
    · rw [hlen]
      simp only [Option.any_some, openedCircuit, decide_true, true_iff]
      omega
    · rintro c ⟨⟩
      exact hthreshold
    · rintro c ⟨⟩
      simp [openedCircuit]
    · rintro c ⟨⟩
      simp [openedCircuit, List.getLast?_append]

/-- **The step of the agreement.** -/
lemma next {k : String} {past : List StoreStep} {db : Db} {call : Call}
    (h : CircuitAgrees (failuresSince k past) (db.tables.circuitBreakers.get? k))
    (hnamed : NamedCircuits db.tables) :
    CircuitAgrees (failuresSince k (past ++ [store.occ db call]))
      ((store.next call db).tables.circuitBreakers.get? k) := by
  cases circuitStep hnamed call k with
  | failed cls hcounts hcloses hnext =>
      rw [hnext, failuresSince_eq,
        Machine.since_keep (o := store.occ db call) hcloses hcounts]
      exact h.failed k cls (store.occ db call)
  | closed hcloses hnext =>
      rw [hnext, failuresSince_eq,
        Machine.since_stop (o := store.occ db call) hcloses]
      exact h.closed call.now
  | kept hcounts hcloses hnext =>
      rw [hnext, failuresSince_eq,
        Machine.since_other (o := store.occ db call) hcloses hcounts]
      exact h

end CircuitAgrees

lemma circuitAgrees_exec (calls : List Call) (k : String) :
    CircuitAgrees (failuresSince k (store.occs Db.init calls))
      ((store.exec Db.init calls).tables.circuitBreakers.get? k) := by
  induction calls using List.reverseRecOn with
  | nil =>
      rw [Machine.occs_nil, failuresSince_eq, Machine.since_nil]
      exact CircuitAgrees.none_nil
  | append_singleton calls call ih =>
      rw [Machine.occs_concat, Machine.exec_concat]
      exact ih.next (namedCircuits_exec calls)

/-- An open circuit holds back the tasks of its key until the cooldown is
over. -/
lemma circuitBlocks_of_open {s : Tables} {c : CircuitRow} {k : String} {now until_ : Timestamp}
    {row : TaskRow} (hc : s.circuitBreakers.get? k = some c) (hopen : c.state = .open)
    (huntil : c.openUntil = some until_) (hkey : row.circuitKey = some k) (hlt : now < until_) :
    circuitBlocks s now row = true := by
  rw [circuitBlocks, List.any_eq_true]
  refine ⟨c, Table.mem_of_get? hc, ?_⟩
  have hck : c.circuitKey = k := Table.key_of_get? hc
  simp [hck, hkey, hopen, huntil, hlt]

/-- A claim or a release of a task finds its circuit passable. -/
lemma not_circuitBlocks {db : Db} {call : Call} {t : UUID} {row : TaskRow}
    (hrow : db.tables.agentTasks.get? t = some row)
    (h : (∃ w, Claims db call t w) ∨ Releases db call t) :
    circuitBlocks db.tables call.now row = false := by
  rcases h with ⟨w, hclaim⟩ | hrelease
  · obtain ⟨role, mins, r, -, hr, hclaimable, -⟩ := hclaim.spec
    obtain rfl : r = row := Option.some.inj (hr.symm.trans hrow)
    simp only [claimable, Bool.and_eq_true, Bool.not_eq_true'] at hclaimable
    exact hclaimable.2
  · obtain ⟨r, hr, hreleasable⟩ := hrelease.spec
    obtain rfl : r = row := Option.some.inj (hr.symm.trans hrow)
    simp only [releasable, Bool.and_eq_true, Bool.not_eq_true'] at hreleasable
    exact hreleasable.2

/-- **The circuit breaker agrees with history**: after every run, the row of a
circuit says how many failures were counted against it since it was last
closed, it is open from the third on until the cooldown after the last, and
until then no task of the circuit is claimed or released. -/
theorem circuit_agrees (calls : List Call) (k : String) :
    CircuitAgrees (failuresSince k (store.occs Db.init calls))
        ((store.exec Db.init calls).tables.circuitBreakers.get? k) ∧
      ∀ call t row last, (store.exec Db.init calls).tables.agentTasks.get? t = some row →
        row.circuitKey = some k →
        3 ≤ (failuresSince k (store.occs Db.init calls)).length →
        (failuresSince k (store.occs Db.init calls)).getLast? = some last →
        call.now < last.input.now + seconds circuitCooldownSeconds →
        (∀ w, ¬ Claims (store.exec Db.init calls) call t w) ∧
          ¬ Releases (store.exec Db.init calls) call t := by
  have hagrees := circuitAgrees_exec calls k
  refine ⟨hagrees, ?_⟩
  intro call t row last hrow hkey hthird hlast hearly
  have hopen := hagrees.openIff.mpr hthird
  rw [Option.any_eq_true] at hopen
  obtain ⟨c, hc, hstate⟩ := hopen
  have hstate : c.state = .open := by simpa using hstate
  have huntil := hagrees.openUntil c hc
  rw [if_pos hstate, hlast, Option.map_some] at huntil
  have hblocks := circuitBlocks_of_open hc hstate huntil hkey hearly
  have hpass : ¬ ((∃ w, Claims (store.exec Db.init calls) call t w) ∨
      Releases (store.exec Db.init calls) call t) := by
    intro h
    rw [not_circuitBlocks hrow h] at hblocks
    exact Bool.noConfusion hblocks
  exact ⟨fun w hw => hpass (Or.inl ⟨w, hw⟩), fun h => hpass (Or.inr h)⟩

/-- Two tasks of one route whose attempts fail three times. -/
def thirdFailureRun : List Call :=
  [⟨.createTask sampleCard, 0⟩, ⟨.createTask siblingCard, 0⟩,
    ⟨.claim sampleCard.taskId "hermes_local" "worker-a" 30, 0⟩,
    ⟨.claim siblingCard.taskId "hermes_local" "worker-a" 30, 0⟩,
    ⟨.reportFailure sampleReport ⟨9⟩, 1⟩,
    ⟨.reportFailure { sampleReport with taskId := siblingCard.taskId } ⟨9⟩, 1⟩,
    ⟨.releaseDueRetries, minutes 10⟩,
    ⟨.claim sampleCard.taskId "hermes_local" "worker-a" 30, minutes 10⟩,
    ⟨.reportFailure sampleReport ⟨9⟩, minutes 11⟩]

/-- After the third failure the other task, though ready, is not claimed. -/
theorem circuit_agrees_third :
    ¬ Claims (store.exec Db.init thirdFailureRun)
      ⟨.claim siblingCard.taskId "hermes_local" "worker-b" 30, minutes 12⟩ siblingCard.taskId
      "worker-b" := by
  have hkey : (store.exec Db.init thirdFailureRun).tables.circuitKeyOf siblingCard.taskId
      = some "route:anthropic_oauth_reasoner" := by decide +kernel
  have hlast : (failuresSince "route:anthropic_oauth_reasoner"
      (store.occs Db.init thirdFailureRun)).getLast?.map (·.input.now) = some (minutes 11) := by
    decide +kernel
  obtain ⟨row, hrow, hkey⟩ := Option.bind_eq_some_iff.mp hkey
  obtain ⟨last, hlast, hnow⟩ := Option.map_eq_some_iff.mp hlast
  have hearly : minutes 12 < last.input.now + seconds circuitCooldownSeconds := by
    rw [hnow]
    decide
  exact ((circuit_agrees thirdFailureRun "route:anthropic_oauth_reasoner").2 _ _ row last hrow
    hkey (by decide +kernel) hlast hearly).1 "worker-b"
end ControlHarness

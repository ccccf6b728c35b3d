import ControlHarness.General.Unwinding
import ControlHarness.Lifecycle.Circuit
import ControlHarness.Store.ReceiptLog
import ControlHarness.Store.Restriction

/-!
Evidence tasks and operational tasks.

The quality metrics and the risks panel count operational tasks only. Whether
evidence tasks have an influence on operational ones is a question about two
runs: the run as it is, and the run without the operations on evidence tasks.
The operations on operational tasks succeed and fail alike in both, and both
end with the same metrics and the same risks, as long as no operation on an
evidence task writes a circuit of an operational task and no identifier of the
one is taken by the other (`evidence_without_influence`). The circuits belong
to routes, which both kinds of tasks share, so the first condition is not kept
by the code (`evidence_has_influence`).

* `Op.onEvidence`: the operations on evidence tasks.
* `Op.Separate`: the condition of a step.
* `metricsRows_eq_restrict`, `risksPanel_restrict`: the metrics and the risks
  are read off the operational part of the ledger.
-/

namespace ControlHarness

open Store

/-- The task exists and its card is an evidence card. -/
def Tables.hasEvidence (s : Tables) (taskId : UUID) : Bool :=
  (s.agentTasks.get? taskId).any fun r => !r.operational

/-- The operation addresses a task whose card is an evidence card. -/
def Op.onEvidence (s : Tables) : Op → Bool
  | .createTask card => card.projectionKind = .evidence
  | .claim t _ _ _ | .heartbeat t _ _ | .transition t _ _ => s.hasEvidence t
  | .expireLeases _ | .releaseDueRetries => false
  | .reportFailure report _ => s.hasEvidence report.taskId
  | .submitReceipt receipt => s.hasEvidence receipt.taskId
  | .requestApproval card => s.hasEvidence card.taskId
  | .decideApproval approvalId _ _ _ =>
      (s.approvals.get? approvalId).any fun a => s.hasEvidence a.taskId

/-- The circuit of the route of a card. -/
def routeCircuit (card : TaskCardV1) : Option String :=
  card.modelRouting.defaultRoute.head?.map ("route:" ++ ·)

/-- The circuits of the operational cards of a run. -/
def operationalCircuits (calls : List Call) : List String :=
  calls.filterMap fun c =>
    match c.op with
    | .createTask card => if card.projectionKind = .operational then routeCircuit card else none
    | _ => none

/-- The identifiers that `uuid4` draws for an operation are fresh. -/
def Op.Fresh (now : Timestamp) (s : Tables) : Op → Prop
  | .requestApproval card => s.approvals.get? card.approvalId = none
  | .reportFailure _ recoveryId => s.recoveryCards.get? recoveryId = none
  | .expireLeases recoveryIds =>
      ((s.agentTasks.rows.filter (expired now)).map fun r => recoveryIds r.taskId).Nodup ∧
        ∀ r ∈ s.agentTasks.rows.filter (expired now),
          s.recoveryCards.get? (recoveryIds r.taskId) = none
  | _ => True

/-- An operation on an evidence task writes none of the circuits, and an
operational card brings no identifier of an evidence task. -/
def Op.Separate (circuits : List String) (s : Tables) : Op → Prop
  | .createTask card => card.projectionKind = .operational →
      ∀ row ∈ s.agentTasks.rows, row.operational = false →
        row.taskId ≠ card.taskId ∧ row.idempotencyKey ≠ card.idempotencyKey
  | .reportFailure report _ => ∀ row ∈ s.agentTasks.get? report.taskId,
      row.operational = false → Admitted report row →
        requiresRecovery report.failureClass report.sideEffectState = false →
          ∀ key ∈ countedCircuit row report.failureClass, key ∉ circuits
  | .submitReceipt receipt => ∀ row ∈ s.agentTasks.get? receipt.taskId,
      row.operational = false → row.ownerInstance = some receipt.workerInstance →
        row.status.IsExecution →
          ∀ key ∈ closedKey row (receiptTarget row receipt.outcome),
            (s.circuitBreakers.get? key).isSome → key ∉ circuits
  | _ => True

instance (now : Timestamp) (s : Tables) : DecidablePred (Op.Fresh now s)
  | .requestApproval card =>
      inferInstanceAs (Decidable (s.approvals.get? card.approvalId = none))
  | .reportFailure _ recoveryId =>
      inferInstanceAs (Decidable (s.recoveryCards.get? recoveryId = none))
  | .expireLeases _ => inferInstanceAs (Decidable (List.Nodup _ ∧ ∀ r ∈ _, _))
  | .createTask _ | .claim .. | .heartbeat .. | .releaseDueRetries | .submitReceipt _ =>
      isTrue trivial
  | .decideApproval .. | .transition .. => isTrue trivial

instance (circuits : List String) (s : Tables) : DecidablePred (Op.Separate circuits s)
  | .createTask _ => inferInstanceAs (Decidable (_ → ∀ row ∈ _, _))
  | .reportFailure .. => inferInstanceAs (Decidable (∀ row ∈ _, _))
  | .submitReceipt _ => inferInstanceAs (Decidable (∀ row ∈ _, _))
  | .claim .. | .heartbeat .. | .releaseDueRetries | .requestApproval _ | .expireLeases _ =>
      isTrue trivial
  | .decideApproval .. | .transition .. => isTrue trivial

/-! ### Metrics and risks of the operational part -/

/-- The tasks of the part are the operational ones. -/
def Tables.Operational (p : Part) (s : Tables) : Prop :=
  ∀ t row, s.agentTasks.get? t = some row → row.operational = p.keep t

section

variable {p : Part} {s : Tables}

/-- The rows of the metrics do not depend on the numbers of the receipts. -/
lemma metricsRows_ledger {last : ℕ} (h : Serial ReceiptRow.receiptId s.routingReceipts last) :
    s.metricsRows = s.ledger.routingReceipts.filterMap fun rr =>
      metricsRow s.agentTasks rr.taskId rr.outcome rr.receipt := by
  rw [Tables.metricsRows_eq h, Tables.ledger, List.filterMap_map]
  rfl

/-- The lookup of an operational task. -/
lemma operational_restrict (hop : s.Operational p) (t : UUID) :
    ((s.restrict p).agentTasks.get? t).filter TaskRow.operational
      = (s.agentTasks.get? t).filter TaskRow.operational := by
  rw [get?_restrict]
  cases hrow : s.agentTasks.get? t with
  | none => rfl
  | some row =>
      have hkey : row.taskId = t := Table.key_of_get? hrow
      have hkeep := hop t row hrow
      rw [Option.filter_some, hkey, ← hkeep]
      cases hoper : row.operational with
      | true => rfl
      | false =>
          rw [if_neg Bool.false_ne_true, Option.filter_some, hoper, if_neg Bool.false_ne_true]
          rfl

lemma keep_of_operational (hop : s.Operational p) {t : UUID} {row : TaskRow}
    (h : (s.agentTasks.get? t).filter TaskRow.operational = some row) : p.keep t = true := by
  obtain ⟨hrow, hoper⟩ := Option.filter_eq_some_iff.mp h
  rw [← hop t row hrow, hoper]

/-- The rows of the metrics are those of the operational part. -/
lemma metricsRows_restrict (hop : s.Operational p) :
    ((s.restrict p).routingReceipts.filterMap fun rr =>
      metricsRow (s.restrict p).agentTasks rr.taskId rr.outcome rr.receipt)
      = s.routingReceipts.filterMap fun rr =>
        metricsRow s.agentTasks rr.taskId rr.outcome rr.receipt := by
  have hrow : ∀ rr : ReceiptRow,
      metricsRow (s.restrict p).agentTasks rr.taskId rr.outcome rr.receipt
        = metricsRow s.agentTasks rr.taskId rr.outcome rr.receipt := by
    intro rr
    rw [metricsRow, metricsRow, operational_restrict hop]
  have hrows : (s.restrict p).routingReceipts
      = s.routingReceipts.filter fun rr => p.keep rr.taskId := rfl
  rw [hrows, List.filterMap_filter]
  refine List.filterMap_congr fun rr _ => ?_
  rw [hrow]
  split
  · rfl
  · rename_i hout
    rw [metricsRow]
    cases hfilter : (s.agentTasks.get? rr.taskId).filter TaskRow.operational with
    | none => rfl
    | some row => exact absurd (keep_of_operational hop hfilter) hout

lemma hasOperational_eq (t : UUID) :
    s.hasOperational t = ((s.agentTasks.get? t).filter TaskRow.operational).isSome := by
  rw [Tables.hasOperational]
  cases s.agentTasks.get? t with
  | none => rfl
  | some row => cases hoper : row.operational <;> simp [Option.filter_some, hoper]

lemma hasOperational_restrict (hop : s.Operational p) (t : UUID) :
    (s.restrict p).hasOperational t = s.hasOperational t := by
  rw [hasOperational_eq, hasOperational_eq, operational_restrict hop]

lemma keep_of_hasOperational (hop : s.Operational p) {t : UUID} (h : s.hasOperational t = true) :
    p.keep t = true := by
  rw [hasOperational_eq, Option.isSome_iff_exists] at h
  obtain ⟨row, hrow⟩ := h
  exact keep_of_operational hop hrow

/-- The operational tasks are those of the part. -/
lemma tasks_restrict (hop : s.Operational p) :
    (s.restrict p).agentTasks.rows.filter TaskRow.operational
      = s.agentTasks.rows.filter TaskRow.operational := by
  rw [Tables.restrict, Table.rows_select, List.filter_filter]
  refine List.filter_congr fun row hrow => ?_
  rw [← hop row.taskId row (Table.get?_of_mem hrow), Bool.and_self]

/-- A count over rows, all of those counted in the selection. -/
lemma countP_filter_of_imp {α : Type} {q keep : α → Bool} {rows : List α}
    (h : ∀ r ∈ rows, q r = true → keep r = true) : (rows.filter keep).countP q = rows.countP q := by
  rw [List.countP_filter]
  refine List.countP_congr fun r hr => ?_
  constructor
  · intro hq
    exact (Bool.and_eq_true _ _ ▸ hq).1
  · intro hq
    rw [hq, h r hr hq]
    rfl

/-- The risks panel is that of the operational part. -/
lemma risksPanel_restrict (hop : s.Operational p) (hfits : s.Fits p) (now : Timestamp) :
    risksPanel (s.restrict p) now = risksPanel s now := by
  have hletters : (s.restrict p).deadLetters.countP (fun l =>
        l.resolvedAt.isNone && (s.restrict p).hasOperational l.taskId)
      = s.deadLetters.countP fun l => l.resolvedAt.isNone && s.hasOperational l.taskId := by
    simp only [hasOperational_restrict hop]
    refine countP_filter_of_imp fun l _ hl => ?_
    rw [Bool.and_eq_true] at hl
    exact keep_of_hasOperational hop hl.2
  have hcards : (s.restrict p).recoveryCards.rows.countP (fun c =>
        c.status = "open" && (s.restrict p).hasOperational c.taskId)
      = s.recoveryCards.rows.countP fun c => c.status = "open" && s.hasOperational c.taskId := by
    simp only [hasOperational_restrict hop]
    refine countP_filter_of_imp fun c _ hc => ?_
    rw [Bool.and_eq_true] at hc
    exact keep_of_hasOperational hop hc.2
  have hcircuits : (s.restrict p).circuitBreakers.rows.countP (fun c =>
        c.state = .open && c.openUntil.any (now < ·) &&
          (s.agentTasks.rows.filter TaskRow.operational).any fun r =>
            r.circuitKey = some c.circuitKey)
      = s.circuitBreakers.rows.countP fun c => c.state = .open && c.openUntil.any (now < ·) &&
          (s.agentTasks.rows.filter TaskRow.operational).any fun r =>
            r.circuitKey = some c.circuitKey := by
    refine countP_filter_of_imp fun c _ hc => ?_
    rw [Bool.and_eq_true, List.any_eq_true] at hc
    obtain ⟨-, row, hrow, hkey⟩ := hc
    obtain ⟨hmem, hoper⟩ := List.mem_filter.mp hrow
    have hget := Table.get?_of_mem hmem
    have hkeep : p.keep row.taskId = true := by rw [← hop _ _ hget, hoper]
    exact hfits _ row hget hkeep _ (of_decide_eq_true hkey)
  rw [risksPanel, risksPanel]
  simp only [tasks_restrict hop, hletters, hcards, hcircuits]

lemma risksPanel_ledger (now : Timestamp) : risksPanel s.ledger now = risksPanel s now := by
  have hletters : s.ledger.deadLetters.countP (fun l =>
        l.resolvedAt.isNone && s.ledger.hasOperational l.taskId)
      = s.deadLetters.countP fun l => l.resolvedAt.isNone && s.hasOperational l.taskId := by
    rw [Tables.ledger, List.countP_map]
    rfl
  rw [risksPanel, risksPanel]
  simp only [hletters]
  rfl

end

/-! ### The operational part of a run -/

/-- The ledger of the restricted tables. -/
lemma ledger_restrict (p : Part) (s : Tables) : s.ledger.restrict p = (s.restrict p).ledger := by
  refine Tables.eq_of rfl rfl rfl ?_ rfl ?_ rfl
  · exact List.filter_map
  · exact List.filter_map

/-- The tasks that are operational at the end of a run, or do not exist, and the
circuits of its operational cards. -/
def operationalPart (calls : List Call) : Part where
  keep t := !(store.exec Db.init calls).tables.hasEvidence t
  circuits k := k ∈ operationalCircuits calls

/-- The row that `create_task` inserts. -/
lemma created_next {db : Db} {card : TaskCardV1} {route : String} (now : Timestamp)
    (hroute : card.modelRouting.defaultRoute.head? = some route)
    (hkey : db.tables.agentTasks.rows.find? (fun r => r.idempotencyKey = card.idempotencyKey)
      = none) (hfresh : db.tables.agentTasks.get? card.taskId = none) :
    (store.next ⟨.createTask card, now⟩ db).tables.agentTasks.get? card.taskId
      = some (newTask card route now) := by
  have hpost : (Op.createTask card).post now db.tables = some { db.tables with
      agentTasks := db.tables.agentTasks.insert (newTask card route now) } := by
    rw [Op.post, hroute, Option.bind_some, hkey, Option.elim_none, hfresh, Option.elim_none]
  have hledger := (store_post ⟨.createTask card, now⟩ db).2
  rw [hpost, Option.getD_some] at hledger
  have htasks := congrArg Tables.agentTasks hledger
  rw [Tables.ledger_agentTasks, Tables.ledger_agentTasks] at htasks
  rw [htasks, Table.get?_insert (by exact hfresh), newTask_taskId, if_pos rfl]

/-- A task that is new after a call was created by it. -/
lemma created_of_effect {now : Timestamp} {s s' : Tables} {card : TaskCardV1}
    {reply : Except Raised Reply} {t : UUID} {row : TaskRow}
    (h : Effect now s (.createTask card) reply s') (hnone : s.agentTasks.get? t = none)
    (hrow : s'.agentTasks.get? t = some row) :
    ∃ route, card.modelRouting.defaultRoute.head? = some route ∧ row = newTask card route now := by
  cases h with
  | failed | existing => exact absurd (hrow.symm.trans hnone) (by simp)
  | created card route eventId hroute hkey hfresh =>
      rw [Table.get?_insert (by exact hfresh)] at hrow
      split at hrow
      · exact ⟨route, hroute, (Option.some.inj hrow).symm⟩
      · exact absurd (hrow.symm.trans hnone) (by simp)

/-- The circuit of an operational task is that of an operational card of the
run. -/
lemma circuitKey_exec (calls : List Call) (t : UUID) (row : TaskRow)
    (hrow : (store.exec Db.init calls).tables.agentTasks.get? t = some row)
    (hoper : row.operational = true) (key : String) (hkey : row.circuitKey = some key) :
    key ∈ operationalCircuits calls := by
  induction calls using List.reverseRecOn generalizing row with
  | nil => exact absurd hrow (by simp [Db.init, Tables.init])
  | append_singleton calls c ih =>
      rw [operationalCircuits, List.filterMap_append, List.mem_append]
      rw [Machine.exec_concat] at hrow
      cases hold : (store.exec Db.init calls).tables.agentTasks.get? t with
      | some old =>
          obtain ⟨row', hrow', hsame⟩ := sameCard_next c hold
          obtain rfl : row = row' := Option.some.inj (hrow.symm.trans hrow')
          refine Or.inl (ih old hold ?_ ?_)
          · rw [TaskRow.operational, ← hsame.card]
            exact hoper
          · rw [← hsame.circuitKey, hkey]
      | none =>
          rcases view_next c (store.exec Db.init calls) t with hview | hstep
          · exact absurd ((congrArg TaskView.row hview).symm.trans hrow)
              (by simp [Tables.view, hold])
          rcases hstep.sameCard with ⟨card, -, hop, -⟩ | ⟨r, -, hr, -⟩
          · have heffect := store_effect c (store.exec Db.init calls)
            rw [hop] at heffect
            obtain ⟨route, hroute, rfl⟩ := created_of_effect heffect hold hrow
            refine Or.inr ?_
            have hcard : card.projectionKind = .operational := of_decide_eq_true hoper
            have hcircuit : routeCircuit card = some key := by
              rw [routeCircuit, hroute]
              exact hkey
            rw [List.mem_filterMap]
            refine ⟨c, List.mem_singleton_self c, ?_⟩
            rw [hop]
            dsimp only
            rw [if_pos hcard, hcircuit]
          · exact absurd (hr.symm.trans hold) (by simp)

/-- Along a run the tasks of its operational part are the operational ones. -/
lemma operational_exec {calls pre post : List Call} (h : calls = pre ++ post) :
    (store.exec Db.init pre).tables.Operational (operationalPart calls) := by
  intro t row hrow
  obtain ⟨row', hrow', hsame⟩ := sameCard_exec post hrow
  have hfinal : (store.exec Db.init calls).tables.agentTasks.get? t = some row' := by
    rw [h, Machine.exec_append]
    exact hrow'
  have hoper : row'.operational = row.operational := by
    rw [TaskRow.operational, TaskRow.operational, hsame.card]
  have hkeep : (operationalPart calls).keep t
      = !((store.exec Db.init calls).tables.agentTasks.get? t).any fun r => !r.operational := rfl
  rw [hkeep, hfinal, Option.any_some, hoper, Bool.not_not]

/-- Along a run the circuits of its operational part are those of its tasks. -/
lemma fits_exec {calls pre post : List Call} (h : calls = pre ++ post) :
    (store.exec Db.init pre).tables.Fits (operationalPart calls) := by
  intro t row hrow hkeep key hkey
  have hoper : row.operational = true := (operational_exec h t row hrow).trans hkeep
  have hmem := circuitKey_exec pre t row hrow hoper key hkey
  refine decide_eq_true ?_
  rw [h, operationalCircuits, List.filterMap_append]
  exact List.mem_append_left _ hmem

section

variable {p : Part} {db : Db} {call : Call}

lemma kept_of_not_hasEvidence (hop : db.tables.Operational p) {t : UUID}
    (h : db.tables.hasEvidence t = false) : db.tables.Kept p t := by
  intro row hrow
  rw [Tables.hasEvidence, hrow, Option.any_some, Bool.not_eq_false'] at h
  rw [← hop t row hrow, h]

lemma keep_of_hasEvidence (hop : db.tables.Operational p) {t : UUID}
    (h : db.tables.hasEvidence t = true) : p.keep t = false := by
  rw [Tables.hasEvidence, Option.any_eq_true] at h
  obtain ⟨row, hrow, hoper⟩ := h
  rw [← hop t row hrow]
  simpa using hoper

/-- An operation that is not on an evidence task is inside of the operational
part. -/
lemma inside_of_visible (hop : db.tables.Operational p)
    (hop' : (store.next call db).tables.Operational p)
    (hfresh : call.op.Fresh call.now db.tables) {circuits : List String}
    (hsep : call.op.Separate circuits db.tables) (h : call.op.onEvidence db.tables = false) :
    call.op.Inside p call.now db.tables := by
  obtain ⟨op, now⟩ := call
  cases op with
  | createTask card =>
      have hcard : card.projectionKind = .operational := by
        cases hkind : card.projectionKind with
        | operational => rfl
        | evidence =>
            have hne : card.projectionKind ≠ .evidence := of_decide_eq_false h
            exact absurd hkind hne
      constructor
      · intro row hrow htaken
        rw [← hop row.taskId row (Table.get?_of_mem hrow)]
        by_contra hevidence
        obtain ⟨hid, hkey⟩ := hsep hcard row hrow (Bool.eq_false_iff.mpr hevidence)
        exact htaken.elim hkey hid
      · intro route hroute hkey hnone
        rw [← hop' card.taskId _ (created_next now hroute hkey hnone)]
        exact decide_eq_true hcard
  | claim t role worker mins | heartbeat t worker mins | transition t target reason =>
      exact kept_of_not_hasEvidence hop h
  | expireLeases recoveryIds =>
      obtain ⟨hdistinct, hnew⟩ := hfresh
      refine Table.append?_isSome ?_ ?_
      · rw [List.map_map]
        exact hdistinct
      · intro card hcard
        obtain ⟨r, hr, rfl⟩ := List.mem_map.mp hcard
        exact hnew r hr
  | reportFailure report recoveryId => exact ⟨kept_of_not_hasEvidence hop h, hfresh⟩
  | releaseDueRetries => trivial
  | submitReceipt receipt => exact kept_of_not_hasEvidence hop h
  | requestApproval card => exact ⟨kept_of_not_hasEvidence hop h, hfresh⟩
  | decideApproval approvalId decision decidedBy reason =>
      intro a ha
      have hnone : ((db.tables.approvals.get? approvalId).any fun a =>
        db.tables.hasEvidence a.taskId) = false := h
      rw [ha, Option.any_some] at hnone
      exact kept_of_not_hasEvidence hop hnone

/-- An operation on an evidence task is outside of the operational part. -/
lemma outside_of_hidden {calls : List Call}
    (hop : db.tables.Operational (operationalPart calls))
    (hop' : (store.next call db).tables.Operational (operationalPart calls))
    (hsep : call.op.Separate (operationalCircuits calls) db.tables)
    (h : call.op.onEvidence db.tables = true) :
    call.op.Outside (operationalPart calls) db.tables := by
  obtain ⟨op, now⟩ := call
  have hrow : ∀ {t row}, db.tables.agentTasks.get? t = some row →
      (operationalPart calls).keep t = false → row.operational = false := by
    intro t row hrow hkeep
    rw [hop t row hrow, hkeep]
  cases op with
  | createTask card =>
      have hcard : card.projectionKind = .evidence := of_decide_eq_true h
      intro route hroute hkey hnone
      rw [← hop' card.taskId _ (created_next now hroute hkey hnone)]
      exact decide_eq_false (by rw [newTask, hcard]; decide)
  | claim t role worker mins | heartbeat t worker mins | transition t target reason =>
      exact keep_of_hasEvidence hop h
  | expireLeases recoveryIds | releaseDueRetries => exact Bool.noConfusion h
  | reportFailure report recoveryId =>
      have hkeep := keep_of_hasEvidence hop h
      refine ⟨hkeep, fun row hget hadm hrec key hcounted => ?_⟩
      exact decide_eq_false (hsep row hget (hrow hget hkeep) hadm hrec key hcounted)
  | submitReceipt receipt =>
      have hkeep := keep_of_hasEvidence hop h
      refine ⟨hkeep, fun row hget hown hexec key hclosed hsome => ?_⟩
      exact decide_eq_false (hsep row hget (hrow hget hkeep) hown hexec key hclosed hsome)
  | requestApproval card => exact keep_of_hasEvidence hop h
  | decideApproval approvalId decision decidedBy reason =>
      intro a ha
      have hsome : ((db.tables.approvals.get? approvalId).any fun a =>
        db.tables.hasEvidence a.taskId) = true := h
      rw [ha, Option.any_some] at hsome
      exact keep_of_hasEvidence hop hsome

end

/-! ### Two runs -/

/-- The state of the run without the operations on evidence tasks shows the
operational part of the other. -/
def Shows (p : Part) (db db' : Db) : Prop :=
  db'.tables.ledger = (db.tables.restrict p).ledger

/-- A call that is outside of the part. -/
lemma Shows.hidden {p : Part} {db db' : Db} {call : Call} (h : Shows p db db')
    (hout : call.op.Outside p db.tables) : Shows p (store.next call db) db' := by
  have hsame : (store.next call db).tables.ledger.restrict p = db.tables.ledger.restrict p := by
    rw [(store_post call db).2, ledger_restrict, ledger_restrict]
    cases hpost : call.op.post call.now db.tables with
    | none => rfl
    | some s' => rw [Option.getD_some, post_restrict_outside hout hpost]
  rw [ledger_restrict, ledger_restrict] at hsame
  exact h.trans hsame.symm

/-- A call that is inside of the part. -/
lemma Shows.visible {p : Part} {db db' : Db} {call : Call} (h : Shows p db db')
    (hfits : db.tables.Fits p) (hin : call.op.Inside p call.now db.tables) :
    Shows p (store.next call db) (store.next call db') ∧
      succeeded (store.out call db) = succeeded (store.out call db') := by
  have hpost : (call.op.post call.now db'.tables).map Tables.ledger
      = ((call.op.post call.now db.tables).map (Tables.restrict p)).map Tables.ledger := by
    calc (call.op.post call.now db'.tables).map Tables.ledger
        = call.op.post call.now db'.tables.ledger := (Op.post_ledger _ _ _).symm
      _ = call.op.post call.now (db.tables.restrict p).ledger := by rw [h]
      _ = (call.op.post call.now (db.tables.restrict p)).map Tables.ledger := Op.post_ledger _ _ _
      _ = ((call.op.post call.now db.tables).map (Tables.restrict p)).map Tables.ledger := by
          rw [post_restrict hfits hin]
  obtain ⟨hout, hnext⟩ := store_post call db
  obtain ⟨hout', hnext'⟩ := store_post call db'
  cases hs : call.op.post call.now db.tables with
  | none =>
      rw [hs, Option.map_none, Option.map_none, Option.map_eq_none_iff] at hpost
      rw [hpost, Option.getD_none] at hnext'
      rw [hs, Option.getD_none] at hnext
      rw [hout, hout', hs, hpost]
      refine ⟨?_, rfl⟩
      rw [Shows, hnext', ← ledger_restrict, hnext, ledger_restrict]
      exact h
  | some s₁ =>
      rw [hs, Option.map_some, Option.map_some, Option.map_eq_some_iff] at hpost
      obtain ⟨s₂, hs', hledger⟩ := hpost
      rw [hs', Option.getD_some] at hnext'
      rw [hs, Option.getD_some] at hnext
      rw [hout, hout', hs, hs']
      refine ⟨?_, rfl⟩
      rw [Shows, hnext', ← ledger_restrict, hnext, ledger_restrict]
      exact hledger

/-- The two states have the same metrics. -/
lemma Shows.metricsRows {p : Part} {db db' : Db} (h : Shows p db db') {last last' : ℕ}
    (hreceipts : Serial ReceiptRow.receiptId db.tables.routingReceipts last)
    (hreceipts' : Serial ReceiptRow.receiptId db'.tables.routingReceipts last')
    (hop : db.tables.Operational p) : db.tables.metricsRows = db'.tables.metricsRows := by
  have hledger : db'.tables.ledger = (db.tables.restrict p).ledger := h
  have htasks := congrArg Tables.agentTasks hledger
  rw [Tables.ledger_agentTasks, Tables.ledger_agentTasks] at htasks
  rw [metricsRows_ledger hreceipts, metricsRows_ledger hreceipts', hledger, htasks, Tables.ledger,
    Tables.ledger, List.filterMap_map, List.filterMap_map]
  exact (metricsRows_restrict hop).symm

/-- The run without the operations on evidence tasks. -/
def withoutEvidence (calls : List Call) : List Call :=
  store.purge (fun db call => call.op.onEvidence db.tables) Db.init calls

/-- The other steps of the run. -/
def operationalSteps (calls : List Call) : List StoreStep :=
  store.visible (fun db call => call.op.onEvidence db.tables) Db.init calls

/-- What a step shows: the call, and whether it succeeded. -/
def StoreStep.result (o : StoreStep) : Call × Bool := (o.input, succeeded o.output)

/-- **Evidence tasks have no influence** on operational ones: without the
operations on evidence tasks the others succeed and fail alike, and the run ends
with the same metrics and the same risks. -/
theorem evidence_without_influence (calls : List Call)
    (hfresh : store.Along (fun db call => call.op.Fresh call.now db.tables) Db.init calls)
    (hsep : store.Along
      (fun db call => call.op.Separate (operationalCircuits calls) db.tables) Db.init calls) :
    (operationalSteps calls).map StoreStep.result
        = (store.occs Db.init (withoutEvidence calls)).map StoreStep.result ∧
      qualityMetrics (store.exec Db.init calls).tables.metricsRows
        = qualityMetrics (store.exec Db.init (withoutEvidence calls)).tables.metricsRows ∧
      ∀ now, risksPanel (store.exec Db.init calls).tables now
        = risksPanel (store.exec Db.init (withoutEvidence calls)).tables now := by
  have hpart : store.Along (fun db call =>
      db.tables.Operational (operationalPart calls) ∧ db.tables.Fits (operationalPart calls) ∧
        (store.next call db).tables.Operational (operationalPart calls)) Db.init calls := by
    intro pre call post hcalls
    refine ⟨operational_exec hcalls, fits_exec hcalls, ?_⟩
    rw [← Machine.exec_concat]
    have hsplit : calls = (pre ++ [call]) ++ post := by
      rw [hcalls, List.append_assoc]
      rfl
    exact operational_exec hsplit
  have hrun : Shows (operationalPart calls) (store.exec Db.init calls)
        (store.exec Db.init (withoutEvidence calls)) ∧
      (operationalSteps calls).map StoreStep.result
        = (store.occs Db.init (withoutEvidence calls)).map StoreStep.result := by
    refine Machine.unwinding ?_ ?_ rfl (hpart.and (hfresh.and hsep))
    · rintro db db' call ⟨⟨hop, -, hop'⟩, -, hsep⟩ hshows hevidence
      exact hshows.hidden (outside_of_hidden hop hop' hsep hevidence)
    · rintro db db' call ⟨⟨hop, hfits, hop'⟩, hfresh, hsep⟩ hshows hevidence
      exact hshows.visible hfits (inside_of_visible hop hop' hfresh hsep hevidence)
  obtain ⟨hshows, hresults⟩ := hrun
  have hop := operational_exec (List.append_nil calls).symm
  have hfits := fits_exec (List.append_nil calls).symm
  refine ⟨hresults, ?_, fun now => ?_⟩
  · rw [hshows.metricsRows (receiptsOrdered_exec calls) (receiptsOrdered_exec _) hop]
  · have hledger : (store.exec Db.init (withoutEvidence calls)).tables.ledger
        = ((store.exec Db.init calls).tables.restrict (operationalPart calls)).ledger := hshows
    calc risksPanel (store.exec Db.init calls).tables now
        = risksPanel ((store.exec Db.init calls).tables.restrict (operationalPart calls)) now :=
          (risksPanel_restrict hop hfits now).symm
      _ = risksPanel (store.exec Db.init (withoutEvidence calls)).tables.ledger now := by
          rw [hledger, risksPanel_ledger]
      _ = risksPanel (store.exec Db.init (withoutEvidence calls)).tables now :=
          risksPanel_ledger now

/-! ### A shared circuit -/

/-- A proof fixture: the card of the tests as an evidence card. -/
def fixtureCard : TaskCardV1 := { sampleCard with projectionKind := .evidence }

/-- A second proof fixture with the same route. -/
def siblingFixture : TaskCardV1 := { siblingCard with projectionKind := .evidence }

/-- An operational card with the route of the fixtures. -/
def operationalCard : TaskCardV1 :=
  { sampleCard with
    taskId := ⟨3⟩
    idempotencyKey := "sha256:test:0003"
    idempotencyKey_length := by decide }

/-- Three failures of two fixtures, then the claim of an operational task. -/
def fixtureRun : List Call :=
  [⟨.createTask fixtureCard, 0⟩, ⟨.createTask siblingFixture, 0⟩,
    ⟨.createTask operationalCard, 0⟩,
    ⟨.claim fixtureCard.taskId "hermes_local" "worker-a" 30, 0⟩,
    ⟨.claim siblingFixture.taskId "hermes_local" "worker-a" 30, 0⟩,
    ⟨.reportFailure sampleReport ⟨9⟩, minutes 1⟩,
    ⟨.reportFailure { sampleReport with taskId := siblingFixture.taskId } ⟨10⟩, minutes 1⟩,
    ⟨.releaseDueRetries, minutes 10⟩,
    ⟨.claim fixtureCard.taskId "hermes_local" "worker-a" 30, minutes 10⟩,
    ⟨.reportFailure sampleReport ⟨11⟩, minutes 11⟩,
    ⟨.claim operationalCard.taskId "hermes_local" "worker-b" 30, minutes 12⟩]

/-- Evidence tasks have an influence on operational ones: the failures of the
fixtures open the circuit of the route, and the claim of the operational task is
refused, which succeeds without them. -/
theorem evidence_has_influence :
    ¬ ∀ calls : List Call, (∀ c ∈ calls, c.op.Http) →
      store.Along (fun db call => call.op.Fresh call.now db.tables) Db.init calls →
      (operationalSteps calls).map StoreStep.result
        = (store.occs Db.init (withoutEvidence calls)).map StoreStep.result := by
  intro h
  have hresults := congrArg (List.map Prod.snd) (h fixtureRun (by decide) (by decide +kernel))
  revert hresults
  decide +kernel

/-- A fixture of another route. -/
def monitorFixture : TaskCardV1 :=
  { fixtureCard with modelRouting := monitorRouting }

/-- A failure of a fixture of another route, then the claim of an operational
task. -/
def apartRun : List Call :=
  [⟨.createTask monitorFixture, 0⟩, ⟨.createTask operationalCard, 0⟩,
    ⟨.claim monitorFixture.taskId "hermes_local" "worker-a" 30, 0⟩,
    ⟨.reportFailure sampleReport ⟨9⟩, minutes 1⟩,
    ⟨.claim operationalCard.taskId "hermes_local" "worker-b" 30, minutes 2⟩]

theorem evidence_without_influence_apart :
    (operationalSteps apartRun).map StoreStep.result
        = (store.occs Db.init (withoutEvidence apartRun)).map StoreStep.result ∧
      ∀ now, risksPanel (store.exec Db.init apartRun).tables now
        = risksPanel (store.exec Db.init (withoutEvidence apartRun)).tables now := by
  obtain ⟨hresults, -, hrisks⟩ :=
    evidence_without_influence apartRun (by decide +kernel) (by decide +kernel)
  exact ⟨hresults, hrisks⟩

end ControlHarness

import ControlHarness.Lifecycle.TaskStep
import ControlHarness.Store.EventLog

/-!
The store refines the life of each task.

`Tables.view s t` is what the tables hold about the task `t`. Every call leaves
it alone or takes a `TaskStep` (`view_next`), whatever other tasks the call
touches. So what the steps of one task keep while its calls meet a condition
holds of it along every run of such calls (`view_along`), and an invariant of
the steps holds along every run (`view_exec`).
-/

namespace ControlHarness

open Store

/-- What the tables hold about a task. -/
def Tables.view (s : Tables) (t : UUID) : TaskView where
  row := s.agentTasks.get? t
  log := s.log t
  approvals := s.approvals.rows.filter fun a => a.taskId = t
  receipts := s.routingReceipts.filter fun r => r.taskId = t
  deadLetters := s.deadLetters.filter fun l => l.taskId = t
  recoveryCards := s.recoveryCards.rows.filter fun c => c.taskId = t

/-! ### The events of one task -/

/-- The events of a task among event rows. -/
def eventsOf (t : UUID) (rows : List EventRow) : List HarnessEvent :=
  (rows.filter fun e => e.taskId = t).map (·.event)

@[simp] lemma eventsOf_nil (t : UUID) : eventsOf t [] = [] := rfl

lemma eventsOf_append (t : UUID) (rows rows' : List EventRow) :
    eventsOf t (rows ++ rows') = eventsOf t rows ++ eventsOf t rows' := by
  rw [eventsOf, List.filter_append, List.map_append]
  rfl

lemma eventsOf_cons_logged (t : UUID) (now : Timestamp) (n : ℕ) (task : TaskRow)
    (e : HarnessEvent) (rows : List EventRow) :
    eventsOf t (logged now n task e :: rows)
      = if task.taskId = t then e :: eventsOf t rows else eventsOf t rows := by
  by_cases h : task.taskId = t <;> simp [eventsOf, logged, h]

/-- The events of a task are read off the tasks and events of the rows. -/
lemma eventsOf_eq_filterMap (t : UUID) (rows : List EventRow) :
    eventsOf t rows = (logOf rows).filterMap fun p => if p.1 = t then some p.2 else none := by
  induction rows with
  | nil => rfl
  | cons e rows ih =>
      rw [logOf_cons, List.filterMap_cons, ← ih]
      by_cases h : e.taskId = t <;> simp [eventsOf, h]

/-- Rows that all belong to one task. -/
lemma eventsOf_of_single {t u : UUID} {rows : List EventRow} {es : List HarnessEvent}
    (h : logOf rows = es.map (u, ·)) : eventsOf t rows = if u = t then es else [] := by
  rw [eventsOf_eq_filterMap, h, List.filterMap_map]
  by_cases hu : u = t
  · rw [if_pos hu]
    simp [hu]
  · rw [if_neg hu]
    simp [hu]

/-- Rows that a sweep writes, a list of events for each row it takes. -/
lemma eventsOf_of_sweep {t : UUID} {rows : List EventRow} {tasks : Table TaskRow.taskId}
    {p : TaskRow → Bool} {g : TaskRow → List HarnessEvent}
    (h : logOf rows = (tasks.rows.filter p).flatMap fun r => (g r).map (r.taskId, ·)) :
    eventsOf t rows = ((tasks.get? t).filter p).toList.flatMap g := by
  rw [eventsOf_eq_filterMap, h, ← Table.filter_key_filter]
  induction tasks.rows.filter p with
  | nil => rfl
  | cons r rs ih =>
      rw [List.flatMap_cons, List.filterMap_append, ih, List.filter_cons, List.filterMap_map]
      by_cases hr : r.taskId = t
      · rw [if_pos (decide_eq_true hr), List.flatMap_cons]
        simp [hr]
      · rw [if_neg (by simpa using hr)]
        simp [hr]

/-! ### The view after a write to one task -/

lemma Tables.log_eq (s : Tables) (t : UUID) : s.log t = eventsOf t s.agentEvents := rfl

section

variable {s : Tables} {u : UUID} {row : TaskRow} {evs : List EventRow} (es : List HarnessEvent)

/-- The view after a task is rewritten and its events are appended. -/
lemma view_updateKey (f : TaskRow → TaskRow) (hf : ∀ r, (f r).taskId = r.taskId)
    (hrow : s.agentTasks.get? u = some row) (hevs : logOf evs = es.map (u, ·)) (t : UUID) :
    ({ s with
        agentTasks := s.agentTasks.updateKey u f hf
        agentEvents := s.agentEvents ++ evs } : Tables).view t
      = if u = t then (s.view t).write (f row) es else s.view t := by
  simp only [Tables.view, Tables.log_eq, eventsOf_append, eventsOf_of_single hevs,
    Table.get?_updateKey]
  by_cases h : u = t
  · subst h
    simp [TaskView.write, hrow]
  · simp [h, Ne.symm h]

/-- The view after an event of a task is appended and nothing else. -/
lemma view_note (hevs : logOf evs = es.map (u, ·)) (t : UUID) :
    ({ s with agentEvents := s.agentEvents ++ evs } : Tables).view t
      = if u = t then { s.view t with log := s.log t ++ es } else s.view t := by
  simp only [Tables.view, Tables.log_eq, eventsOf_append, eventsOf_of_single hevs]
  by_cases h : u = t <;> simp [h]

end

/-- A row appended to a list of rows belongs to one task. -/
lemma filter_concat {α : Type} (key : α → UUID) (rows : List α) (r : α) (t : UUID) :
    (rows ++ [r]).filter (fun a => decide (key a = t))
      = if key r = t then rows.filter (fun a => decide (key a = t)) ++ [r]
        else rows.filter (fun a => decide (key a = t)) := by
  rw [List.filter_append]
  by_cases h : key r = t <;> simp [h]

/-- The rows of one task after a row of a table is rewritten. -/
lemma filter_updateKey {α κ : Type} [DecidableEq κ] {key : α → κ} {tbl : Table key} {k : κ}
    {r : α} {f : α → α} {hf : ∀ r, key (f r) = key r} (own : α → UUID)
    (hown : ∀ r, own (f r) = own r) (hget : tbl.get? k = some r) (t : UUID) :
    (tbl.updateKey k f hf).rows.filter (fun a => decide (own a = t))
      = if own r = t then
          (tbl.rows.filter fun a => decide (own a = t)).map fun a => if key a = k then f a else a
        else tbl.rows.filter fun a => decide (own a = t) := by
  have hrows : (tbl.updateKey k f hf).rows
      = tbl.rows.map fun a => if key a = k then f a else a := by
    rw [Table.updateKey, Table.rows_updateWhere]
    simp
  have hkeep : ((fun a => decide (own a = t)) ∘ fun a => if key a = k then f a else a)
      = fun a => decide (own a = t) := by
    funext a
    by_cases ha : key a = k <;> simp [ha, hown]
  rw [hrows, List.filter_map, hkeep]
  by_cases hr : own r = t
  · rw [if_pos hr]
  · rw [if_neg hr]
    -- the row that changes is not among them
    conv_rhs => rw [← List.map_id (tbl.rows.filter _)]
    refine List.map_congr_left fun a ha => ?_
    obtain ⟨hmem, hat⟩ := List.mem_filter.mp ha
    have hne : key a ≠ k := by
      rintro rfl
      obtain rfl : a = r := Option.some.inj ((Table.get?_of_mem hmem).symm.trans hget)
      exact hr (by simpa using hat)
    rw [if_neg hne, id]

/-- The rows of one task among rows made for the rows of a sweep. -/
lemma filter_map_sweep {α : Type} {tasks : Table TaskRow.taskId} {p : TaskRow → Bool}
    {g : TaskRow → α} (own : α → UUID) (hown : ∀ r, own (g r) = r.taskId) (t : UUID) :
    ((tasks.rows.filter p).map g).filter (fun a => decide (own a = t))
      = ((tasks.get? t).filter p).toList.map g := by
  have hkeep : ((fun a => decide (own a = t)) ∘ g) = fun r => decide (r.taskId = t) := by
    funext r
    simp [hown]
  rw [List.filter_map, hkeep, Table.filter_key_filter]

/-- After the acceptance of a receipt the only event is the closing of the
circuit. -/
lemma closingEvents_eq {s : Tables} {task : TaskRow} {target : TaskStatus} {e : HarnessEvent}
    (he : e ∈ closingEvents s task target) : ∃ key, e = .circuitClosed key := by
  rw [closingEvents, List.mem_map] at he
  obtain ⟨key, -, rfl⟩ := he
  exact ⟨key, rfl⟩

/-- A call that touches one task only is a step of that task. -/
lemma step_of_ite {now : Timestamp} {t u : UUID} {v v' w : TaskView} {op : Op}
    (hw : w = if u = t then v' else v) (hstep : u = t → TaskStep now t v op v') :
    w = v ∨ TaskStep now t v op w := by
  by_cases h : u = t
  · rw [if_pos h] at hw
    exact Or.inr (hw ▸ hstep h)
  · rw [if_neg h] at hw
    exact Or.inl hw

/-- **The store refines the life of each task**: a call leaves what the tables
hold about a task alone, or takes a step of the task. -/
theorem effect_view {now : Timestamp} {s s' : Tables} {op : Op} {reply : Except Raised Reply}
    (h : Effect now s op reply s') (t : UUID) :
    s'.view t = s.view t ∨ TaskStep now t (s.view t) op (s'.view t) := by
  cases h with
  | failed | existing | notClaimed => exact Or.inl rfl
  | created card route eventId hroute hkey hfresh =>
      refine step_of_ite (u := card.taskId) ?_ fun ht => .created card route ht (ht ▸ hfresh)
      simp only [Tables.view, Tables.log_eq, eventsOf_append, eventsOf_cons_logged, eventsOf_nil,
        newTask_taskId, Table.get?_insert (r := newTask card route now) hfresh]
      by_cases ht : card.taskId = t <;> simp [ht, TaskView.write]
  | claimed taskId role worker mins row eventId hrow hclaim =>
      have hid : row.taskId = taskId := Table.key_of_get? hrow
      simp only [claimable, Bool.and_eq_true, decide_eq_true_eq] at hclaim
      refine step_of_ite (view_updateKey [.taskClaimed worker (row.attemptCount + 1)] _ _
        hrow (by simp [logged, hid]) t) ?_
      rintro rfl
      exact .claimed role worker mins row hrow hclaim.1.1 hclaim.1.2
  | renewed taskId worker mins row hrow hrenew =>
      have hview := view_updateKey [] (renewedRow (minutes mins) now)
        (renewedRow_taskId _ now) hrow logOf_nil t
      rw [List.append_nil] at hview
      refine step_of_ite hview ?_
      rintro rfl
      exact .renewed worker mins row hrow hrenew
  | heartbeatRejected taskId worker mins task eventId hrow hrej =>
      have hid : task.taskId = taskId := Table.key_of_get? hrow
      refine step_of_ite (view_note (u := taskId) [.heartbeatRejected worker]
        (by simp [logged, hid]) t) ?_
      rintro rfl
      exact .heartbeatRejected worker mins task hrow hrej
  | swept recoveryIds evs cards hlog hcards =>
      have hview : ({ s with
          agentTasks := s.agentTasks.updateWhere (expired now) sweptRow sweptRow_taskId
          agentEvents := s.agentEvents ++ evs
          recoveryCards := cards } : Tables).view t
          = { s.view t with
              row := (s.agentTasks.get? t).map fun r => if expired now r then sweptRow r else r
              log := s.log t ++ ((s.agentTasks.get? t).filter (expired now)).toList.flatMap
                (sweepEvents recoveryIds)
              recoveryCards := (s.view t).recoveryCards ++
                ((s.agentTasks.get? t).filter (expired now)).toList.map fun r =>
                  newRecoveryCard r "lease_expired" sweepReason (recoveryIds r.taskId) now } := by
        simp only [Tables.view, Tables.log_eq, eventsOf_append, eventsOf_of_sweep hlog,
          Table.get?_updateWhere, hcards, List.filter_append]
        rw [filter_map_sweep RecoveryCardRow.taskId fun _ => rfl]
      rw [hview]
      cases hrow : s.agentTasks.get? t with
      | none => exact Or.inl (by simp [Tables.view, hrow])
      | some row =>
          cases hexp : expired now row with
          | false => exact Or.inl (by simp [Tables.view, hrow, hexp])
          | true =>
              have hstep := @TaskStep.swept now t (s.view t) recoveryIds row hrow hexp
              exact Or.inr
                (by simpa [TaskView.write, hexp, Tables.view, Option.filter_some] using hstep)
  | recovery report recoveryId task e₁ e₂ hrow hadm hrec hfresh =>
      have hid : task.taskId = report.taskId := Table.key_of_get? hrow
      refine step_of_ite (u := report.taskId) ?_ fun ht =>
        .recovery report recoveryId task ht (ht ▸ hrow) hadm hrec
      simp only [Tables.view, Tables.log_eq, eventsOf_append, eventsOf_cons_logged, eventsOf_nil,
        Table.get?_updateKey, filter_concat,
        Table.rows_insert (r := newRecoveryCard task _ _ recoveryId now) hfresh]
      by_cases ht : report.taskId = t
      · subst ht
        simp [TaskView.write, hrow, hid, newRecoveryCard]
      · simp [ht, Ne.symm ht, hid, newRecoveryCard]
  | retryScheduled report recoveryId task e₁ e₂ delay hrow hadm hrec hretry hbudget hdelay =>
      have hid : task.taskId = report.taskId := Table.key_of_get? hrow
      refine step_of_ite (view_updateKey (s := s) [classified task report,
        .retryScheduled (now + seconds delay) delay task.attemptCount] _ _ hrow
        (by simp [logged, hid]) t) ?_
      rintro rfl
      exact .retryScheduled report recoveryId task delay rfl hrow hadm hrec hretry hbudget
  | deadLettered report recoveryId task e₁ e₂ deadLetterId reason hrow hadm hrec hfinal =>
      have hid : task.taskId = report.taskId := Table.key_of_get? hrow
      refine step_of_ite (u := report.taskId) ?_ fun ht =>
        .deadLettered report recoveryId task deadLetterId reason ht (ht ▸ hrow) hadm hrec hfinal
      simp only [Tables.view, Tables.log_eq, eventsOf_append, eventsOf_cons_logged, eventsOf_nil,
        Table.get?_updateKey, filter_concat]
      by_cases ht : report.taskId = t
      · subst ht
        simp [TaskView.write, hrow, hid, newDeadLetter]
      · simp [ht, Ne.symm ht, hid, newDeadLetter]
  | stopped report recoveryId task e₁ action target hrow hadm hrec hstop =>
      have hid : task.taskId = report.taskId := Table.key_of_get? hrow
      refine step_of_ite (view_updateKey [classified task report] _ _ hrow
        (by simp [logged, hid]) t) ?_
      rintro rfl
      refine .stopped report recoveryId task target rfl hrow hadm hrec ?_
      rcases hstop with ⟨hcls, -, htarget⟩ | ⟨hcls, -, htarget⟩
      · exact Or.inl ⟨hcls, htarget⟩
      · exact Or.inr ⟨hcls, htarget⟩
  | released evs hlog =>
      have hsweep : logOf evs = (s.agentTasks.rows.filter (releasable now s)).flatMap fun r =>
          [HarnessEvent.retryReleased (r.attemptCount + 1)].map (r.taskId, ·) := by
        rw [hlog, List.map_eq_flatMap]
        rfl
      have hview : ({ s with
          agentTasks := s.agentTasks.updateWhere (releasable now s) releasedRow releasedRow_taskId
          agentEvents := s.agentEvents ++ evs } : Tables).view t
          = { s.view t with
              row := (s.agentTasks.get? t).map fun r =>
                if releasable now s r then releasedRow r else r
              log := s.log t ++ ((s.agentTasks.get? t).filter (releasable now s)).toList.flatMap
                fun r => [.retryReleased (r.attemptCount + 1)] } := by
        simp only [Tables.view, Tables.log_eq, eventsOf_append, eventsOf_of_sweep hsweep,
          Table.get?_updateWhere]
      rw [hview]
      cases hrow : s.agentTasks.get? t with
      | none => exact Or.inl (by simp [Tables.view, hrow])
      | some row =>
          cases hrel : releasable now s row with
          | false => exact Or.inl (by simp [Tables.view, hrow, hrel])
          | true =>
              have hdue := hrel
              simp only [releasable, Bool.and_eq_true, decide_eq_true_eq] at hdue
              have hstep := @TaskStep.released now t (s.view t) row hrow hdue.1.1 hdue.1.2
              exact Or.inr
                (by simpa [TaskView.write, hrel, Tables.view, Option.filter_some] using hstep)
  | receiptRejected receipt task eventId hrow hown =>
      have hid : task.taskId = receipt.taskId := Table.key_of_get? hrow
      refine step_of_ite (view_note (u := receipt.taskId)
        [.receiptRejected "not lease owner" receipt.workerInstance]
        (by simp [logged, hid]) t) ?_
      rintro rfl
      exact .receiptRejected receipt task rfl hrow hown
  | receiptAccepted receipt task receiptId evs hrow hown hexec hlog =>
      have hid : task.taskId = receipt.taskId := Table.key_of_get? hrow
      rw [hid] at hlog
      refine step_of_ite (u := receipt.taskId) ?_ fun ht =>
        .receiptAccepted receipt task receiptId
          (closingEvents s task (receiptTarget task receipt.outcome)) ht (ht ▸ hrow) hown hexec
          (fun e he => closingEvents_eq he)
      simp only [Tables.view, Tables.log_eq, eventsOf_append, eventsOf_of_single hlog,
        Table.get?_updateKey, filter_concat]
      by_cases ht : receipt.taskId = t
      · subst ht
        simp [TaskView.write, hrow, receiptRow]
      · simp [ht, Ne.symm ht]
  | approvalRequested card task eventId hrow hstatus hfresh =>
      have hid : task.taskId = card.taskId := Table.key_of_get? hrow
      refine step_of_ite (u := card.taskId) ?_ fun ht =>
        .approvalRequested card task ht (ht ▸ hrow) hstatus
      simp only [Tables.view, Tables.log_eq, eventsOf_append, eventsOf_cons_logged, eventsOf_nil,
        Table.get?_updateKey, Table.rows_insert (r := newApproval card now) hfresh, filter_concat]
      by_cases ht : card.taskId = t
      · subst ht
        simp [TaskView.write, hrow, hid, newApproval]
      · simp [ht, Ne.symm ht, hid, newApproval]
  | approvalDecided approvalId decision decidedBy reason d approval task eventId hd happ hopen hrow
      hstatus =>
      have hid : task.taskId = approval.taskId := Table.key_of_get? hrow
      refine step_of_ite (u := approval.taskId) ?_ fun ht =>
        .approvalDecided approvalId decision decidedBy reason d approval task hd
          (List.mem_filter.mpr ⟨Table.mem_of_get? happ, decide_eq_true ht⟩)
          (Table.key_of_get? happ) hopen (ht ▸ hrow) hstatus
      simp only [Tables.view, Tables.log_eq, eventsOf_append, eventsOf_cons_logged, eventsOf_nil,
        Table.get?_updateKey,
        filter_updateKey ApprovalRow.taskId (f := decidedApproval d decidedBy reason now)
          (fun _ => rfl) happ]
      by_cases ht : approval.taskId = t
      · subst ht
        simp [TaskView.write, hrow, hid]
      · simp [ht, Ne.symm ht, hid]
  | transitioned taskId target reason task eventId hrow hstatus =>
      have hid : task.taskId = taskId := Table.key_of_get? hrow
      refine step_of_ite (view_updateKey [.statusChanged task.status target reason] _ _
        hrow (by simp [logged, hid]) t) ?_
      rintro rfl
      exact .transitioned target reason task hrow hstatus

/-- Every call of the store leaves a task alone or takes a step of it. -/
lemma view_next (call : Call) (db : Db) (t : UUID) :
    (store.next call db).tables.view t = db.tables.view t ∨
      TaskStep call.now t (db.tables.view t) call.op ((store.next call db).tables.view t) :=
  effect_view (store_effect call db) t

/-- **The rule for invariants of one task**: what a task has at the start of a
run and every step of the task keeps, as long as the calls meet `A`, it has at
the end. -/
theorem view_along {P : TaskView → Prop} {A : Db → Call → Prop} {db : Db} {calls : List Call}
    (h : store.Along A db calls) (t : UUID) (h0 : P (db.tables.view t))
    (hstep : ∀ db call, A db call →
      TaskStep call.now t (db.tables.view t) call.op ((store.next call db).tables.view t) →
      P (db.tables.view t) → P ((store.next call db).tables.view t)) :
    P ((store.exec db calls).tables.view t) := by
  refine h.invariant (P := fun db : Db => P (db.tables.view t)) h0 fun db call hA hP => ?_
  rcases view_next call db t with hsame | hmove
  · rw [hsame]
    exact hP
  · exact hstep db call hA hmove hP

/-- **Invariants of one task**: what an absent task has and every step of a
task by the operations in `A` keeps, holds of every task along every run of
these operations. -/
theorem view_exec {P : TaskView → Prop} {A : Op → Prop} {calls : List Call}
    (hops : ∀ c ∈ calls, A c.op) (t : UUID) (h0 : P .empty)
    (hstep : ∀ now v op v', A op → TaskStep now t v op v' → P v → P v') :
    P ((store.exec Db.init calls).tables.view t) :=
  view_along (A := fun _ c => A c.op) (Machine.along_of_forall hops) t h0
    fun _ call hop hmove => hstep call.now _ call.op _ hop hmove

end ControlHarness

import ControlHarness.App
import ControlHarness.Feed
import ControlHarness.Lifecycle.Orderly

/-!
The rows that refer to a task, and the trace of a correlation.

Every row of the store beside the tasks and the circuits names a task, and events,
dead letters and recovery cards name its correlation too. The schema declares some of
these references; along every run all of them hold (`references_hold`).
So the trace of a correlation, which is read off the events alone, holds the whole
log of each task under the correlation and nothing else, and later reads only add to
it (`trace_tells`).

* `Logs`: a relation between connections that lets a program append events with a
  property only.
* `filed_submitReceipt`, `filed_expireLeases`, `filed_releaseDueRetries`: the three
  operations whose number of events depends on the tables.
* `Tables.Filed`, `References`: the invariants, of the events and of one task.
-/

namespace ControlHarness

open Store App

/-- The task exists under the correlation. -/
def Tables.Owns (s : Tables) (taskId correlationId : UUID) : Prop :=
  ∃ row, s.agentTasks.get? taskId = some row ∧ row.correlationId = correlationId

/-- The events belong to tasks, each to one of its correlation. -/
def Tables.Filed (s : Tables) : Prop := ∀ e ∈ s.agentEvents, s.Owns e.taskId e.correlationId

/-! ### The events of a program -/

/-- Only events with the property are appended, and only those are committed. -/
def Logs (Q : EventRow → Prop) (c c' : StoreConn) : Prop :=
  (∀ e ∈ c.tables.agentEvents, Q e) ∧ (∀ e ∈ c.committed.agentEvents, Q e) →
    (∀ e ∈ c'.tables.agentEvents, Q e) ∧ ∀ e ∈ c'.committed.agentEvents, Q e

section

variable {Q : EventRow → Prop} {task : TaskRow}

instance : Std.Refl (Logs Q) := ⟨fun _ h => h⟩

instance : IsTrans StoreConn (Logs Q) := ⟨fun _ _ _ h h' hc => h' (h hc)⟩

/-- The events of the task have the property. -/
def Covers (Q : EventRow → Prop) (task : TaskRow) : Prop :=
  ∀ e : EventRow, e.taskId = task.taskId → e.correlationId = task.correlationId → Q e

lemma logs_write {f : Tables → Tables} (hf : ∀ s, (f s).agentEvents = s.agentEvents) :
    Tx.Within (Logs Q) (Tx.write f : StoreTx Unit) := by
  rintro c ⟨hwritten, hcommitted⟩
  refine ⟨?_, hcommitted⟩
  rw [Tx.write_apply, hf]
  exact hwritten

lemma logs_event (hQ : Covers Q task) (e : HarnessEvent) :
    Tx.Within (Logs Q) (event task.taskId task.correlationId e) := by
  rintro c ⟨hwritten, hcommitted⟩
  rw [event_apply]
  refine ⟨fun e' he' => ?_, hcommitted⟩
  rcases List.mem_append.mp he' with he' | he'
  · exact hwritten e' he'
  · obtain rfl := List.mem_singleton.mp he'
    exact hQ _ rfl rfl

lemma logs_setStatus (taskId : UUID) (expected target : TaskStatus) :
    Tx.Within (Logs Q) (setStatus taskId expected target) :=
  .ite (.bind (.bind (.read _) fun _ => .bind (logs_write fun _ => rfl) fun _ => .pure _)
    fun _ => .ite (.pure _) (.raise _)) (.raise _)

lemma logs_createRecoveryCard (hQ : Covers Q task) (trigger reason : String) (recoveryId : UUID) :
    Tx.Within (Logs Q) (createRecoveryCard task trigger reason recoveryId) :=
  .bind .now fun _ => .bind (.read _) fun _ =>
    .ite (.raise _) (.bind (logs_write fun _ => rfl) fun _ =>
      .bind (logs_event hQ _) fun _ => .pure _)

lemma logs_closeCircuit (hQ : Covers Q task) (target : TaskStatus) :
    Tx.Within (Logs Q) (closeCircuit task target) := by
  rw [closeCircuit]
  cases task.circuitKey with
  | none => exact .pure _
  | some key =>
      refine .ite ?_ (.pure _)
      exact .bind .now fun _ => .bind (.read _) fun _ => .bind (logs_write fun _ => rfl) fun _ =>
        .ite (logs_event hQ _) (.pure _)

lemma logs_acceptReceipt (hQ : Covers Q task) (receipt : ResultReceiptV1) :
    Tx.Within (Logs Q) (acceptReceipt task receipt) := by
  refine .ite (.raise _) (.bind (.ite (logs_setStatus _ _ _) (.pure _)) fun _ => ?_)
  refine .bind (logs_setStatus _ _ _) fun _ => .bind .now fun _ => .bind (fun _ h => h) fun _ => ?_
  refine .bind (logs_write fun _ => rfl) fun _ => .bind (logs_event hQ _) fun _ => ?_
  refine .bind (logs_closeCircuit hQ _) fun _ => .bind (.read _) fun row => ?_
  cases row with
  | none => exact .raise _
  | some row => exact .pure _

lemma logs_rejectReceipt (hQ : Covers Q task) (receipt : ResultReceiptV1) :
    Tx.Within (Logs Q) (rejectReceipt task receipt) :=
  .bind (logs_event hQ _) fun _ => .bind (fun _ h => ⟨h.1, h.1⟩) fun _ => .raise _

lemma logs_forEach {f : TaskRow → StoreTx Unit} {rows : List TaskRow}
    (hf : ∀ r ∈ rows, Tx.Within (Logs Q) (f r)) : Tx.Within (Logs Q) (Tx.forEach f rows) := by
  induction rows with
  | nil => exact .pure _
  | cons r rows ih =>
      exact .bind (hf r (by simp)) fun _ => ih fun r' hr' => hf r' (by simp [hr'])

/-- What the program logs, the transaction logs. -/
lemma filed_connect {α : Type} {x : StoreTx α} {now : Timestamp} {db : Db}
    (hx : Logs Q ⟨db.tables, db.tables, db.seq, now⟩ (x ⟨db.tables, db.tables, db.seq, now⟩).2)
    (h : ∀ e ∈ db.tables.agentEvents, Q e) :
    ∀ e ∈ (x.connect now db).2.tables.agentEvents, Q e := by
  have hc := hx ⟨h, h⟩
  rw [Tx.connect]
  rcases hr : x ⟨db.tables, db.tables, db.seq, now⟩ with ⟨_ | a, c'⟩ <;> rw [hr] at hc
  · exact hc.2
  · exact hc.1

end

/-! ### The three operations -/

/-- The event was there, or it is of a task that was. -/
def NewOf (s : Tables) (e : EventRow) : Prop :=
  e ∈ s.agentEvents ∨ s.Owns e.taskId e.correlationId

section

variable {db : Db} {now : Timestamp}

lemma covers_of_mem {s : Tables} {r task : TaskRow} (hr : r ∈ s.agentTasks.rows)
    (hid : task.taskId = r.taskId) (hcorr : task.correlationId = r.correlationId) :
    Covers (NewOf s) task := by
  intro e ht hc
  exact Or.inr ⟨r, by rw [ht, hid]; exact Table.get?_of_mem hr, by rw [hc, hcorr]⟩

/-- The rows that a bulk update returns are of tasks that were there. -/
lemma covers_of_updated {p : TaskRow → Bool} {f : TaskRow → TaskRow} {s : Tables} {task : TaskRow}
    (hid : ∀ r, (f r).taskId = r.taskId) (hcorr : ∀ r, (f r).correlationId = r.correlationId)
    (h : task ∈ (s.agentTasks.rows.filter p).map f) : Covers (NewOf s) task := by
  obtain ⟨r, hr, rfl⟩ := List.mem_map.mp h
  exact covers_of_mem (List.mem_of_mem_filter hr) (hid r) (hcorr r)

/-- What a program logs that runs on after a bulk update. -/
lemma filed_updated {p : Tables → TaskRow → Bool} {f : TaskRow → TaskRow}
    (hid : ∀ r, (f r).taskId = r.taskId) (hcorr : ∀ r, (f r).correlationId = r.correlationId)
    {g : List TaskRow → StoreTx Reply}
    (hg : ∀ rows, (∀ r ∈ rows, Covers (NewOf db.tables) r) →
      Tx.Within (Logs (NewOf db.tables)) (g rows)) :
    ∀ e ∈ ((updateTasks p f hid >>= g).connect now db).2.tables.agentEvents,
      NewOf db.tables e := by
  refine filed_connect ?_ fun e he => Or.inl he
  rw [Tx.bind_ok (updateTasks_apply p f hid)]
  -- the update leaves the events alone, so what it leaves is as good a start
  have hlogs := hg _
    (fun r hr => covers_of_updated (s := db.tables) (p := p db.tables) hid hcorr hr)
    ⟨{ db.tables with agentTasks := db.tables.agentTasks.updateWhere (p db.tables) f hid },
      db.tables, db.seq, now⟩
  exact fun h => hlogs h

lemma filed_expireLeases (recoveryIds : UUID → UUID) :
    ∀ e ∈ (store.next ⟨.expireLeases recoveryIds, now⟩ db).tables.agentEvents,
      NewOf db.tables e := by
  refine filed_updated (p := fun _ r => expired now r) sweptRow_taskId (fun _ => rfl)
    (g := fun rows => (Tx.forEach (fun row => do
      event row.taskId row.correlationId (.leaseExpired .recoveryRequired)
      let _ ← createRecoveryCard row "lease_expired" sweepReason (recoveryIds row.taskId)
      pure ()) rows >>= fun _ => pure rows) >>= fun rows => pure (.rows rows)) fun rows hrows => ?_
  exact .bind (.bind (logs_forEach fun r hr => .bind (logs_event (hrows r hr) _) fun _ =>
    .bind (logs_createRecoveryCard (hrows r hr) _ _ _) fun _ => .pure _) fun _ => .pure _)
    fun _ => .pure _

lemma filed_releaseDueRetries :
    ∀ e ∈ (store.next ⟨.releaseDueRetries, now⟩ db).tables.agentEvents, NewOf db.tables e := by
  refine filed_updated (p := releasable now) releasedRow_taskId (fun _ => rfl)
    (g := fun rows => (Tx.forEach (fun row => event row.taskId row.correlationId
      (.retryReleased (row.attemptCount + 1))) rows >>= fun _ => pure rows) >>=
        fun rows => pure (.rows rows)) fun rows hrows => ?_
  exact .bind (.bind (logs_forEach fun r hr => logs_event (hrows r hr) _) fun _ => .pure _)
    fun _ => .pure _

lemma filed_submitReceipt (receipt : ResultReceiptV1) :
    ∀ e ∈ (store.next ⟨.submitReceipt receipt, now⟩ db).tables.agentEvents,
      NewOf db.tables e := by
  refine filed_connect (x := (Op.submitReceipt receipt).program) ?_ fun e he => Or.inl he
  set c : StoreConn := ⟨db.tables, db.tables, db.seq, now⟩
  cases htask : db.tables.agentTasks.get? receipt.taskId with
  | none =>
      have hrun : submitReceipt receipt c = (.error (taskNotFound receipt.taskId), c) := by
        rw [submitReceipt, Tx.bind_ok (selectTask_apply _), htask]
        rfl
      have hprogram : (Op.submitReceipt receipt).program c
          = (.error (taskNotFound receipt.taskId), c) := Tx.bind_error hrun
      rw [hprogram]
      exact fun h => h
  | some task =>
      have hcover : Covers (NewOf db.tables) task :=
        covers_of_mem (Table.mem_of_get? htask) rfl rfl
      have hsplit : submitReceipt receipt c
          = (if task.ownerInstance ≠ some receipt.workerInstance then rejectReceipt task receipt
              else acceptReceipt task receipt) c := by
        rw [submitReceipt, Tx.bind_ok (selectTask_apply _), htask]
      have hprogram : (Op.submitReceipt receipt).program c
          = ((if task.ownerInstance ≠ some receipt.workerInstance then rejectReceipt task receipt
              else acceptReceipt task receipt) >>= fun r => pure (.row r)) c := by
        rw [Tx.bind_apply, ← hsplit, ← Tx.bind_apply]
        rfl
      rw [hprogram]
      exact Tx.Within.bind (.ite (logs_rejectReceipt hcover _) (logs_acceptReceipt hcover _))
        (fun _ => .pure _) c

end

/-! ### The events of a run -/

/-- The operations that log as many events as the tables make them. -/
def Op.Loops : Op → Prop
  | .expireLeases _ | .releaseDueRetries | .submitReceipt _ => True
  | _ => False

section

variable {db : Db} {call : Call}

lemma filed_loops (h : call.op.Loops) :
    ∀ e ∈ (store.next call db).tables.agentEvents, NewOf db.tables e := by
  rcases call with ⟨op, now⟩
  cases op with
  | expireLeases recoveryIds => exact filed_expireLeases recoveryIds
  | releaseDueRetries => exact filed_releaseDueRetries
  | submitReceipt receipt => exact filed_submitReceipt receipt
  | _ => exact h.elim

/-- A task stays under its correlation. -/
lemma Tables.Owns.next {t c : UUID} (h : db.tables.Owns t c) :
    (store.next call db).tables.Owns t c := by
  obtain ⟨row, hrow, hcorr⟩ := h
  obtain ⟨row', hrow', hsame⟩ := sameCard_next call hrow
  exact ⟨row', hrow', hsame.correlationId.trans hcorr⟩

/-- What a call that does not loop logs is of a task that was there, or of the task that
it creates. -/
lemma filed_straight (h : ¬ call.op.Loops) :
    ∀ e ∈ (store.next call db).tables.agentEvents,
      NewOf db.tables e ∨ (store.next call db).tables.Owns e.taskId e.correlationId := by
  have heff := store_effect call db
  generalize (store.next call db).tables = s' at heff ⊢
  generalize store.out call db = r at heff
  generalize call.op = op at heff h
  have hkept : ∀ {t task}, db.tables.agentTasks.get? t = some task → ∀ {evs : List EventRow},
      (∀ e ∈ evs, e.taskId = task.taskId ∧ e.correlationId = task.correlationId) →
      ∀ e ∈ db.tables.agentEvents ++ evs,
        NewOf db.tables e ∨ s'.Owns e.taskId e.correlationId := by
    intro t task hrow evs hevs e he
    refine Or.inl ((List.mem_append.mp he).imp id fun he' => ?_)
    obtain ⟨hid, hcorr⟩ := hevs e he'
    exact ⟨task, by rw [hid, Table.key_of_get? hrow]; exact hrow, hcorr.symm⟩
  cases heff with
  | failed | existing | notClaimed => exact fun e he => Or.inl (Or.inl he)
  | created card route id hroute hkey hfresh =>
      intro e he
      rcases List.mem_append.mp he with he | he
      · exact Or.inl (Or.inl he)
      · obtain rfl := List.mem_singleton.mp he
        refine Or.inr ⟨newTask card route call.now, ?_, rfl⟩
        rw [Table.get?_insert hfresh]
        exact if_pos rfl
  | renewed => exact fun e he => Or.inl (Or.inl he)
  | swept | released | receiptAccepted | receiptRejected => exact absurd trivial h
  | claimed t role worker mins row id hrow | heartbeatRejected t worker mins row id hrow
  | stopped report rid row id action target hrow | approvalRequested card row id hrow
  | approvalDecided aid decision by_ reason d approval row id hd happ hopen hrow
  | transitioned t target reason row id hrow =>
      exact hkept hrow (by simp [logged])
  | recovery report rid row e₁ e₂ hrow | retryScheduled report rid row e₁ e₂ delay hrow
  | deadLettered report rid row e₁ e₂ lid reason hrow => exact hkept hrow (by simp [logged])

/-- **Every call files its events.** -/
lemma Tables.Filed.next (h : db.tables.Filed) : (store.next call db).tables.Filed := by
  intro e he
  by_cases hloops : call.op.Loops
  · exact (filed_loops hloops e he).elim (fun hold => (h e hold).next) fun hnew => hnew.next
  · rcases filed_straight hloops e he with (hold | hnew) | hafter
    · exact (h e hold).next
    · exact hnew.next
    · exact hafter

lemma filed_exec (calls : List Call) : (store.exec Db.init calls).tables.Filed :=
  Machine.invariant (P := fun db : Db => db.tables.Filed) (by simp [Tables.Filed, Db.init,
    Tables.init]) fun _ _ h => h.next

end

/-! ### The references of a task -/

/-- What refers to a task: nothing while it does not exist; its dead letters and
recovery cards name its correlation. -/
def References (v : TaskView) : Prop :=
  match v.row with
  | none => v.approvals = [] ∧ v.receipts = [] ∧ v.deadLetters = [] ∧ v.recoveryCards = []
  | some row => (∀ l ∈ v.deadLetters, l.correlationId = row.correlationId) ∧
      ∀ c ∈ v.recoveryCards, c.correlationId = row.correlationId

section

variable {now : Timestamp} {t : UUID} {v v' : TaskView} {op : Op} {row row' : TaskRow}

lemma References.of_row (h : References v) (hrow : v.row = some row) :
    (∀ l ∈ v.deadLetters, l.correlationId = row.correlationId) ∧
      ∀ c ∈ v.recoveryCards, c.correlationId = row.correlationId := by
  rw [References, hrow] at h
  exact h

/-- A step that may add dead letters and recovery cards of the correlation of the
task. -/
lemma References.extend (h : References v) (hrow : v.row = some row) (hrow' : v'.row = some row')
    (hcorr : row'.correlationId = row.correlationId)
    (hletters : ∀ l ∈ v'.deadLetters, l ∈ v.deadLetters ∨ l.correlationId = row.correlationId)
    (hcards : ∀ c ∈ v'.recoveryCards,
      c ∈ v.recoveryCards ∨ c.correlationId = row.correlationId) : References v' := by
  obtain ⟨hl, hc⟩ := h.of_row hrow
  rw [References, hrow']
  exact ⟨fun l hl' => ((hletters l hl').elim (hl l) id).trans hcorr.symm,
    fun c hc' => ((hcards c hc').elim (hc c) id).trans hcorr.symm⟩

lemma References.kept (h : References v) (hrow : v.row = some row) (hrow' : v'.row = some row')
    (hcorr : row'.correlationId = row.correlationId) (hletters : v'.deadLetters = v.deadLetters)
    (hcards : v'.recoveryCards = v.recoveryCards) : References v' :=
  h.extend hrow hrow' hcorr (fun _ hl => Or.inl (hletters ▸ hl)) fun _ hc => Or.inl (hcards ▸ hc)

/-- What is added to a list is of the correlation. -/
lemma mem_concat_or {α : Type*} {P : α → Prop} {l : List α} {a : α} (ha : P a) :
    ∀ b ∈ l ++ [a], b ∈ l ∨ P b := by
  intro b hb
  refine (List.mem_append.mp hb).imp id fun hb' => ?_
  rw [List.mem_singleton.mp hb']
  exact ha

/-- **Every step keeps the references.** -/
theorem TaskStep.references (h : TaskStep now t v op v') (hv : References v) : References v' := by
  have hmoved : ∀ {target r}, (movedRow target r).correlationId = r.correlationId :=
    fun {target r} => (SameCard.movedRow target r).correlationId
  cases h with
  | created card route hid hrow =>
      rw [References, hrow] at hv
      obtain ⟨-, -, hletters, hcards⟩ := hv
      rw [References]
      refine ⟨fun l hl => ?_, fun c hc => ?_⟩
      · exact absurd (hletters ▸ hl : l ∈ ([] : List DeadLetterRow)) (by simp)
      · exact absurd (hcards ▸ hc : c ∈ ([] : List RecoveryCardRow)) (by simp)
  | claimed role worker mins r hr | renewed worker mins r hr | released r hr =>
      exact hv.kept hr rfl rfl rfl rfl
  | heartbeatRejected worker mins r hr | receiptRejected receipt r hid hr =>
      exact hv.kept hr hr rfl rfl rfl
  | swept ids r hr =>
      exact hv.extend hr rfl rfl (fun _ hl => Or.inl hl) (mem_concat_or rfl)
  | recovery report id r hid hr =>
      exact hv.extend hr rfl hmoved (fun _ hl => Or.inl hl) (mem_concat_or rfl)
  | retryScheduled report id r delay hid hr =>
      exact hv.kept hr rfl (SameCard.retriedRow _ _ r).correlationId rfl rfl
  | deadLettered report id r letterId reason hid hr =>
      exact hv.extend hr rfl hmoved (mem_concat_or rfl) fun _ hc => Or.inl hc
  | stopped report id r target hid hr | approvalRequested card r hid hr
  | transitioned target reason r hr => exact hv.kept hr rfl hmoved rfl rfl
  | receiptAccepted receipt r receiptId closing hid hr => exact hv.kept hr rfl hmoved rfl rfl
  | approvalDecided id decision by_ reason d approval r hd happ hkey hopen hr =>
      exact hv.kept hr rfl hmoved rfl rfl

lemma references_exec (calls : List Call) (t : UUID) :
    References ((store.exec Db.init calls).tables.view t) :=
  view_exec (P := References) (A := fun _ => True) (fun _ _ => trivial) t ⟨rfl, rfl, rfl, rfl⟩
    fun _ _ _ _ _ hstep hv => hstep.references hv

end

/-- Every row names a task that exists, and its correlation where it names one. -/
structure Tables.RefersToTasks (s : Tables) : Prop where
  events : ∀ e ∈ s.agentEvents, s.Owns e.taskId e.correlationId
  approvals : ∀ a ∈ s.approvals.rows, (s.agentTasks.get? a.taskId).isSome
  receipts : ∀ r ∈ s.routingReceipts, (s.agentTasks.get? r.taskId).isSome
  deadLetters : ∀ l ∈ s.deadLetters, s.Owns l.taskId l.correlationId
  recoveryCards : ∀ c ∈ s.recoveryCards.rows, s.Owns c.taskId c.correlationId

/-- What the tables hold of a task that has references exists. -/
lemma References.row {s : Tables} {t : UUID} (h : References (s.view t))
    (hsome : (s.view t).approvals ≠ [] ∨ (s.view t).receipts ≠ [] ∨ (s.view t).deadLetters ≠ [] ∨
      (s.view t).recoveryCards ≠ []) : ∃ row, s.agentTasks.get? t = some row := by
  cases hrow : s.agentTasks.get? t with
  | some row => exact ⟨row, rfl⟩
  | none =>
      rw [References, show (s.view t).row = none from hrow] at h
      rcases hsome with h' | h' | h' | h'
      · exact absurd h.1 h'
      · exact absurd h.2.1 h'
      · exact absurd h.2.2.1 h'
      · exact absurd h.2.2.2 h'

/-- **The references hold**: along every run of the store, with `transition` among the
operations, no approval, receipt, dead letter, recovery card or event is of a task that
does not exist, and events, dead letters and recovery cards name the correlation of
their task. -/
theorem references_hold (calls : List Call) :
    (store.exec Db.init calls).tables.RefersToTasks := by
  set s := (store.exec Db.init calls).tables with hs
  have href : ∀ t, References (s.view t) := references_exec calls
  constructor
  · exact filed_exec calls
  · intro a ha
    have hmem : a ∈ (s.view a.taskId).approvals := List.mem_filter.mpr ⟨ha, by simp⟩
    obtain ⟨row, hrow⟩ := (href a.taskId).row (Or.inl (List.ne_nil_of_mem hmem))
    exact Option.isSome_of_eq_some hrow
  · intro r hr
    have hmem : r ∈ (s.view r.taskId).receipts := List.mem_filter.mpr ⟨hr, by simp⟩
    obtain ⟨row, hrow⟩ := (href r.taskId).row (Or.inr (Or.inl (List.ne_nil_of_mem hmem)))
    exact Option.isSome_of_eq_some hrow
  · intro l hl
    have hmem : l ∈ (s.view l.taskId).deadLetters := List.mem_filter.mpr ⟨hl, by simp⟩
    obtain ⟨row, hrow⟩ :=
      (href l.taskId).row (Or.inr (Or.inr (Or.inl (List.ne_nil_of_mem hmem))))
    exact ⟨row, hrow, (((href l.taskId).of_row hrow).1 l hmem).symm⟩
  · intro c hc
    have hmem : c ∈ (s.view c.taskId).recoveryCards := List.mem_filter.mpr ⟨hc, by simp⟩
    obtain ⟨row, hrow⟩ :=
      (href c.taskId).row (Or.inr (Or.inr (Or.inr (List.ne_nil_of_mem hmem))))
    exact ⟨row, hrow, (((href c.taskId).of_row hrow).2 c hmem).symm⟩

/-! ### The trace -/

section

variable {s : Tables}

/-- Under its correlation a task has all its events, under another none. -/
lemma events_of_correlation (h : s.Filed) (t c : UUID) :
    ((s.agentEvents.filter fun e => e.correlationId = c).filter fun e => e.taskId = t).map
        (·.event)
      = (s.agentTasks.get? t).elim [] fun row => if row.correlationId = c then s.log t else [] := by
  have hkeep : ∀ e ∈ s.agentEvents, e.taskId = t →
      ∃ row, s.agentTasks.get? t = some row ∧ row.correlationId = e.correlationId := by
    rintro e he rfl
    exact h e he
  rw [List.filter_filter, Tables.log]
  cases hrow : s.agentTasks.get? t with
  | none =>
      rw [Option.elim_none, List.map_eq_nil_iff, List.filter_eq_nil_iff]
      intro e he hboth
      obtain ⟨ht, -⟩ : e.taskId = t ∧ e.correlationId = c := by simpa using hboth
      obtain ⟨row, hrow', -⟩ := hkeep e he ht
      exact absurd (hrow.symm.trans hrow') (by simp)
  | some row =>
      have hcorr : ∀ e ∈ s.agentEvents, e.taskId = t → e.correlationId = row.correlationId := by
        intro e he ht
        obtain ⟨row', hrow', hc⟩ := hkeep e he ht
        obtain rfl := Option.some.inj (hrow.symm.trans hrow')
        exact hc.symm
      rw [Option.elim_some]
      by_cases hc : row.correlationId = c
      · rw [if_pos hc]
        congr 1
        refine List.filter_congr fun e he => ?_
        by_cases ht : e.taskId = t
        · simp [ht, hcorr e he ht, hc]
        · simp [ht]
      · rw [if_neg hc, List.map_eq_nil_iff, List.filter_eq_nil_iff]
        intro e he hboth
        have hboth' : e.taskId = t ∧ e.correlationId = c := by simpa using hboth
        exact hc ((hcorr e he hboth'.1).symm.trans hboth'.2)

lemma trace_eq (calls : List Call) (c : UUID) :
    trace (store.exec Db.init calls).tables c
      = (store.exec Db.init calls).tables.agentEvents.filter fun e => e.correlationId = c :=
  (eventsOrdered_exec calls).insertionSort_filter _

end

/-- **The trace tells the tasks of its correlation**: along every run of the store a
later trace continues an earlier one; a task under the correlation has its whole log
in the trace, in order, and a task under another none of it. -/
theorem trace_tells (calls more : List Call) (c t : UUID) :
    trace (store.exec Db.init calls).tables c
        <+: trace (store.exec Db.init (calls ++ more)).tables c ∧
      ((trace (store.exec Db.init calls).tables c).filter fun e => e.taskId = t).map (·.event)
        = ((store.exec Db.init calls).tables.agentTasks.get? t).elim [] fun row =>
            if row.correlationId = c then (store.exec Db.init calls).tables.eventLog t else [] := by
  constructor
  · obtain ⟨evs, hevs⟩ : ∃ evs, (store.exec Db.init (calls ++ more)).tables.agentEvents
        = (store.exec Db.init calls).tables.agentEvents ++ evs := by
      rw [Machine.exec_append]
      exact Machine.invariant (M := store) (P := fun db : Db => ∃ evs, db.tables.agentEvents
        = (store.exec Db.init calls).tables.agentEvents ++ evs)
        ⟨[], (List.append_nil _).symm⟩ fun db call ⟨evs, hevs⟩ => by
          obtain ⟨evs', hevs'⟩ := agentEvents_next call db
          exact ⟨evs ++ evs', by rw [hevs', hevs, List.append_assoc]⟩
    rw [trace_eq, trace_eq, hevs, List.filter_append]
    exact List.prefix_append _ _
  · rw [trace_eq, eventLog_eq]
    exact events_of_correlation (filed_exec calls) t c

end ControlHarness

import ControlHarness.General.Serial
import ControlHarness.Store.StepSpec

/-!
The order of the events.

Event numbers come from one sequence that never goes back, so along every run
of the store the rows of `agent_events` stand in the order of their numbers
(`eventsOrdered_exec`). The log of a task, its events in the order of their
numbers, is then the rows of the task as they stand in the table
(`eventLog_eq`).
-/

namespace ControlHarness

open Store

/-- The event rows stand in the order of their numbers. -/
abbrev EventsOrdered (rows : List EventRow) (last : ℕ) : Prop := Serial EventRow.eventId rows last

/-- A connection keeps the order of the events, of those written and of those
committed. -/
def KeepsOrder (c c' : StoreConn) : Prop :=
  EventsOrdered c.tables.agentEvents c.seq.eventId →
    EventsOrdered c.committed.agentEvents c.seq.eventId →
    EventsOrdered c'.tables.agentEvents c'.seq.eventId ∧
      EventsOrdered c'.committed.agentEvents c'.seq.eventId

instance : StoreRel KeepsOrder where
  refl _ := fun ht hc => ⟨ht, hc⟩
  trans _ _ _ h h' := fun ht hc => h' (h ht hc).1 (h ht hc).2
  write f hf c := by
    intro ht hc
    refine ⟨?_, hc⟩
    rw [Tx.write_apply]
    exact (hf c.tables).symm ▸ ht
  event c taskId correlationId e := by
    intro ht hc
    rw [event_apply]
    exact ⟨ht.concat rfl, hc.mono (Nat.le_succ _)⟩
  drawReceipt _ := fun ht hc => ⟨ht, hc⟩
  drawDeadLetter _ := fun ht hc => ⟨ht, hc⟩

/-- Every call keeps the order of the events. -/
lemma eventsOrdered_next {db : Db} (h : EventsOrdered db.tables.agentEvents db.seq.eventId)
    (call : Call) :
    EventsOrdered (store.next call db).tables.agentEvents (store.next call db).seq.eventId := by
  have hcommit : Tx.Within KeepsOrder (Tx.commit : StoreTx Unit) := fun c ht _ => ⟨ht, ht⟩
  exact Tx.Within.connect
    (P := fun (s : Tables) (q : Sequences) => EventsOrdered s.agentEvents q.eventId)
    (within_program hcommit call.op) (fun _ _ hR => hR) h

/-- **The order of the events**: along every run the rows of `agent_events`
stand in the order of their numbers. -/
theorem eventsOrdered_exec (calls : List Call) :
    EventsOrdered (store.exec Db.init calls).tables.agentEvents
      (store.exec Db.init calls).seq.eventId :=
  Machine.invariant (P := fun db : Db => EventsOrdered db.tables.agentEvents db.seq.eventId)
    Serial.empty fun _ call h => eventsOrdered_next h call

/-! ### The log of a task -/

/-- The log of a task: its events in the order of their numbers. -/
def Tables.eventLog (s : Tables) (taskId : UUID) : List HarnessEvent :=
  ((s.agentEvents.filter fun e => e.taskId = taskId).insertionSort
    fun a b => a.eventId ≤ b.eventId).map (·.event)

/-- The events of a task as they stand in the table. -/
def Tables.log (s : Tables) (taskId : UUID) : List HarnessEvent :=
  (s.agentEvents.filter fun e => e.taskId = taskId).map (·.event)

lemma eventLog_eq_log {s : Tables} {last : ℕ} (h : EventsOrdered s.agentEvents last)
    (taskId : UUID) : s.eventLog taskId = s.log taskId := by
  rw [Tables.eventLog, h.insertionSort_filter, Tables.log]

/-- Along every run the log of a task is its rows as they stand. -/
lemma eventLog_eq (calls : List Call) (taskId : UUID) :
    (store.exec Db.init calls).tables.eventLog taskId
      = (store.exec Db.init calls).tables.log taskId :=
  eventLog_eq_log (eventsOrdered_exec calls) taskId

end ControlHarness

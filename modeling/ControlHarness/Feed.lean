import ControlHarness.Flight
import ControlHarness.Lifecycle.Refinement
import ControlHarness.Projection

/-!
The incremental feed under overlapping transactions.

Transactions begin, insert their events under the next numbers of the sequence, and commit
in any interleaving; the ones that write the circuit of one route wait for each other there.
The consumer polls with the cutoff of the last answer as its cursor. Numbers are handed out
before the commit, so a cutoff can pass the number of an event that is not visible yet.

* `feed`: the machine of transactions, polls and the consumer.
* `Feed.Settled`: no transaction in flight has drawn the last of its numbers for
  a task at or below the cutoff.
* `Feed.Tracked`: what the consumer last received of each task is what a full
  snapshot says of it, or the task is still ahead of the cursor; every step
  keeps it, a poll as long as the feed is settled.
* `feed_follows`: in a run whose polls all find the feed settled, the consumer
  has no lost update; `feed_loses_updates`: not in every run.
-/

namespace ControlHarness

open Store

/-! ### The feed -/

/-- The database with the transactions in flight, and the consumer: its cursor
and what it last received under each key. -/
structure Feed where
  db : Db
  flights : List Flight
  cursor : ℕ
  received : String → Option PandaTaskProjection

/-- The database after `init_db` and a consumer that has received nothing. -/
def Feed.init : Feed := ⟨Db.init, [], 0, fun _ => none⟩

/-- What can happen next: a transaction begins, inserts an event, goes on past its
circuit, commits or rolls back; a transaction that rolls back has drawn a number; the
consumer polls. -/
inductive FeedStep where
  | start (call : Call)
  | draw (i : ℕ)
  | pass (i : ℕ)
  | commit (i : ℕ)
  | rollback (i : ℕ)
  | skip
  | poll

/-- The consumer stores a projection under its key. -/
def receive (received : String → Option PandaTaskProjection) (p : PandaTaskProjection) :
    String → Option PandaTaskProjection :=
  fun key => if key = p.projectionKey then some p else received key

namespace Feed

/-- A transaction begins where it need not wait for a lock before its first event. Numbers
of receipts and dead letters are drawn at once, numbers of events one at a time. -/
def start (σ : Feed) (call : Call) : Feed :=
  let f := Flight.start call σ.db
  if ∀ g ∈ σ.flights, f.Compatible g then
    { σ with
      db := ⟨σ.db.tables, { (store.next call σ.db).seq with eventId := σ.db.seq.eventId }⟩
      flights := σ.flights ++ [f] }
  else σ

/-- Draw a number. -/
def skip (σ : Feed) : Feed :=
  { σ with db := ⟨σ.db.tables, { σ.db.seq with eventId := σ.db.seq.eventId + 1 }⟩ }

/-- A transaction inserts its next event. -/
def draw (σ : Feed) (i : ℕ) : Feed :=
  match σ.flights[i]? with
  | none => σ
  | some f =>
    if f.pending = [] ∨ f.AtCircuit then σ
    else { σ.skip with flights := σ.flights.set i (f.draw (σ.db.seq.eventId + 1)) }

/-- A transaction at its circuit goes on where no other one holds the lock on the row. -/
def pass (σ : Feed) (i : ℕ) : Feed :=
  match σ.flights[i]? with
  | none => σ
  | some f =>
    let passed := f.pass σ.db.tables
    if f.AtCircuit ∧ ∀ g ∈ σ.flights, passed.circuits.Disjoint g.circuits then
      { σ with flights := σ.flights.set i passed }
    else σ

/-- A transaction that has inserted its events and waits for nothing commits. -/
def commit (σ : Feed) (i : ℕ) : Feed :=
  match σ.flights[i]? with
  | none => σ
  | some f =>
    if f.pending = [] ∧ f.waiting = false then
      { σ with db := ⟨f.commit σ.db.tables, σ.db.seq⟩, flights := σ.flights.eraseIdx i }
    else σ

/-- A transaction rolls back. -/
def rollback (σ : Feed) (i : ℕ) : Feed := { σ with flights := σ.flights.eraseIdx i }

/-- The consumer applies the answer to a poll. -/
def deliver (σ : Feed) : Except ProjectionCursorError PandaProjectionBatch → Feed
  | .error _ => σ
  | .ok batch =>
    { σ with
      cursor := batch.throughEventId
      received := batch.tasks.foldl receive σ.received }

/-- An incremental snapshot of the committed tables at the cursor. -/
def poll (R : Rendering) (σ : Feed) : Except ProjectionCursorError PandaProjectionBatch :=
  pandaosProjectionSnapshot R σ.db.tables σ.cursor false

/-- No transaction in flight is overtaken by the cutoff of a poll. -/
def Settled (σ : Feed) : Prop :=
  ∀ f ∈ σ.flights, ∀ t, ¬ f.Overtaken σ.db.tables.throughEventId t

end Feed

/-- The feed; a poll answers with its batch. -/
def feed (R : Rendering) :
    Machine Feed FeedStep (Option (Except ProjectionCursorError PandaProjectionBatch)) where
  step
    | .start call, σ => (none, σ.start call)
    | .draw i, σ => (none, σ.draw i)
    | .pass i, σ => (none, σ.pass i)
    | .commit i, σ => (none, σ.commit i)
    | .rollback i, σ => (none, σ.rollback i)
    | .skip, σ => (none, σ.skip)
    | .poll, σ => (some (σ.poll R), σ.deliver (σ.poll R))

/-- Polls find the feed settled. -/
def PollsSettled (σ : Feed) (step : FeedStep) : Prop := step = .poll → σ.Settled

/-! ### What a call writes -/

/-- A call appends its events. -/
lemma agentEvents_next (call : Call) (db : Db) :
    ∃ evs, (store.next call db).tables.agentEvents = db.tables.agentEvents ++ evs := by
  have heff := store_effect call db
  generalize (store.next call db).tables = s' at heff ⊢
  generalize store.out call db = r at heff
  generalize call.op = op at heff
  cases heff with
  | failed | existing | notClaimed | renewed => exact ⟨[], (List.append_nil _).symm⟩
  | _ => exact ⟨_, rfl⟩

lemma log_append_events {s s' : Tables} {evs : List EventRow}
    (h : s'.agentEvents = s.agentEvents ++ evs) (t : UUID) :
    s'.log t = s.log t ++ eventsOf t evs := by
  rw [Tables.log_eq, Tables.log_eq, h, eventsOf_append]

lemma eventsOf_eq_nil {t : UUID} {evs : List EventRow} :
    eventsOf t evs = [] ↔ ∀ e ∈ evs, e.taskId ≠ t := by
  rw [eventsOf, List.map_eq_nil_iff, List.filter_eq_nil_iff]
  simp

/-- After a step the task exists. -/
lemma TaskStep.row_isSome {now : Timestamp} {t : UUID} {v v' : TaskView} {op : Op}
    (h : TaskStep now t v op v') : v'.row.isSome := by
  cases h with
  | heartbeatRejected worker mins row hrow | receiptRejected receipt row hid hrow =>
      rw [TaskView.note, hrow]
      rfl
  | _ => rfl

/-- A step that logs nothing is the renewal of a lease: no column of the
projection changes. -/
lemma TaskStep.silent {now : Timestamp} {t : UUID} {v v' : TaskView} {op : Op}
    (h : TaskStep now t v op v') (hlog : v'.log = v.log) :
    ∃ row row', v.row = some row ∧ v'.row = some row' ∧
      projectionRow row' = projectionRow row := by
  cases h with
  | renewed worker mins row hrow => exact ⟨row, _, hrow, rfl, rfl⟩
  | _ =>
      refine absurd hlog ?_
      simp [TaskView.write, TaskView.note, sweepEvents]

/-- What a call appends and writes: an event has its task, and a task without an
event keeps the columns of the projection. -/
lemma next_events (call : Call) (db : Db) {evs : List EventRow}
    (h : (store.next call db).tables.agentEvents = db.tables.agentEvents ++ evs) (t : UUID) :
    ((∃ e ∈ evs, e.taskId = t) → ((store.next call db).tables.agentTasks.get? t).isSome) ∧
      ((∀ e ∈ evs, e.taskId ≠ t) →
        (store.next call db).tables.agentTasks.get? t = db.tables.agentTasks.get? t ∨
        ∃ row row', db.tables.agentTasks.get? t = some row ∧
          (store.next call db).tables.agentTasks.get? t = some row' ∧
          projectionRow row' = projectionRow row) := by
  have hlog := log_append_events h t
  rcases view_next call db t with hview | hstep
  · -- the task is as it was, so none of the events is of it
    have hkept : db.tables.log t ++ eventsOf t evs = db.tables.log t :=
      hlog.symm.trans (congrArg TaskView.log hview)
    have hnone := eventsOf_eq_nil.mp (List.append_right_eq_self.mp hkept)
    refine ⟨?_, fun _ => Or.inl (congrArg TaskView.row hview)⟩
    rintro ⟨e, he, ht⟩
    exact absurd ht (hnone e he)
  · refine ⟨fun _ => hstep.row_isSome, fun hnone => Or.inr (hstep.silent ?_)⟩
    refine hlog.trans ?_
    rw [eventsOf_eq_nil.mpr hnone, List.append_nil]
    rfl

/-! ### The invariant -/

/-- What the commit of a transaction in flight will do: its events have numbers
of the sequence; for every task with an event the task exists and one of the
events is past the cursor; a task without an event keeps the columns of the
projection. -/
structure Flight.Lands (σ : Feed) (f : Flight) : Prop where
  numbered : ∀ e ∈ f.inserted, e.eventId ≤ σ.db.seq.eventId
  later : ∀ e ∈ f.events, (∃ e' ∈ f.pending, e'.taskId = e.taskId) ∨
    ∃ e' ∈ f.inserted, e'.taskId = e.taskId ∧ σ.cursor < e'.eventId
  home : ∀ e ∈ f.events,
    (f.tasks.get? e.taskId).isSome ∨ (σ.db.tables.agentTasks.get? e.taskId).isSome
  silent : ∀ t row', f.tasks.get? t = some row' → (∀ e ∈ f.events, e.taskId ≠ t) →
    ∃ row, σ.db.tables.agentTasks.get? t = some row ∧ projectionRow row' = projectionRow row

/-- A transaction that waits for the circuit of its task holds the lock on the task; all its
events are of the task, the first one inserted at most, and it will have no fewer of them. -/
def Flight.Waits (s : Tables) (f : Flight) : Prop :=
  ∃ t key, f.call.op.circuit s = some (t, key) ∧ (f.tasks.get? t).isSome ∧
    (∀ e ∈ f.events, e.taskId = t) ∧ f.inserted.length ≤ 1 ∧
    f.events.length ≤ f.call.op.eventCount (s.circuitBreakers.get? key).isSome

/-- The consumer is behind on a task only where the task is ahead of the
cursor. -/
def Feed.UpToDate (R : Rendering) (σ : Feed) (t : UUID) : Prop :=
  σ.received (projectionKey t) = σ.db.tables.projection R t ∨
    ∃ p, σ.db.tables.projection R t = some p ∧ σ.cursor < p.sourceEventId

/-- **The invariant of the feed.** -/
structure Feed.Tracked (R : Rendering) (σ : Feed) : Prop where
  numbered : ∀ e ∈ σ.db.tables.agentEvents, e.eventId ≤ σ.db.seq.eventId
  cursor_le : σ.cursor ≤ σ.db.tables.throughEventId
  upToDate : ∀ t, σ.UpToDate R t
  lands : ∀ f ∈ σ.flights, f.Lands σ
  waits : ∀ f ∈ σ.flights, f.waiting = true → f.Waits σ.db.tables
  locks : (σ.flights.map Flight.tasks).Pairwise Table.Disjoint

lemma Feed.Tracked.init (R : Rendering) : Feed.init.Tracked R where
  numbered := by simp [Feed.init, Db.init, Tables.init]
  cursor_le := Nat.zero_le _
  upToDate _ := Or.inl rfl
  lands := by simp [Feed.init]
  waits := by simp [Feed.init]
  locks := List.Pairwise.nil

/-- A transaction in flight lands the same while the sequence goes on and the
rows of its tasks stay. -/
lemma Flight.Lands.mono {σ σ' : Feed} {f : Flight} (h : f.Lands σ)
    (hseq : σ.db.seq.eventId ≤ σ'.db.seq.eventId) (hcursor : σ'.cursor = σ.cursor)
    (hsome : ∀ t, (σ.db.tables.agentTasks.get? t).isSome →
      (σ'.db.tables.agentTasks.get? t).isSome)
    (hrow : ∀ t, (f.tasks.get? t).isSome →
      σ'.db.tables.agentTasks.get? t = σ.db.tables.agentTasks.get? t) : f.Lands σ' where
  numbered e he := (h.numbered e he).trans hseq
  later := hcursor ▸ h.later
  home e he := (h.home e he).imp id (hsome e.taskId)
  silent t row' ht hnone := by
    rw [hrow t (ht ▸ rfl)]
    exact h.silent t row' ht hnone

/-- A transaction that begins lands. -/
lemma Flight.Lands.start (σ : Feed) (call : Call) : (Flight.start call σ.db).Lands σ := by
  obtain ⟨evs, hevs⟩ := agentEvents_next call σ.db
  have hpending : (Flight.start call σ.db).pending = evs := by
    rw [Flight.start, hevs, List.drop_left]
  have hevents : (Flight.start call σ.db).events = evs := by
    rw [Flight.events, hpending]
    rfl
  have hchanged : ∀ t, (Flight.start call σ.db).tasks.get? t
      = if (store.next call σ.db).tables.agentTasks.get? t = σ.db.tables.agentTasks.get? t
        then none else (store.next call σ.db).tables.agentTasks.get? t :=
    fun t => Table.get?_changed _ _ t
  constructor
  · intro e he
    exact absurd he List.not_mem_nil
  · intro e he
    rw [hevents] at he
    rw [hpending]
    exact Or.inl ⟨e, he, rfl⟩
  · intro e he
    rw [hevents] at he
    have hrow := (next_events call σ.db hevs e.taskId).1 ⟨e, he, rfl⟩
    rw [hchanged]
    split
    · rename_i heq
      exact Or.inr (heq ▸ hrow)
    · exact Or.inl hrow
  · intro t row' ht hnone
    rw [hevents] at hnone
    rw [hchanged] at ht
    split at ht
    · exact absurd ht (by simp)
    · rename_i hne
      rcases (next_events call σ.db hevs t).2 hnone with heq | ⟨row, r, hrow, hr, hsame⟩
      · exact absurd heq hne
      · obtain rfl : r = row' := Option.some.inj (hr.symm.trans ht)
        exact ⟨row, hrow, hsame⟩

/-- A transaction lands after it draws a number past the cursor. -/
lemma Flight.Lands.draw {σ : Feed} {f : Flight} (h : f.Lands σ)
    (hcursor : σ.cursor ≤ σ.db.seq.eventId) : (f.draw (σ.db.seq.eventId + 1)).Lands σ.skip := by
  rw [Flight.draw]
  cases hpending : f.pending with
  | nil =>
      exact h.mono (Nat.le_succ _) rfl (fun _ => id) fun _ _ => rfl
  | cons e rest =>
      -- the drawn event keeps its task, so the tasks of the events are the same
      have htasks : ∀ a ∈ (f.inserted ++ [{ e with eventId := σ.db.seq.eventId + 1 }]) ++ rest,
          ∃ a' ∈ f.events, a'.taskId = a.taskId := by
        intro a ha
        rw [Flight.events, hpending]
        rcases List.mem_append.mp ha with ha | ha
        · rcases List.mem_append.mp ha with ha | ha
          · exact ⟨a, List.mem_append_left _ ha, rfl⟩
          · rw [List.mem_singleton.mp ha]
            exact ⟨e, by simp, rfl⟩
        · exact ⟨a, by simp [ha], rfl⟩
      constructor
      · intro a ha
        rcases List.mem_append.mp ha with ha | ha
        · exact (h.numbered a ha).trans (Nat.le_succ _)
        · rw [List.mem_singleton.mp ha]
          exact le_refl _
      · intro a ha
        obtain ⟨a', ha', htask⟩ := htasks a ha
        have hdrawn : σ.cursor < σ.db.seq.eventId + 1 := Nat.lt_succ_of_le hcursor
        rcases h.later a' ha' with ⟨b, hb, hbt⟩ | ⟨b, hb, hbt, hlt⟩
        · rw [hpending] at hb
          rcases List.mem_cons.mp hb with rfl | hb
          · exact Or.inr ⟨_, List.mem_append_right _ (List.mem_singleton_self _),
              hbt.trans htask, hdrawn⟩
          · exact Or.inl ⟨b, hb, hbt.trans htask⟩
        · exact Or.inr ⟨b, List.mem_append_left _ hb, hbt.trans htask, hlt⟩
      · intro a ha
        obtain ⟨a', ha', htask⟩ := htasks a ha
        rw [← htask]
        exact h.home a' ha'
      · intro t row' ht hnone
        refine h.silent t row' ht fun a ha hat => ?_
        rw [Flight.events, hpending] at ha
        rcases List.mem_append.mp ha with ha | ha
        · exact hnone a (by simp [Flight.events, ha]) hat
        · rcases List.mem_cons.mp ha with rfl | ha
          · exact hnone { a with eventId := σ.db.seq.eventId + 1 } (by simp [Flight.events]) hat
          · exact hnone a (by simp [Flight.events, ha]) hat

@[simp] lemma Flight.tasks_draw (f : Flight) (n : ℕ) : (f.draw n).tasks = f.tasks := by
  rw [Flight.draw]
  cases f.pending <;> rfl

@[simp] lemma Flight.waiting_draw (f : Flight) (n : ℕ) : (f.draw n).waiting = f.waiting := by
  rw [Flight.draw]
  cases f.pending <;> rfl

/-! ### Transactions that wait -/

/-- A transaction that begins waits at its circuit. -/
lemma Flight.Waits.start {call : Call} {db : Db} (h : (Flight.start call db).waiting = true) :
    (Flight.start call db).Waits db.tables := by
  obtain ⟨⟨t, key⟩, hcircuit⟩ := Option.isSome_iff_exists.mp h
  obtain ⟨⟨evs, hevs, hcount, hown⟩, ⟨row, row', hrow, hrow', hne⟩, -⟩ := circuit_next hcircuit
  have hevents : (Flight.start call db).events = evs := by
    rw [Flight.events, Flight.start, hevs, List.drop_left]
    rfl
  refine ⟨t, key, hcircuit, ?_, ?_, Nat.zero_le _, ?_⟩
  · have hget : (Flight.start call db).tasks.get? t = some row' := by
      refine (Table.get?_changed _ _ t).trans ?_
      rw [Flight.start, if_neg, hrow']
      rw [hrow, hrow']
      exact fun hsame => hne (Option.some.inj hsame)
    rw [hget]
    rfl
  · rw [hevents]
    exact hown
  · rw [hevents, hcount]
    exact le_rfl

/-- A transaction waits on while its task stays and no circuit goes. -/
lemma Flight.Waits.mono {s s' : Tables} {f : Flight} (h : f.Waits s)
    (hrow : ∀ t, (f.tasks.get? t).isSome → s'.agentTasks.get? t = s.agentTasks.get? t)
    (hcircuit : ∀ key, (s.circuitBreakers.get? key).isSome →
      (s'.circuitBreakers.get? key).isSome) : f.Waits s' := by
  obtain ⟨t, key, hkey, hheld, hown, hinserted, hevents⟩ := h
  exact ⟨t, key, circuit_congr hkey (hrow t hheld), hheld, hown, hinserted,
    hevents.trans (Op.eventCount_mono (hcircuit key))⟩

/-- The first event of a transaction that waits is inserted. -/
lemma Flight.Waits.draw {s : Tables} {f : Flight} (h : f.Waits s) (hfirst : f.inserted = [])
    (n : ℕ) : (f.draw n).Waits s := by
  obtain ⟨t, key, hkey, hheld, hown, -, hevents⟩ := h
  rw [Flight.draw]
  rw [Flight.events, hfirst, List.nil_append] at hown hevents
  cases hpending : f.pending with
  | nil =>
      refine ⟨t, key, hkey, hheld, ?_, by rw [hfirst]; exact Nat.zero_le _, ?_⟩
      · rw [Flight.events, hfirst]
        exact hown
      · rw [Flight.events, hfirst]
        exact hevents
  | cons e rest =>
      rw [hpending] at hown hevents
      refine ⟨t, key, hkey, hheld, fun a ha => ?_, ?_, ?_⟩
      · dsimp only [Flight.events] at ha
        rw [hfirst, List.nil_append, List.singleton_append] at ha
        rcases List.mem_cons.mp ha with rfl | ha
        · exact hown e List.mem_cons_self
        · exact hown a (List.mem_cons_of_mem _ ha)
      · dsimp only
        rw [hfirst]
        exact le_rfl
      · dsimp only [Flight.events]
        rw [hfirst]
        exact hevents

/-- **A transaction goes on past its circuit**: it lands, and holds the lock on the task
that it had before and on no other. -/
lemma Flight.Waits.pass {σ : Feed} {f : Flight} (h : f.Waits σ.db.tables) (hlands : f.Lands σ)
    (hfirst : f.inserted ≠ []) :
    (f.pass σ.db.tables).Lands σ ∧ ∀ t row, (f.pass σ.db.tables).tasks.get? t = some row →
      (f.tasks.get? t).isSome := by
  obtain ⟨t, key, hkey, hheld, hown, hinserted, hcount⟩ := h
  have hwrites : WritesCircuit σ.db.tables (f.pass σ.db.tables).result t
      (f.call.op.eventCount (σ.db.tables.circuitBreakers.get? key).isSome) :=
    @circuit_next f.call ⟨σ.db.tables, f.seq⟩ t key hkey
  obtain ⟨⟨evs, hevs, hlength, hevsOwn⟩, ⟨row, -, hrow, -⟩, hothers⟩ := hwrites
  have hpending : (f.pass σ.db.tables).pending = evs.drop f.inserted.length := by
    refine congrArg (List.drop f.inserted.length) ?_
    exact (congrArg (List.drop σ.db.tables.agentEvents.length) hevs).trans List.drop_left
  have hkept : (f.pass σ.db.tables).inserted = f.inserted := rfl
  have hpassed : ∀ e ∈ (f.pass σ.db.tables).events, e.taskId = t := by
    intro e he
    rw [Flight.events, hkept, hpending] at he
    rcases List.mem_append.mp he with he | he
    · exact hown e (List.mem_append_left _ he)
    · exact hevsOwn e (List.mem_of_mem_drop he)
  have hfirst' : ∃ e ∈ f.inserted, e.taskId = t := by
    obtain ⟨e, he⟩ := List.exists_mem_of_ne_nil _ hfirst
    exact ⟨e, he, hown e (List.mem_append_left _ he)⟩
  have hwritten : ∀ u r, (f.pass σ.db.tables).tasks.get? u = some r → u = t := by
    intro u r hu
    by_contra hut
    have hget : (f.pass σ.db.tables).tasks.get? u = none :=
      (Table.get?_changed _ _ u).trans (if_pos (hothers u hut))
    rw [hget] at hu
    exact absurd hu (by simp)
  refine ⟨⟨hlands.numbered, fun e he => ?_, fun e he => ?_, fun u r hu hnone => ?_⟩,
    fun u r hu => hwritten u r hu ▸ hheld⟩
  · -- an event is still to come, or the transaction had none to come before
    rw [hpassed e he, hpending]
    rcases List.eq_nil_or_concat' (evs.drop f.inserted.length) with hnil | ⟨rest, e', hlast⟩
    · refine Or.inr ?_
      have hnone : f.pending = [] := by
        refine List.eq_nil_of_length_eq_zero ?_
        have hle : evs.length ≤ f.inserted.length := List.drop_eq_nil_iff.mp hnil
        rw [Flight.events, List.length_append] at hcount
        omega
      obtain ⟨a, ha, hat⟩ := hfirst'
      rcases hlands.later a (List.mem_append_left _ ha) with ⟨b, hb, -⟩ | hpast
      · rw [hnone] at hb
        exact absurd hb List.not_mem_nil
      · rw [hat] at hpast
        exact hpast
    · have hmem : e' ∈ evs.drop f.inserted.length := by
        rw [hlast]
        exact List.mem_append_right _ (List.mem_singleton_self _)
      exact Or.inl ⟨e', hmem, hevsOwn e' (List.mem_of_mem_drop hmem)⟩
  · rw [hpassed e he]
    exact Or.inr (by rw [hrow]; rfl)
  · obtain ⟨e, he, ht⟩ := hfirst'
    exact absurd (ht.trans (hwritten u r hu).symm) (hnone e (List.mem_append_left _ he))

/-! ### What the steps keep -/

lemma throughEventId_mono {s s' : Tables} (h : ∀ e ∈ s.agentEvents, e ∈ s'.agentEvents) :
    s.throughEventId ≤ s'.throughEventId :=
  throughEventId_le fun e he => le_throughEventId (h e he)

/-- In a list of pairwise related elements, an element is related to all
others. -/
lemma pairwise_eraseIdx {α : Type*} {r : α → α → Prop} (hsymm : ∀ a b, r a b → r b a) {l : List α}
    (h : l.Pairwise r) {i : ℕ} {a : α} (ha : l[i]? = some a) : ∀ b ∈ l.eraseIdx i, r a b := by
  induction l generalizing i with
  | nil => exact absurd ha (by simp)
  | cons c l ih =>
      rw [List.pairwise_cons] at h
      cases i with
      | zero =>
          obtain rfl : c = a := by simpa using ha
          exact h.1
      | succ i =>
          rw [List.getElem?_cons_succ] at ha
          intro b hb
          rcases List.mem_cons.mp hb with rfl | hb
          · exact hsymm _ _ (h.1 a (List.mem_of_getElem? ha))
          · exact ih h.2 ha b hb

/-- An element of a list of pairwise related ones gives way to one that is related to all
that it was related to. -/
lemma pairwise_set {α : Type*} {r : α → α → Prop} {l : List α} (h : l.Pairwise r) {i : ℕ}
    {a a' : α} (ha : l[i]? = some a) (hleft : ∀ b, r a b → r a' b)
    (hright : ∀ b, r b a → r b a') : (l.set i a').Pairwise r := by
  induction l generalizing i with
  | nil => exact absurd ha (by simp)
  | cons c l ih =>
      rw [List.pairwise_cons] at h
      cases i with
      | zero =>
          obtain rfl : c = a := by simpa using ha
          exact List.pairwise_cons.mpr ⟨fun b hb => hleft b (h.1 b hb), h.2⟩
      | succ i =>
          rw [List.getElem?_cons_succ] at ha
          refine List.pairwise_cons.mpr ⟨fun b hb => ?_, ih h.2 ha⟩
          rcases List.mem_or_eq_of_mem_set hb with hb | rfl
          · exact h.1 b hb
          · exact hright c (h.1 a (List.mem_of_getElem? ha))

/-- A commit leaves the projection of a task without an event as it was. -/
lemma Flight.Lands.projection_commit {R : Rendering} {σ : Feed} {f : Flight} (h : f.Lands σ)
    {t : UUID} (hnone : ∀ e ∈ f.events, e.taskId ≠ t) :
    (f.commit σ.db.tables).projection R t = σ.db.tables.projection R t := by
  have hsource : (f.commit σ.db.tables).sourceEventId (f.commit σ.db.tables).throughEventId t
      = σ.db.tables.sourceEventId σ.db.tables.throughEventId t := by
    refine sourceEventId_congr fun e he => ?_
    rw [Flight.commit, List.mem_append]
    refine or_iff_left fun hmem => ?_
    exact hnone e (List.mem_append_left _ hmem) he
  rw [Tables.projection, Tables.projection, hsource]
  have hrow : (f.commit σ.db.tables).agentTasks.get? t
      = (f.tasks.get? t).or (σ.db.tables.agentTasks.get? t) := Table.get?_overlay _ _ t
  rw [hrow]
  cases hwritten : f.tasks.get? t with
  | none => rw [Option.none_or]
  | some row' =>
      obtain ⟨row, hrow, hsame⟩ := h.silent t row' hwritten hnone
      rw [Option.some_or, hrow, Option.bind_some, Option.bind_some, hsame]

/-- After a commit a task with an event is ahead of the cursor. -/
lemma Flight.Lands.ahead {R : Rendering} {σ : Feed} {f : Flight} (h : f.Lands σ)
    (hpending : f.pending = []) {t : UUID} (hevent : ∃ e ∈ f.events, e.taskId = t) :
    ∃ p, (f.commit σ.db.tables).projection R t = some p ∧ σ.cursor < p.sourceEventId := by
  obtain ⟨e, he, rfl⟩ := hevent
  have hpast : ∃ e' ∈ f.inserted, e'.taskId = e.taskId ∧ σ.cursor < e'.eventId := by
    rcases h.later e he with ⟨e', he', -⟩ | hpast
    · rw [hpending] at he'
      exact absurd he' List.not_mem_nil
    · exact hpast
  obtain ⟨e', he', htask, hlt⟩ := hpast
  have hmem : e' ∈ (f.commit σ.db.tables).agentEvents := List.mem_append_right _ he'
  obtain ⟨v, hv, hle⟩ := exists_sourceEventId hmem
  rw [htask] at hv
  have hrow : ((f.commit σ.db.tables).agentTasks.get? e.taskId).isSome := by
    have hget : (f.commit σ.db.tables).agentTasks.get? e.taskId
        = (f.tasks.get? e.taskId).or (σ.db.tables.agentTasks.get? e.taskId) :=
      Table.get?_overlay _ _ _
    rw [hget, Option.isSome_or, Bool.or_eq_true]
    exact h.home e he
  obtain ⟨row, hrow⟩ := Option.isSome_iff_exists.mp hrow
  refine ⟨projectTask R (projectionRow row v), ?_, hlt.trans_le hle⟩
  exact Tables.projection_eq_some.mpr ⟨row, v, hrow, hv, rfl⟩

namespace Feed.Tracked

variable {R : Rendering} {σ : Feed}

lemma cursor_le_seq (h : σ.Tracked R) : σ.cursor ≤ σ.db.seq.eventId :=
  h.cursor_le.trans (throughEventId_le h.numbered)

lemma start (h : σ.Tracked R) (call : Call) : (σ.start call).Tracked R := by
  rw [Feed.start]
  dsimp only
  split
  · rename_i hcompatible
    constructor
    · exact h.numbered
    · exact h.cursor_le
    · exact h.upToDate
    · intro f hf
      rcases List.mem_append.mp hf with hf | hf
      · exact (h.lands f hf).mono (le_refl _) rfl (fun _ => id) fun _ _ => rfl
      · rw [List.mem_singleton.mp hf]
        exact (Flight.Lands.start σ call).mono (le_refl _) rfl (fun _ => id) fun _ _ => rfl
    · intro f hf
      rcases List.mem_append.mp hf with hf | hf
      · exact h.waits f hf
      · rw [List.mem_singleton.mp hf]
        exact Flight.Waits.start
    · dsimp only
      rw [List.map_append, List.pairwise_append]
      refine ⟨h.locks, List.pairwise_singleton _ _, fun a ha b hb => ?_⟩
      obtain ⟨g, hg, rfl⟩ := List.mem_map.mp ha
      rw [List.map_singleton, List.mem_singleton] at hb
      rw [hb]
      exact (hcompatible g hg).1.symm
  · exact h

lemma skip (h : σ.Tracked R) : σ.skip.Tracked R where
  numbered e he := (h.numbered e he).trans (Nat.le_succ _)
  cursor_le := h.cursor_le
  upToDate := h.upToDate
  lands f hf := (h.lands f hf).mono (Nat.le_succ _) rfl (fun _ => id) fun _ _ => rfl
  waits := h.waits
  locks := h.locks

lemma draw (h : σ.Tracked R) (i : ℕ) : (σ.draw i).Tracked R := by
  rw [Feed.draw]
  cases hi : σ.flights[i]? with
  | none => exact h
  | some f =>
      dsimp only
      split
      · exact h
      · rename_i hnext
        have hf : f ∈ σ.flights := List.mem_of_getElem? hi
        constructor
        · exact h.skip.numbered
        · exact h.skip.cursor_le
        · exact h.skip.upToDate
        · intro g hg
          rcases List.mem_or_eq_of_mem_set hg with hg | rfl
          · exact (h.skip.lands g hg).mono (le_refl _) rfl (fun _ => id) fun _ _ => rfl
          · have hdraw := (h.lands f hf).draw h.cursor_le_seq
            exact hdraw.mono (le_refl _) rfl (fun _ => id) fun _ _ => rfl
        · intro g hg hwaits
          rcases List.mem_or_eq_of_mem_set hg with hg | rfl
          · exact h.waits g hg hwaits
          · rw [Flight.waiting_draw] at hwaits
            refine (h.waits f hf hwaits).draw ?_ _
            by_contra hinserted
            exact hnext (Or.inr ⟨hwaits, hinserted⟩)
        · refine List.pairwise_map.mpr (pairwise_set (List.pairwise_map.mp h.locks) hi ?_ ?_)
          all_goals
            intro g hg
            rw [Flight.tasks_draw]
            exact hg

lemma pass (h : σ.Tracked R) (i : ℕ) : (σ.pass i).Tracked R := by
  rw [Feed.pass]
  cases hi : σ.flights[i]? with
  | none => exact h
  | some f =>
      dsimp only
      split
      · rename_i hpass
        obtain ⟨⟨hwaiting, hfirst⟩, -⟩ := hpass
        have hf : f ∈ σ.flights := List.mem_of_getElem? hi
        obtain ⟨hlands, hheld⟩ := (h.waits f hf hwaiting).pass (h.lands f hf) hfirst
        have hkeys : ∀ g : Flight, f.tasks.Disjoint g.tasks →
            (f.pass σ.db.tables).tasks.Disjoint g.tasks := by
          intro g hg r hr q hq hkey
          obtain ⟨r', hr'⟩ := Option.isSome_iff_exists.mp (hheld _ r (Table.get?_of_mem hr))
          exact hg r' (Table.mem_of_get? hr') q hq ((Table.key_of_get? hr').trans hkey)
        constructor
        · exact h.numbered
        · exact h.cursor_le
        · exact h.upToDate
        · intro g hg
          rcases List.mem_or_eq_of_mem_set hg with hg | rfl
          · exact (h.lands g hg).mono (le_refl _) rfl (fun _ => id) fun _ _ => rfl
          · exact hlands.mono (le_refl _) rfl (fun _ => id) fun _ _ => rfl
        · intro g hg hwaits
          rcases List.mem_or_eq_of_mem_set hg with hg | rfl
          · exact h.waits g hg hwaits
          · exact absurd hwaits Bool.false_ne_true
        · refine List.pairwise_map.mpr (pairwise_set (List.pairwise_map.mp h.locks) hi ?_ ?_)
          · exact hkeys
          · exact fun g hg => (hkeys g hg.symm).symm
      · exact h

lemma commit (h : σ.Tracked R) (i : ℕ) : (σ.commit i).Tracked R := by
  rw [Feed.commit]
  cases hi : σ.flights[i]? with
  | none => exact h
  | some f =>
      dsimp only
      split
      · rename_i hready
        obtain ⟨hpending, -⟩ := hready
        have hlands : f.Lands σ := h.lands f (List.mem_of_getElem? hi)
        have hget : ∀ t, (f.commit σ.db.tables).agentTasks.get? t
            = (f.tasks.get? t).or (σ.db.tables.agentTasks.get? t) :=
          fun t => Table.get?_overlay _ _ t
        have hdisjoint : ∀ g ∈ σ.flights.eraseIdx i, f.tasks.Disjoint g.tasks :=
          pairwise_eraseIdx (r := fun a b : Flight => a.tasks.Disjoint b.tasks)
            (fun _ _ hab => hab.symm) (List.pairwise_map.mp h.locks) hi
        constructor
        · intro e he
          rcases List.mem_append.mp he with he | he
          · exact h.numbered e he
          · exact hlands.numbered e he
        · exact h.cursor_le.trans (throughEventId_mono fun e he => List.mem_append_left _ he)
        · intro t
          by_cases hevent : ∃ e ∈ f.events, e.taskId = t
          · exact Or.inr (hlands.ahead hpending hevent)
          · have hnone : ∀ e ∈ f.events, e.taskId ≠ t := fun e he ht => hevent ⟨e, he, ht⟩
            have hsame := hlands.projection_commit (R := R) hnone
            rw [Feed.UpToDate]
            dsimp only
            rw [hsame]
            exact h.upToDate t
        · intro g hg
          have hg' : g ∈ σ.flights := (List.eraseIdx_sublist _ i).subset hg
          refine (h.lands g hg').mono (le_refl _) rfl (fun t ht => ?_) fun t ht => ?_
          · dsimp only
            rw [hget, Option.isSome_or, ht, Bool.or_true]
          · obtain ⟨r, hr⟩ := Option.isSome_iff_exists.mp ht
            dsimp only
            rw [hget, (hdisjoint g hg).symm.get?_eq_none hr, Option.none_or]
        · intro g hg hwaits
          have hg' : g ∈ σ.flights := (List.eraseIdx_sublist _ i).subset hg
          refine (h.waits g hg' hwaits).mono (fun t ht => ?_) fun key hkey => ?_
          · obtain ⟨r, hr⟩ := Option.isSome_iff_exists.mp ht
            dsimp only
            rw [hget, (hdisjoint g hg).symm.get?_eq_none hr, Option.none_or]
          · have hcircuit : (f.commit σ.db.tables).circuitBreakers.get? key
                = (f.circuits.get? key).or (σ.db.tables.circuitBreakers.get? key) :=
              Table.get?_overlay _ _ key
            dsimp only
            rw [hcircuit, Option.isSome_or, hkey, Bool.or_true]
        · exact h.locks.sublist ((List.eraseIdx_sublist _ i).map _)
      · exact h

lemma rollback (h : σ.Tracked R) (i : ℕ) : (σ.rollback i).Tracked R where
  numbered := h.numbered
  cursor_le := h.cursor_le
  upToDate := h.upToDate
  lands f hf := by
    have hf' : f ∈ σ.flights := (List.eraseIdx_sublist _ i).subset hf
    exact (h.lands f hf').mono (le_refl _) rfl (fun _ => id) fun _ _ => rfl
  waits f hf := h.waits f ((List.eraseIdx_sublist _ i).subset hf)
  locks := h.locks.sublist ((List.eraseIdx_sublist _ i).map _)

end Feed.Tracked

/-! ### Polls -/

/-- What the consumer holds after a batch: the item under the key, or what it
held. -/
lemma foldl_receive {ps : List PandaTaskProjection}
    (hkeys : ∀ p ∈ ps, ∀ q ∈ ps, p.projectionKey = q.projectionKey → p = q)
    (received : String → Option PandaTaskProjection) (key : String) :
    ps.foldl receive received key
      = (ps.find? fun p => p.projectionKey = key).or (received key) := by
  induction ps generalizing received with
  | nil => rfl
  | cons p ps ih =>
      have hrest : ∀ q ∈ ps, ∀ q' ∈ ps, q.projectionKey = q'.projectionKey → q = q' :=
        fun q hq q' hq' => hkeys q (List.mem_cons_of_mem _ hq) q' (List.mem_cons_of_mem _ hq')
      rw [List.foldl_cons, ih hrest, receive]
      by_cases hp : p.projectionKey = key
      · rw [if_pos hp.symm, List.find?_cons_of_pos (by simp [hp]), Option.some_or]
        cases hfind : ps.find? (fun q => q.projectionKey = key) with
        | none => rfl
        | some q =>
            have hq : q.projectionKey = key := by simpa using List.find?_some hfind
            have hmem := List.mem_cons_of_mem p (List.mem_of_find?_eq_some hfind)
            rw [hkeys q hmem p List.mem_cons_self (hq.trans hp.symm), Option.some_or]
      · rw [if_neg (Ne.symm hp), List.find?_cons_of_neg (by simp [hp])]

/-- The items of a snapshot have different keys. -/
lemma tasks_unique {R : Rendering} {s : Tables} {after : ℕ} {full : Bool}
    {batch : PandaProjectionBatch} (h : pandaosProjectionSnapshot R s after full = .ok batch) :
    ∀ p ∈ batch.tasks, ∀ q ∈ batch.tasks, p.projectionKey = q.projectionKey → p = q := by
  intro p hp q hq hkey
  obtain ⟨t, ht, -⟩ := (mem_tasks h).mp hp
  obtain ⟨t', ht', -⟩ := (mem_tasks h).mp hq
  rw [Tables.projection_key ht, Tables.projection_key ht'] at hkey
  obtain rfl := projectionKey_injective hkey
  exact Option.some.inj (ht.symm.trans ht')

/-- **After a poll the consumer is not behind on any task.** -/
lemma Feed.Tracked.received_poll {R : Rendering} {σ : Feed} (h : σ.Tracked R) :
    (σ.deliver (σ.poll R)).cursor = σ.db.tables.throughEventId ∧
      ∀ t, (σ.deliver (σ.poll R)).received (projectionKey t) = σ.db.tables.projection R t := by
  obtain ⟨batch, hbatch⟩ : ∃ batch, pandaosProjectionSnapshot R σ.db.tables σ.cursor false
      = .ok batch := snapshot_returns R σ.db.tables (Or.inr h.cursor_le)
  rw [Feed.poll, hbatch, Feed.deliver]
  refine ⟨(snapshot_eq_ok hbatch).1, fun t => ?_⟩
  dsimp only
  rw [foldl_receive (tasks_unique hbatch), find?_tasks hbatch]
  rcases h.upToDate t with hcurrent | ⟨p, hp, hahead⟩
  · rw [hcurrent]
    cases σ.db.tables.projection R t with
    | none => rfl
    | some p =>
        rw [Option.filter_some]
        split <;> rfl
  · rw [hp, Option.filter_some, if_pos (by simpa using hahead), Option.some_or]

lemma Feed.Tracked.poll {R : Rendering} {σ : Feed} (h : σ.Tracked R) (hsettled : σ.Settled) :
    (σ.deliver (σ.poll R)).Tracked R := by
  obtain ⟨hcursor, hreceived⟩ := h.received_poll
  have hdb : (σ.deliver (σ.poll R)).db = σ.db := by
    cases σ.poll R <;> rfl
  have hflights : (σ.deliver (σ.poll R)).flights = σ.flights := by
    cases σ.poll R <;> rfl
  constructor
  · rw [hdb]
    exact h.numbered
  · rw [hdb, hcursor]
  · intro t
    refine Or.inl ?_
    rw [hdb]
    exact hreceived t
  · rw [hflights]
    intro f hf
    have hlands := h.lands f hf
    constructor
    · rw [hdb]
      exact hlands.numbered
    · -- the feed is settled: an event still to come, or one past the cutoff
      intro e he
      by_contra hnot
      rw [not_or] at hnot
      refine hsettled f hf e.taskId ⟨⟨e, he, rfl⟩, fun a ha hat => ?_, fun a ha hat => ?_⟩
      · exact hnot.1 ⟨a, ha, hat⟩
      · by_contra hlt
        refine hnot.2 ⟨a, ha, hat, ?_⟩
        rw [hcursor]
        omega
    · rw [hdb]
      exact hlands.home
    · rw [hdb]
      exact hlands.silent
  · rw [hflights, hdb]
    exact h.waits
  · rw [hflights]
    exact h.locks

/-- Every step keeps the invariant, a poll where the feed is settled. -/
lemma Feed.Tracked.next {R : Rendering} {σ : Feed} {step : FeedStep} (h : σ.Tracked R)
    (hsettled : PollsSettled σ step) : ((feed R).next step σ).Tracked R := by
  cases step with
  | start call => exact h.start call
  | draw i => exact h.draw i
  | pass i => exact h.pass i
  | commit i => exact h.commit i
  | rollback i => exact h.rollback i
  | skip => exact h.skip
  | poll => exact h.poll (hsettled rfl)

lemma tracked_exec {R : Rendering} {steps : List FeedStep}
    (h : (feed R).Along PollsSettled Feed.init steps) :
    ((feed R).exec Feed.init steps).Tracked R :=
  h.invariant (Feed.Tracked.init R) fun _ _ hsettled ht => ht.next hsettled

/-- What the consumer last received of every task is what a full snapshot says
of it now. -/
def Feed.NoLostUpdate (R : Rendering) (σ : Feed) : Prop :=
  ∃ batch, pandaosProjectionSnapshot R σ.db.tables σ.cursor true = .ok batch ∧
    ∀ t, σ.received (projectionKey t)
      = batch.tasks.find? fun p => p.projectionKey = projectionKey t

/-- **No lost update while the polls find the feed settled**: after a poll the
consumer holds the projection of every task. -/
theorem feed_follows (R : Rendering) (steps : List FeedStep)
    (hsettled : (feed R).Along PollsSettled Feed.init steps) :
    ((feed R).exec Feed.init (steps ++ [.poll])).NoLostUpdate R := by
  have htracked := tracked_exec hsettled
  rw [Machine.exec_concat]
  generalize (feed R).exec Feed.init steps = σ at htracked ⊢
  have hdb : (σ.deliver (σ.poll R)).db = σ.db := by
    cases σ.poll R <;> rfl
  have hnext : (feed R).next .poll σ = σ.deliver (σ.poll R) := rfl
  rw [hnext, Feed.NoLostUpdate, hdb]
  obtain ⟨batch, hbatch⟩ : ∃ batch, pandaosProjectionSnapshot R σ.db.tables
      (σ.deliver (σ.poll R)).cursor true = .ok batch :=
    snapshot_returns R σ.db.tables (Or.inl rfl)
  refine ⟨batch, hbatch, fun t => ?_⟩
  rw [htracked.received_poll.2 t, find?_tasks hbatch]
  cases σ.db.tables.projection R t with
  | none => rfl
  | some p => rw [Option.filter_some, Bool.true_or, if_pos rfl]

/-- No event of the transactions in flight is the last one of its task. -/
lemma Feed.settled_of_pending {σ : Feed}
    (h : ∀ f ∈ σ.flights, ∀ e ∈ f.events, ∃ e' ∈ f.pending, e'.taskId = e.taskId) :
    σ.Settled := by
  rintro f hf t ⟨⟨e, he, rfl⟩, hnone, -⟩
  obtain ⟨e', he', htask⟩ := h f hf e he
  exact hnone e' he' htask

/-- The failure report on the second task. -/
def siblingReport : FailureReportV1 := { sampleReport with taskId := siblingCard.taskId }

/-- Two tasks of one route are created and claimed; then a failure of each is reported, both
reports insert their first event, and the one that comes to the circuit later waits. -/
def reportsRun : List FeedStep :=
  [.start ⟨.createTask sampleCard, 0⟩, .draw 0, .commit 0,
    .start ⟨.createTask siblingCard, 0⟩, .draw 0, .commit 0,
    .start ⟨.claim sampleCard.taskId "hermes_local" "worker-a" 15, 0⟩, .draw 0, .commit 0,
    .start ⟨.claim siblingCard.taskId "hermes_local" "worker-a" 15, 0⟩, .draw 0, .commit 0,
    .start ⟨.reportFailure sampleReport ⟨11⟩, 0⟩, .start ⟨.reportFailure siblingReport ⟨12⟩, 0⟩,
    .draw 0, .draw 1, .pass 1, .pass 0]

/-- The later report goes on when the other one has committed. -/
def reportsRest : List FeedStep :=
  [.draw 1, .commit 1, .pass 0, .draw 0, .commit 0]

/-- Two failure reports on one route overlap, with a poll in between: nothing is lost, and
both count against the circuit. -/
theorem feed_follows_reports :
    ((feed sampleRendering).exec Feed.init
        ((reportsRun ++ .poll :: reportsRest) ++ [.poll])).NoLostUpdate sampleRendering ∧
      (((feed sampleRendering).exec Feed.init
        (reportsRun ++ .poll :: reportsRest)).db.tables.circuitBreakers.rows.map
          (·.failureCount)) = [2] := by
  refine ⟨feed_follows sampleRendering _ ?_, by decide +kernel⟩
  have hother : ∀ {σ steps}, (∀ step ∈ steps, step ≠ .poll) →
      (feed sampleRendering).Along PollsSettled σ steps := fun hsteps =>
    (Machine.along_of_forall hsteps).mono fun _ _ hne h => absurd h hne
  refine Machine.along_append.mpr ⟨hother (by simp [reportsRun]),
    Machine.along_cons.mpr ⟨fun _ => ?_, hother (by simp [reportsRest])⟩⟩
  exact Feed.settled_of_pending (by decide +kernel)

/-- Two tasks are created at the same time; the second draws its number later
and commits first, and a poll comes before the first commits. -/
def overtakingRun : List FeedStep :=
  [.start ⟨.createTask sampleCard, 0⟩, .start ⟨.createTask siblingCard, 0⟩, .draw 0, .draw 1,
    .commit 1, .poll, .commit 0]

/-- Not every run is without lost updates: the first task is never delivered. -/
theorem feed_loses_updates :
    ¬ ∀ (R : Rendering) (steps : List FeedStep), ((feed R).exec Feed.init steps).flights = [] →
      ((feed R).exec Feed.init (steps ++ [.poll])).NoLostUpdate R := by
  intro h
  have hquiet : ((feed sampleRendering).exec Feed.init overtakingRun).flights = [] := by
    decide +kernel
  obtain ⟨batch, hbatch, hreceived⟩ := h sampleRendering overtakingRun hquiet
  have hmissing : ((feed sampleRendering).exec Feed.init (overtakingRun ++ [.poll])).received
      (projectionKey sampleCard.taskId) = none := by decide +kernel
  have hlisted : (((feed sampleRendering).exec Feed.init
      (overtakingRun ++ [.poll])).db.tables.projection sampleRendering
      sampleCard.taskId).isSome := by decide +kernel
  obtain ⟨p, hp⟩ := Option.isSome_iff_exists.mp hlisted
  have hfound := hreceived sampleCard.taskId
  rw [hmissing, find?_tasks hbatch, hp, Option.filter_some, Bool.true_or, if_pos rfl] at hfound
  exact absurd hfound (by simp)

end ControlHarness

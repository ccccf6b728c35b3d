import ControlHarness.Lifecycle.Orderly
import ControlHarness.Lifecycle.Outcome

/-!
The idempotency of the creation of a task.

`create_task` inserts with `ON CONFLICT (idempotency_key) DO NOTHING` and answers
with the stored row when the key is taken, so the key alone decides whether a task
exists already (`createTask_bound`); the rest of the card is not compared, and
another task under the same key is acknowledged as the stored one
(`not_createTask_sameIntent`).

* `Tables.KeysUnique`: no two tasks have one key.
* `SameIntent`: two cards that differ only where a default is drawn.
-/

namespace ControlHarness

open Store

/-- The cards agree, up to the fields with a default that is drawn. -/
def SameIntent (card card' : TaskCardV1) : Prop :=
  { card with
    taskId := card'.taskId
    correlationId := card'.correlationId
    createdAt := card'.createdAt } = card'

/-! ### The columns of the card, in every state -/

/-- A row repeats its card in every reachable state. -/
lemma fitsCard_exec (calls : List Call) {t : UUID} {row : TaskRow}
    (hrow : (store.exec Db.init calls).tables.agentTasks.get? t = some row) : FitsCard row := by
  have h : ∀ row, ((store.exec Db.init calls).tables.view t).row = some row → FitsCard row := by
    refine view_exec (A := fun _ => True) (P := fun v => ∀ row, v.row = some row → FitsCard row)
      (fun _ _ => trivial) t (fun row hnone => absurd hnone (by simp [TaskView.empty])) ?_
    intro now v op v' _ hstep hv row' hrow'
    rcases hstep.sameCard with ⟨card, route, -, -, -, hnew⟩ | ⟨row, new, hold, hnew, hsame⟩
    · obtain rfl := Option.some.inj (hrow'.symm.trans hnew)
      exact .newTask card route now
    · obtain rfl := Option.some.inj (hrow'.symm.trans hnew)
      exact hsame.fitsCard (hv row hold)
  exact h row hrow

/-- No two tasks have one key. -/
def Tables.KeysUnique (s : Tables) : Prop :=
  ∀ row ∈ s.agentTasks.rows, ∀ row' ∈ s.agentTasks.rows,
    row.idempotencyKey = row'.idempotencyKey → row = row'

/-- With the key taken, the tables stay as they are. -/
lemma createTask_taken {db : Db} {call : Call} {card : TaskCardV1} {row : TaskRow}
    (hop : call.op = .createTask card) (hrow : row ∈ db.tables.agentTasks.rows)
    (hkey : row.idempotencyKey = card.idempotencyKey) :
    (store.next call db).tables = db.tables := by
  have heff := store_effect call db
  rw [hop] at heff
  generalize store.out call db = reply at heff
  generalize (store.next call db).tables = s' at heff ⊢
  cases heff with
  | failed | existing => rfl
  | created _ route eventId hroute hfree =>
      exact absurd (List.find?_eq_none.mp hfree row hrow) (by simp [hkey])

/-- A row after a call is a new one, whose key was free, or carries the key of the
row of its task before. -/
lemma key_next {db : Db} {call : Call} {row : TaskRow}
    (hrow : row ∈ (store.next call db).tables.agentTasks.rows) :
    (∃ card, call.op = .createTask card ∧ card.taskId = row.taskId ∧
        card.idempotencyKey = row.idempotencyKey ∧
        ∀ old ∈ db.tables.agentTasks.rows, old.idempotencyKey ≠ row.idempotencyKey) ∨
      ∃ old ∈ db.tables.agentTasks.rows, old.taskId = row.taskId ∧
        old.idempotencyKey = row.idempotencyKey := by
  have hget := Table.get?_of_mem hrow
  cases hold : db.tables.agentTasks.get? row.taskId with
  | some old =>
      obtain ⟨row', hrow', hsame⟩ := sameCard_next call hold
      obtain rfl := Option.some.inj (hget.symm.trans hrow')
      exact Or.inr ⟨old, Table.mem_of_get? hold, hsame.taskId.symm, hsame.idempotencyKey.symm⟩
  | none =>
      left
      have hmove : TaskStep call.now row.taskId (db.tables.view row.taskId) call.op
          ((store.next call db).tables.view row.taskId) := by
        refine (view_next call db row.taskId).resolve_left fun hsame => ?_
        have hrowSame := (congrArg TaskView.row hsame).symm.trans hget
        exact absurd (hold.symm.trans hrowSame) (by simp)
      rcases hmove.sameCard with ⟨card, route, hop, hid, -, hnew⟩ | ⟨old, -, hsome, -⟩
      · obtain rfl : row = newTask card route call.now :=
          Option.some.inj (hget.symm.trans hnew)
        refine ⟨card, hop, hid, rfl, fun old holdMem hkey => ?_⟩
        rw [createTask_taken hop holdMem hkey] at hget
        exact absurd (hold.symm.trans hget) (by simp)
      · exact absurd (hold.symm.trans hsome) (by simp)

lemma Tables.KeysUnique.next {db : Db} (h : db.tables.KeysUnique) (call : Call) :
    (store.next call db).tables.KeysUnique := by
  intro row hrow row' hrow' hkey
  refine Table.eq_of_key_eq _ hrow hrow' ?_
  rcases key_next hrow with ⟨card, hop, hid, -, hfree⟩ | ⟨old, hold, hid, hsame⟩
  · rcases key_next hrow' with ⟨card', hop', hid', -, -⟩ | ⟨old', hold', -, hsame'⟩
    · obtain rfl := Op.createTask.inj (hop.symm.trans hop')
      exact hid.symm.trans hid'
    · exact absurd (hsame'.trans hkey.symm) (hfree old' hold')
  · rcases key_next hrow' with ⟨card', -, -, -, hfree'⟩ | ⟨old', hold', hid', hsame'⟩
    · exact absurd (hsame.trans hkey) (hfree' old hold)
    · have holds : old = old' := h old hold old' hold' (by rw [hsame, hkey, hsame'])
      rw [← hid, ← hid', holds]

/-- **A key belongs to one task** in every reachable state. -/
lemma keysUnique_exec (calls : List Call) : (store.exec Db.init calls).tables.KeysUnique :=
  Machine.invariant (M := store) (P := fun db : Db => db.tables.KeysUnique)
    (fun _ hrow => absurd hrow List.not_mem_nil) fun _ call h => h.next call

/-! ### The creation under a taken key -/

/-- A card without a default route raises. -/
lemma createTask_indexError {db : Db} {card : TaskCardV1} (now : Timestamp)
    (h : card.modelRouting.defaultRoute = []) :
    store.out ⟨.createTask card, now⟩ db = .error .indexError := by
  have hrun : createTask card ⟨db.tables, db.tables, db.seq, now⟩
      = (.error .indexError, ⟨db.tables, db.tables, db.seq, now⟩) := by
    rw [createTask, h]
    rfl
  exact out_of_error (Tx.bind_error hrun)

/-- **The key decides**: under a taken key nothing is written, and the answer is the
stored task of the key, whatever else the card says; a card without a default
route raises. -/
theorem createTask_bound (calls : List Call) (now : Timestamp) {card : TaskCardV1}
    {row : TaskRow} (hrow : row ∈ (store.exec Db.init calls).tables.agentTasks.rows)
    (hkey : row.idempotencyKey = card.idempotencyKey) :
    (store.next ⟨.createTask card, now⟩ (store.exec Db.init calls)).tables =
        (store.exec Db.init calls).tables ∧
      store.out ⟨.createTask card, now⟩ (store.exec Db.init calls) =
        (if card.modelRouting.defaultRoute = [] then .error .indexError
          else .ok (.created row false)) ∧
      row.card.idempotencyKey = card.idempotencyKey := by
  have hfits := fitsCard_exec calls (Table.get?_of_mem hrow)
  have hunique := keysUnique_exec calls
  generalize store.exec Db.init calls = db at hrow hfits hunique ⊢
  have hfind : db.tables.agentTasks.rows.find? (fun r => r.idempotencyKey = card.idempotencyKey)
      = some row := by
    cases hfound : db.tables.agentTasks.rows.find?
        (fun r => r.idempotencyKey = card.idempotencyKey) with
    | none => exact absurd (List.find?_eq_none.mp hfound row hrow) (by simp [hkey])
    | some found =>
        have hfoundKey : found.idempotencyKey = card.idempotencyKey := by
          simpa using List.find?_some hfound
        exact congrArg some (hunique found (List.mem_of_find?_eq_some hfound) row hrow
          (hfoundKey.trans hkey.symm))
  refine ⟨createTask_taken rfl hrow hkey, ?_, hfits.idempotencyKey.symm.trans hkey⟩
  split
  · rename_i hnone
    exact createTask_indexError now hnone
  · rename_i hsome
    obtain ⟨route, rest, hlist⟩ := List.exists_cons_of_ne_nil hsome
    exact createTask_existing now (by rw [hlist, List.head?_cons]) hfind

/-- Another task under the key of the stored one, for another role. -/
def otherIntent : TaskCardV1 :=
  { siblingCard with
    idempotencyKey := sampleCard.idempotencyKey
    idempotencyKey_length := by decide
    ownerRole := .hermesNas
    objective := "Remove the section on the golden path."
    objective_length := by decide
    long_only_nas := by decide }

/-- The other task is answered with the stored one. -/
theorem createTask_bound_other :
    store.out ⟨.createTask otherIntent, 1⟩ (store.exec Db.init [⟨.createTask sampleCard, 0⟩]) =
      .ok (.created (newTask sampleCard "anthropic_oauth_reasoner" 0) false) := by
  have hrow : newTask sampleCard "anthropic_oauth_reasoner" 0 ∈
      (store.exec Db.init [⟨.createTask sampleCard, 0⟩]).tables.agentTasks.rows := by
    decide +kernel
  have hkey : (newTask sampleCard "anthropic_oauth_reasoner" 0).idempotencyKey =
      otherIntent.idempotencyKey := rfl
  exact (createTask_bound _ 1 hrow hkey).2.1

/-- Another task is acknowledged as already created. -/
theorem not_createTask_sameIntent :
    ¬ ∀ (calls : List Call) (now : Timestamp) (card : TaskCardV1) (row : TaskRow),
      store.out ⟨.createTask card, now⟩ (store.exec Db.init calls) = .ok (.created row false) →
        SameIntent row.card card := by
  intro h
  have hout : store.out ⟨.createTask otherIntent, 1⟩
      (store.exec Db.init [⟨.createTask sampleCard, 0⟩]) =
        .ok (.created (newTask sampleCard "anthropic_oauth_reasoner" 0) false) := by
    decide +kernel
  have hsame := congrArg TaskCardV1.objective (h _ _ _ _ hout)
  exact absurd hsame (by decide)

end ControlHarness

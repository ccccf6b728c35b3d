import ControlHarness.Evidence

/-!
Routes do not interfere.

Tasks share nothing but their circuits, and a circuit belongs to a route. So for any
choice of routes the operations on the tasks of the other routes can be left out
of a run: what remains succeeds and fails as before, and ends with the same rows of
the tasks, approvals and circuits of the chosen routes (`routes_isolated`). The
sweeps, which are on all tasks, remain in both runs. Identifiers of `uuid4` are
fresh, and a card of a chosen route brings no identifier that a task of another
route has.

* `TaskRow.onRoute`: the task belongs to a chosen route.
* `Op.offRoute`: the operations on tasks of the other routes.
* `routePart`: the part of the tables that remains.
-/

namespace ControlHarness

open Store

variable {routes : String → Bool}

/-- The circuit of the task is one of the chosen routes. -/
def TaskRow.onRoute (routes : String → Bool) (row : TaskRow) : Bool := row.circuitKey.any routes

/-- The circuit of the card is one of the chosen routes. -/
def TaskCardV1.onRoute (routes : String → Bool) (card : TaskCardV1) : Bool :=
  (routeCircuit card).any routes

/-- The task exists and belongs to another route. -/
def Tables.offRoute (routes : String → Bool) (s : Tables) (t : UUID) : Bool :=
  (s.agentTasks.get? t).any fun row => !row.onRoute routes

/-- The operation addresses a task of another route. -/
def Op.offRoute (routes : String → Bool) (s : Tables) : Op → Bool
  | .createTask card => !card.onRoute routes
  | .claim t _ _ _ | .heartbeat t _ _ | .transition t _ _ => s.offRoute routes t
  | .expireLeases _ | .releaseDueRetries => false
  | .reportFailure report _ => s.offRoute routes report.taskId
  | .submitReceipt receipt => s.offRoute routes receipt.taskId
  | .requestApproval card => s.offRoute routes card.taskId
  | .decideApproval approvalId _ _ _ =>
      (s.approvals.get? approvalId).any fun a => s.offRoute routes a.taskId

/-- A card of a chosen route brings no identifier of a task of another route. -/
def Op.Apart (routes : String → Bool) (s : Tables) : Op → Prop
  | .createTask card => card.onRoute routes = true →
      ∀ row ∈ s.agentTasks.rows, row.onRoute routes = false →
        row.taskId ≠ card.taskId ∧ row.idempotencyKey ≠ card.idempotencyKey
  | _ => True

instance (routes : String → Bool) (s : Tables) : DecidablePred (Op.Apart routes s)
  | .createTask _ => inferInstanceAs (Decidable (_ → ∀ row ∈ _, _))
  | .claim .. | .heartbeat .. | .releaseDueRetries | .requestApproval _ | .expireLeases _ =>
      isTrue trivial
  | .decideApproval .. | .transition .. | .reportFailure .. | .submitReceipt _ => isTrue trivial

/-! ### The part of the chosen routes -/

/-- The tasks that belong to the chosen routes at the end of a run, or do not exist, and
the circuits of these routes. -/
def routePart (routes : String → Bool) (calls : List Call) : Part where
  keep t := !(store.exec Db.init calls).tables.offRoute routes t
  circuits := routes

/-- The tasks of the part are those of the chosen routes. -/
def Tables.Routed (routes : String → Bool) (p : Part) (s : Tables) : Prop :=
  ∀ t row, s.agentTasks.get? t = some row → row.onRoute routes = p.keep t

/-- Along a run the tasks of its part are those of the chosen routes. -/
lemma routed_exec {calls pre post : List Call} (h : calls = pre ++ post) :
    (store.exec Db.init pre).tables.Routed routes (routePart routes calls) := by
  intro t row hrow
  obtain ⟨row', hrow', hsame⟩ := sameCard_exec post hrow
  have hfinal : (store.exec Db.init calls).tables.agentTasks.get? t = some row' := by
    rw [h, Machine.exec_append]
    exact hrow'
  have honRoute : row'.onRoute routes = row.onRoute routes := by
    rw [TaskRow.onRoute, TaskRow.onRoute, hsame.circuitKey]
  have hkeep : (routePart routes calls).keep t
      = !((store.exec Db.init calls).tables.agentTasks.get? t).any fun r => !r.onRoute routes := rfl
  rw [hkeep, hfinal, Option.any_some, honRoute, Bool.not_not]

section

variable {p : Part} {db : Db} {call : Call} {t : UUID} {row : TaskRow}

/-- The circuits of the part are those of its tasks. -/
lemma fits_of_routed {calls : List Call}
    (h : db.tables.Routed routes (routePart routes calls)) :
    db.tables.Fits (routePart routes calls) := by
  intro t row hrow hkeep key hkey
  have hroute : row.onRoute routes = true := (h t row hrow).trans hkeep
  rw [TaskRow.onRoute, hkey] at hroute
  exact hroute

lemma onRoute_newTask {card : TaskCardV1} {route : String} (now : Timestamp)
    (hroute : card.modelRouting.defaultRoute.head? = some route) :
    (newTask card route now).onRoute routes = card.onRoute routes := by
  rw [TaskCardV1.onRoute, routeCircuit, hroute]
  rfl

lemma kept_of_not_offRoute (h : db.tables.Routed routes p)
    (ht : db.tables.offRoute routes t = false) : db.tables.Kept p t := by
  intro row hrow
  rw [Tables.offRoute, hrow, Option.any_some, Bool.not_eq_false'] at ht
  rw [← h t row hrow, ht]

lemma keep_of_offRoute (h : db.tables.Routed routes p)
    (ht : db.tables.offRoute routes t = true) : p.keep t = false := by
  rw [Tables.offRoute, Option.any_eq_true] at ht
  obtain ⟨row, hrow, hroute⟩ := ht
  rw [← h t row hrow]
  simpa using hroute

/-- A task that is not kept has the circuit of another route. -/
lemma routes_of_not_keep (h : db.tables.Routed routes p)
    (hrow : db.tables.agentTasks.get? t = some row) (hkeep : p.keep t = false) {key : String}
    (hkey : row.circuitKey = some key) : routes key = false := by
  have hroute := (h t row hrow).trans hkeep
  rw [TaskRow.onRoute, hkey] at hroute
  exact hroute

/-- An operation that is not on another route is inside of the part. -/
lemma inside_of_onRoute (h : db.tables.Routed routes p)
    (h' : (store.next call db).tables.Routed routes p)
    (hfresh : call.op.Fresh call.now db.tables) (hapart : call.op.Apart routes db.tables)
    (hon : call.op.offRoute routes db.tables = false) :
    call.op.Inside p call.now db.tables := by
  obtain ⟨op, now⟩ := call
  cases op with
  | createTask card =>
      have hcard : card.onRoute routes = true := by simpa [Op.offRoute] using hon
      constructor
      · intro row hrow htaken
        rw [← h row.taskId row (Table.get?_of_mem hrow)]
        by_contra hother
        obtain ⟨hid, hkey⟩ := hapart hcard row hrow (Bool.eq_false_iff.mpr hother)
        exact htaken.elim hkey hid
      · intro route hroute hkey hnone
        rw [← h' card.taskId _ (created_next now hroute hkey hnone), onRoute_newTask now hroute]
        exact hcard
  | claim t role worker mins | heartbeat t worker mins | transition t target reason =>
      exact kept_of_not_offRoute h hon
  | expireLeases recoveryIds =>
      obtain ⟨hdistinct, hnew⟩ := hfresh
      refine Table.append?_isSome ?_ ?_
      · rw [List.map_map]
        exact hdistinct
      · intro card hcard
        obtain ⟨r, hr, rfl⟩ := List.mem_map.mp hcard
        exact hnew r hr
  | reportFailure report recoveryId => exact ⟨kept_of_not_offRoute h hon, hfresh⟩
  | releaseDueRetries => trivial
  | submitReceipt receipt => exact kept_of_not_offRoute h hon
  | requestApproval card => exact ⟨kept_of_not_offRoute h hon, hfresh⟩
  | decideApproval approvalId decision decidedBy reason =>
      intro a ha
      rw [Op.offRoute, ha, Option.any_some] at hon
      exact kept_of_not_offRoute h hon

/-- An operation on another route is outside of the part: the circuits that it writes
are of its route. -/
lemma outside_of_offRoute {calls : List Call}
    (h : db.tables.Routed routes (routePart routes calls))
    (h' : (store.next call db).tables.Routed routes (routePart routes calls))
    (hoff : call.op.offRoute routes db.tables = true) :
    call.op.Outside (routePart routes calls) db.tables := by
  obtain ⟨op, now⟩ := call
  cases op with
  | createTask card =>
      have hcard : card.onRoute routes = false := by simpa [Op.offRoute] using hoff
      intro route hroute hkey hnone
      rw [← h' card.taskId _ (created_next now hroute hkey hnone), onRoute_newTask now hroute]
      exact hcard
  | claim t role worker mins | heartbeat t worker mins | transition t target reason =>
      exact keep_of_offRoute h hoff
  | expireLeases recoveryIds | releaseDueRetries => exact Bool.noConfusion hoff
  | reportFailure report recoveryId =>
      have hkeep := keep_of_offRoute h hoff
      refine ⟨hkeep, fun row hrow _ _ key hcounted => ?_⟩
      exact routes_of_not_keep h hrow hkeep (Option.filter_eq_some_iff.mp hcounted).1
  | submitReceipt receipt =>
      have hkeep := keep_of_offRoute h hoff
      refine ⟨hkeep, fun row hrow _ _ key hclosed _ => ?_⟩
      exact routes_of_not_keep h hrow hkeep (Option.filter_eq_some_iff.mp hclosed).1
  | requestApproval card => exact keep_of_offRoute h hoff
  | decideApproval approvalId decision decidedBy reason =>
      intro a ha
      rw [Op.offRoute, ha, Option.any_some] at hoff
      exact keep_of_offRoute h hoff

end

/-! ### Two runs -/

/-- The run without the operations on tasks of other routes. -/
def onRoutes (routes : String → Bool) (calls : List Call) : List Call :=
  store.purge (fun db call => call.op.offRoute routes db.tables) Db.init calls

/-- The other steps of the run. -/
def routeSteps (routes : String → Bool) (calls : List Call) : List StoreStep :=
  store.visible (fun db call => call.op.offRoute routes db.tables) Db.init calls

/-- **Routes do not interfere**: without the operations on the tasks of other routes
those on the chosen routes succeed and fail alike, and the run ends with the same
rows of their tasks, their approvals and their circuits. -/
theorem routes_isolated (routes : String → Bool) (calls : List Call)
    (hfresh : store.Along (fun db call => call.op.Fresh call.now db.tables) Db.init calls)
    (hapart : store.Along (fun db call => call.op.Apart routes db.tables) Db.init calls) :
    (routeSteps routes calls).map StoreStep.result
        = (store.occs Db.init (onRoutes routes calls)).map StoreStep.result ∧
      (store.exec Db.init (onRoutes routes calls)).tables.agentTasks.rows
        = (store.exec Db.init calls).tables.agentTasks.rows.filter (TaskRow.onRoute routes) ∧
      (store.exec Db.init (onRoutes routes calls)).tables.approvals.rows
        = (store.exec Db.init calls).tables.approvals.rows.filter (fun a =>
            !(store.exec Db.init calls).tables.offRoute routes a.taskId) ∧
      (store.exec Db.init (onRoutes routes calls)).tables.circuitBreakers.rows
        = (store.exec Db.init calls).tables.circuitBreakers.rows.filter
            (routes ∘ CircuitRow.circuitKey) := by
  have hpart : store.Along (fun db call =>
      db.tables.Routed routes (routePart routes calls) ∧
        (store.next call db).tables.Routed routes (routePart routes calls)) Db.init calls := by
    intro pre call post hcalls
    refine ⟨routed_exec hcalls, ?_⟩
    rw [← Machine.exec_concat]
    have hsplit : calls = (pre ++ [call]) ++ post := by
      rw [hcalls, List.append_assoc]
      rfl
    exact routed_exec hsplit
  have hrun : Shows (routePart routes calls) (store.exec Db.init calls)
        (store.exec Db.init (onRoutes routes calls)) ∧
      (routeSteps routes calls).map StoreStep.result
        = (store.occs Db.init (onRoutes routes calls)).map StoreStep.result := by
    refine Machine.unwinding ?_ ?_ rfl (hpart.and (hfresh.and hapart))
    · rintro db db' call ⟨⟨hrouted, hrouted'⟩, -⟩ hshows hoff
      exact hshows.hidden (outside_of_offRoute hrouted hrouted' hoff)
    · rintro db db' call ⟨⟨hrouted, hrouted'⟩, hfresh, hapart⟩ hshows hon
      exact hshows.visible (fits_of_routed hrouted)
        (inside_of_onRoute hrouted hrouted' hfresh hapart hon)
  obtain ⟨hshows, hresults⟩ := hrun
  have hledger : (store.exec Db.init (onRoutes routes calls)).tables.ledger
      = ((store.exec Db.init calls).tables.restrict (routePart routes calls)).ledger := hshows
  refine ⟨hresults, ?_, ?_, ?_⟩
  · have htasks : (store.exec Db.init (onRoutes routes calls)).tables.agentTasks
        = (store.exec Db.init calls).tables.agentTasks.select
            fun r => (routePart routes calls).keep r.taskId := congrArg Tables.agentTasks hledger
    rw [htasks, Table.rows_select]
    refine List.filter_congr fun row hrow => ?_
    exact (routed_exec (List.append_nil calls).symm _ row (Table.get?_of_mem hrow)).symm
  · have happrovals : (store.exec Db.init (onRoutes routes calls)).tables.approvals
        = (store.exec Db.init calls).tables.approvals.select
            fun a => (routePart routes calls).keep a.taskId := congrArg Tables.approvals hledger
    rw [happrovals, Table.rows_select]
    rfl
  · have hcircuits : (store.exec Db.init (onRoutes routes calls)).tables.circuitBreakers
        = (store.exec Db.init calls).tables.circuitBreakers.select
            (routes ∘ CircuitRow.circuitKey) := congrArg Tables.circuitBreakers hledger
    rw [hcircuits, Table.rows_select]

/-- The circuit of the operational card of `apartRun`. -/
def apartRoute (key : String) : Bool := routeCircuit operationalCard = some key

/-- A failure on another route leaves the claim of the operational task alone. -/
theorem routes_isolated_apart :
    (routeSteps apartRoute apartRun).map StoreStep.result
        = (store.occs Db.init (onRoutes apartRoute apartRun)).map StoreStep.result ∧
      (store.exec Db.init (onRoutes apartRoute apartRun)).tables.agentTasks.rows
        = (store.exec Db.init apartRun).tables.agentTasks.rows.filter
            (TaskRow.onRoute apartRoute) := by
  obtain ⟨hresults, htasks, -⟩ :=
    routes_isolated apartRoute apartRun (by decide +kernel) (by decide +kernel)
  exact ⟨hresults, htasks⟩

end ControlHarness

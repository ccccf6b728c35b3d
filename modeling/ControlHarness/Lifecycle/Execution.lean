import ControlHarness.Lifecycle.Lease

/-!
Execution and the lease.

`claim` gives a task its owner, its heartbeat and its lease together, and
`_set_status` takes the lease back when the execution ends. Two statements go
past them. The sweep updates the status of a task whose lease is past and leaves
the lease, so a lease outlives its execution (`leaseReleased_iff`); and
`transition` puts a ready task in execution without an owner and a lease, out of
reach of the heartbeat and of the sweep (`recoverable_iff`).

* `Sweepable`: the sweep finds the lease of the task past; then it takes the task
  (`sweeps_iff`).
* `LeaseReleased`, `SweepsExpired`: no lease outside execution, and the calls
  that leave one.
* `Held`: the owner can renew the lease while it is alive, and the sweep takes
  the task once it is past.
* `Recoverable`, `ClaimsByTransition`: every task in execution is held, and the
  calls that break it.
-/

namespace ControlHarness

open Store

/-! ### The sweep -/

/-- The identifiers that the sweep draws for its cards are new. -/
def DrawsFresh (db : Db) (now : Timestamp) (recoveryIds : UUID → UUID) : Prop :=
  (db.tables.recoveryCards.append?
    ((db.tables.agentTasks.rows.filter (expired now)).map (sweepCard recoveryIds now))).isSome

/-- The call is a sweep, and the lease of the task is past. -/
def Sweepable (db : Db) (call : Call) (t : UUID) : Prop :=
  ∃ recoveryIds row, call.op = .expireLeases recoveryIds ∧
    DrawsFresh db call.now recoveryIds ∧ db.tables.agentTasks.get? t = some row ∧
    expired call.now row = true

/-- A sweep takes the tasks whose lease is past. -/
lemma sweeps_iff {db : Db} {call : Call} {t : UUID} : Sweeps db call t ↔ Sweepable db call t := by
  constructor
  · rintro ⟨⟨ids, hop⟩, rows, hout, r, hr, rfl⟩
    have heff := effect_of_out hop hout
    generalize (store.next call db).tables = s' at heff
    cases heff with
    | swept _ evs cards hlog hcards =>
        obtain ⟨row, hmem, rfl⟩ := List.mem_map.mp hr
        obtain ⟨hrow, hexp⟩ := List.mem_filter.mp hmem
        have hfresh : db.tables.recoveryCards.append?
            ((db.tables.agentTasks.rows.filter (expired call.now)).map (sweepCard ids call.now))
            = some cards := Table.append?_eq_some.mpr hcards
        exact ⟨ids, row, hop, by rw [DrawsFresh, hfresh]; rfl, Table.get?_of_mem hrow, hexp⟩
  · rintro ⟨ids, row, hop, hfresh, hrow, hexp⟩
    obtain ⟨cards, hcards⟩ := Option.isSome_iff_exists.mp hfresh
    obtain ⟨rows, hout⟩ := expireLeases_accepted call.now hcards
    rw [← hop] at hout
    refine ⟨⟨ids, hop⟩, rows, hout, ?_⟩
    have heff := effect_of_out hop hout
    generalize (store.next call db).tables = s' at heff
    cases heff with
    | swept =>
        have hkey : row.taskId = t := Table.key_of_get? hrow
        refine ⟨sweptRow row, List.mem_map_of_mem ?_, hkey⟩
        exact List.mem_filter.mpr ⟨Table.mem_of_get? hrow, hexp⟩

/-- A sweep that moves a task took it. -/
lemma sweeps_of_moved {db : Db} {call : Call} {t : UUID} {recoveryIds : UUID → UUID}
    (hmoved : (store.next call db).tables.agentTasks.get? t ≠ db.tables.agentTasks.get? t)
    (hop : call.op = .expireLeases recoveryIds) : Sweeps db call t := by
  obtain ⟨r, hout⟩ : ∃ r, store.out call db = r := ⟨_, rfl⟩
  have heff := effect_of_out hop hout
  generalize (store.next call db).tables = s' at heff hmoved
  cases heff with
  | failed => exact absurd rfl hmoved
  | swept _ evs cards hlog hcards =>
      rw [Table.get?_updateWhere] at hmoved
      cases hrow : db.tables.agentTasks.get? t with
      | none => exact absurd (by rw [hrow]; rfl) hmoved
      | some row =>
          by_cases hexp : expired call.now row = true
          · have hkey : row.taskId = t := Table.key_of_get? hrow
            refine ⟨⟨recoveryIds, hop⟩, _, hout, sweptRow row, List.mem_map_of_mem ?_, hkey⟩
            exact List.mem_filter.mpr ⟨Table.mem_of_get? hrow, hexp⟩
          · exact absurd (by rw [hrow, Option.map_some, if_neg hexp]) hmoved

/-! ### The lease outside execution -/

/-- In every state of the run a task with a lease is in execution. -/
def LeaseReleased (calls : List Call) : Prop :=
  ∀ pre post t row, calls = pre ++ post →
    (store.exec Db.init pre).tables.agentTasks.get? t = some row →
    row.leaseExpiresAt.isSome → row.status.IsExecution

/-- The task has a lease only in execution. -/
def LeaseFits (v : TaskView) : Prop :=
  ∀ row, v.row = some row → row.leaseExpiresAt.isSome → row.status.IsExecution

/-- A row without a lease. -/
lemma leaseFits_of_none {v : TaskView} {row : TaskRow} (hrow : v.row = some row)
    (hlease : row.leaseExpiresAt = none) : LeaseFits v := by
  intro r hr hsome
  obtain rfl : row = r := Option.some.inj (hrow.symm.trans hr)
  rw [hlease] at hsome
  exact Bool.noConfusion hsome

/-- A row in execution. -/
lemma leaseFits_of_isExecution {v : TaskView} {row : TaskRow} (hrow : v.row = some row)
    (hexec : row.status.IsExecution) : LeaseFits v := by
  intro r hr _
  obtain rfl : row = r := Option.some.inj (hrow.symm.trans hr)
  exact hexec

/-- A move out of execution takes the lease back. -/
lemma leaseFits_movedRow {v : TaskView} {target : TaskStatus} {row : TaskRow}
    (hrow : v.row = some (movedRow target row)) : LeaseFits v := by
  by_cases hexec : target.IsExecution
  · exact leaseFits_of_isExecution hrow (by rw [movedRow_status]; exact hexec)
  · exact leaseFits_of_none hrow (movedRow_leaseExpiresAt hexec row)

/-- Every step but a sweep keeps the lease to execution. -/
lemma TaskStep.leaseFits {now : Timestamp} {t : UUID} {v v' : TaskView} {op : Op}
    (hsweep : ∀ ids, op = .expireLeases ids → v'.row = v.row) (h : TaskStep now t v op v')
    (hv : LeaseFits v) : LeaseFits v' := by
  cases h with
  | created card route hid hrow => exact leaseFits_of_none rfl rfl
  | claimed role worker mins row hrow hready => exact leaseFits_of_isExecution rfl (Or.inl rfl)
  | renewed worker mins row hrow hrenew =>
      have hexec : row.status.IsExecution := isExecution_of_renewable hrenew
      exact leaseFits_of_isExecution rfl hexec
  | heartbeatRejected | receiptRejected => exact hv
  | swept ids row hrow =>
      intro r hr
      rw [hsweep ids rfl] at hr
      exact hv r hr
  | retryScheduled report id row delay => exact leaseFits_of_none rfl (retriedRow_leaseExpiresAt ..)
  | released row hrow hwait =>
      refine leaseFits_of_none rfl ?_
      -- a task that waits for a retry has no lease to keep
      have hlease : ¬ row.leaseExpiresAt.isSome := by
        intro hsome
        have hexec := hv row hrow hsome
        rw [hwait] at hexec
        exact absurd hexec (by decide)
      exact Option.not_isSome_iff_eq_none.mp hlease
  | recovery | deadLettered | stopped | receiptAccepted | approvalRequested | approvalDecided
  | transitioned => exact leaseFits_movedRow rfl

/-- **The lease is released when execution ends, exactly without a sweep**: along
a run a task with a lease is in execution, if and only if no sweep takes a
task. -/
theorem leaseReleased_iff (calls : List Call) :
    LeaseReleased calls ↔ store.Along (fun db c => ∀ t, ¬ Sweepable db c t) Db.init calls := by
  constructor
  · rintro h pre x post hcalls t hsweep
    obtain ⟨row, hrow, hexp, hnext⟩ := (sweeps_iff.mpr hsweep).spec
    rw [← Machine.exec_concat] at hnext
    have hlease : (sweptRow row).leaseExpiresAt.isSome := by
      simp only [expired, Bool.and_eq_true, Option.any_eq_true] at hexp
      obtain ⟨-, lease, hlease, -⟩ := hexp
      exact Option.isSome_iff_exists.mpr ⟨lease, hlease⟩
    have hexec := h (pre ++ [x]) post t _ (by rw [hcalls]; simp) hnext hlease
    exact not_isExecution_recoveryRequired hexec
  · rintro hcalls pre post t row rfl hrow
    rw [Machine.along_append] at hcalls
    refine view_along (P := LeaseFits) hcalls.1 t ?_ ?_ row hrow
    · intro r hr
      exact absurd hr (by simp [Tables.view, Db.init, Tables.init])
    · intro db call hno hstep hfits
      refine hstep.leaseFits (fun ids hop => ?_) hfits
      by_contra hmoved
      exact hno t (sweeps_iff.mp (sweeps_of_moved hmoved hop))

/-- A swept task keeps its lease in recovery. -/
theorem not_leaseReleased :
    ¬ ∀ calls : List Call, (∀ c ∈ calls, c.op.Http) → LeaseReleased calls := by
  intro h
  have hrow : ((store.exec Db.init (overdueRun ++ [⟨.expireLeases id, minutes 2⟩])
      ).tables.agentTasks.get? sampleCard.taskId).map
        (fun row => (row.status, row.leaseExpiresAt))
      = some (.recoveryRequired, some (minutes 1)) := by decide
  obtain ⟨row, hrow, hpair⟩ := Option.map_eq_some_iff.mp hrow
  obtain ⟨hstatus, hlease⟩ := Prod.mk.inj hpair
  have hexec := h (overdueRun ++ [⟨.expireLeases id, minutes 2⟩]) (by decide) _ [] _ row
    (List.append_nil _).symm hrow (by rw [hlease]; rfl)
  rw [hstatus] at hexec
  exact not_isExecution_recoveryRequired hexec

/-! ### Tasks in execution -/

/-- The task in execution is held: it has an owner, a heartbeat, a lease and an
attempt; the owner can renew the lease while it is alive, and the sweep takes
the task once it is past. -/
structure Held (db : Db) (t : UUID) (row : TaskRow) : Prop where
  owner : row.ownerInstance.isSome
  heartbeat : row.heartbeatAt.isSome
  lease : row.leaseExpiresAt.isSome
  attempt : 1 ≤ row.attemptCount
  renews : ∀ worker ∈ row.ownerInstance, ∀ lease ∈ row.leaseExpiresAt, ∀ now mins,
    IntervalMins mins → now < lease → Renews db ⟨.heartbeat t worker mins, now⟩ t worker
  sweeps : ∀ lease ∈ row.leaseExpiresAt, ∀ now recoveryIds, DrawsFresh db now recoveryIds →
    lease < now → Sweeps db ⟨.expireLeases recoveryIds, now⟩ t

/-- In every state of the run every task in execution is held. -/
def Recoverable (calls : List Call) : Prop :=
  ∀ pre post t row, calls = pre ++ post →
    (store.exec Db.init pre).tables.agentTasks.get? t = some row → row.status.IsExecution →
    Held (store.exec Db.init pre) t row

/-- The call moves a ready task to claimed by a transition. -/
def ClaimsByTransition (db : Db) (call : Call) : Prop :=
  ∃ t row, Moves db call t row .claimed

/-- What a row in execution has to hold. -/
def Manned (row : TaskRow) : Prop :=
  row.status.IsExecution → row.ownerInstance.isSome ∧ row.heartbeatAt.isSome ∧
    row.leaseExpiresAt.isSome ∧ 1 ≤ row.attemptCount

/-- A manned row in execution is held. -/
lemma Manned.held {db : Db} {t : UUID} {row : TaskRow} (h : Manned row)
    (hrow : db.tables.agentTasks.get? t = some row) (hexec : row.status.IsExecution) :
    Held db t row := by
  obtain ⟨howner, hheartbeat, hlease, hattempt⟩ := h hexec
  refine ⟨howner, hheartbeat, hlease, hattempt, ?_, ?_⟩
  · intro worker hworker lease hlease' now mins hmins hlt
    have howner' : row.ownerInstance = some worker := hworker
    have hlease'' : row.leaseExpiresAt = some lease := hlease'
    have hrenew : renewable worker now row = true := by
      simp [renewable, howner', hexec, hlease'', hlt]
    exact ⟨⟨mins, rfl⟩, _, heartbeat_accepted now hmins hrow hrenew⟩
  · intro lease hlease' now ids hfresh hlt
    have hlease'' : row.leaseExpiresAt = some lease := hlease'
    have hexp : expired now row = true := by simp [expired, hexec, hlease'', hlt]
    exact sweeps_iff.mpr ⟨ids, row, rfl, hfresh, hrow, hexp⟩

/-- A row outside execution. -/
lemma manned_of_not_isExecution {row : TaskRow} (h : ¬ row.status.IsExecution) : Manned row :=
  fun hexec => absurd hexec h

/-- Every step but a claim by transition keeps the tasks in execution manned. -/
lemma TaskStep.manned {now : Timestamp} {t : UUID} {v v' : TaskView} {op : Op}
    (htransition : ∀ reason, op = .transition t .claimed reason →
      ∀ row ∈ v.row, .claimed ∉ transitions row.status)
    (h : TaskStep now t v op v') (hv : ∀ row ∈ v.row, Manned row) : ∀ row ∈ v'.row, Manned row := by
  have hmoved : ∀ {target : TaskStatus} {row : TaskRow}, ¬ target.IsExecution →
      ∀ r ∈ some (movedRow target row), Manned r := by
    rintro target row hidle r ⟨⟩
    exact manned_of_not_isExecution (by rw [movedRow_status]; exact hidle)
  cases h with
  | created card route hid hrow =>
      rintro row ⟨⟩
      refine manned_of_not_isExecution ?_
      show ¬ TaskStatus.ready.IsExecution
      decide
  | claimed role worker mins row hrow hready =>
      rintro row ⟨⟩ -
      exact ⟨rfl, rfl, rfl, Nat.succ_pos _⟩
  | renewed worker mins row hrow =>
      rintro r ⟨⟩ hexec
      obtain ⟨howner, -, -, hattempt⟩ := hv row hrow hexec
      exact ⟨howner, rfl, rfl, hattempt⟩
  | heartbeatRejected | receiptRejected => exact hv
  | swept ids row hrow =>
      rintro r ⟨⟩
      exact manned_of_not_isExecution not_isExecution_recoveryRequired
  | released row hrow hwait =>
      rintro r ⟨⟩
      refine manned_of_not_isExecution ?_
      show ¬ TaskStatus.ready.IsExecution
      decide
  | retryScheduled =>
      rintro r ⟨⟩
      refine manned_of_not_isExecution ?_
      rw [retriedRow_status]
      decide
  | recovery | deadLettered | approvalRequested => exact hmoved (by decide)
  | stopped report id row target hid hrow hadm hrec hstop =>
      rcases hstop with ⟨-, rfl⟩ | ⟨-, rfl⟩ <;> exact hmoved (by decide)
  | receiptAccepted receipt row receiptId closing =>
      exact hmoved (not_isExecution_receiptTarget row receipt.outcome)
  | approvalDecided id decision by_ reason d => exact hmoved (by cases d <;> decide)
  | transitioned target reason row hrow hstatus =>
      rintro r ⟨⟩ hexec
      rw [movedRow_status] at hexec
      rcases hexec with rfl | rfl
      · exact absurd hstatus (htransition reason rfl row hrow)
      · -- progress starts from a claim, and keeps what the claim set
        have hclaimed : row.status.IsExecution :=
          Or.inl (eq_claimed_of_mem_transitions hstatus)
        rw [movedRow_ownerInstance, movedRow_heartbeatAt, movedRow_attemptCount,
          movedRow_lease_execution TaskStatus.isExecution_inProgress]
        exact hv row hrow hclaimed

/-- A task that waits for a claim, or for the release that leads to one, has no
lease. -/
def WaitsWithoutLease (row : TaskRow) : Prop :=
  row.status = .ready ∨ row.status = .retryWait → row.leaseExpiresAt = none

/-- Every step keeps the waiting tasks without a lease. -/
lemma TaskStep.waitsWithoutLease {now : Timestamp} {t : UUID} {v v' : TaskView} {op : Op}
    (h : TaskStep now t v op v') (hv : ∀ row ∈ v.row, WaitsWithoutLease row) :
    ∀ row ∈ v'.row, WaitsWithoutLease row := by
  have hmoved : ∀ {target : TaskStatus} {row : TaskRow},
      ∀ r ∈ some (movedRow target row), WaitsWithoutLease r := by
    rintro target row r ⟨⟩ hwaits
    rw [movedRow_status] at hwaits
    refine movedRow_leaseExpiresAt ?_ row
    rcases hwaits with rfl | rfl <;> decide
  cases h with
  | created =>
      rintro row ⟨⟩ -
      rfl
  | claimed role worker mins row =>
      rintro r ⟨⟩ hwaits
      simp [claimedRow] at hwaits
  | renewed worker mins row hrow hrenew =>
      rintro r ⟨⟩ hwaits
      have hexec : row.status.IsExecution := isExecution_of_renewable hrenew
      have hwaits : row.status = .ready ∨ row.status = .retryWait := hwaits
      rcases hwaits with hs | hs <;> rw [hs] at hexec <;> exact absurd hexec (by decide)
  | heartbeatRejected | receiptRejected => exact hv
  | swept ids row =>
      rintro r ⟨⟩ hwaits
      simp [sweptRow] at hwaits
  | released row hrow hwait =>
      rintro r ⟨⟩ -
      exact hv row hrow (Or.inr hwait)
  | retryScheduled =>
      rintro r ⟨⟩ -
      exact retriedRow_leaseExpiresAt ..
  | recovery | deadLettered | stopped | receiptAccepted | approvalRequested | approvalDecided
  | transitioned => exact hmoved

lemma waitsWithoutLease_exec (calls : List Call) {t : UUID} {row : TaskRow}
    (hrow : (store.exec Db.init calls).tables.agentTasks.get? t = some row) :
    WaitsWithoutLease row := by
  refine view_exec (P := fun v => ∀ row ∈ v.row, WaitsWithoutLease row) (A := fun _ => True)
    (fun _ _ => trivial) t ?_ ?_ row hrow
  · rintro row ⟨⟩
  · exact fun _ _ _ _ _ hstep => hstep.waitsWithoutLease

/-- **Every executing task is owned and recoverable, exactly without claims by
transition**: along a run every task in execution is held, if and only if no
transition takes a ready task to claimed. -/
theorem recoverable_iff (calls : List Call) :
    Recoverable calls ↔ store.Along (fun db c => ¬ ClaimsByTransition db c) Db.init calls := by
  constructor
  · rintro h pre x post hcalls ⟨t, row, hmoves⟩
    have hready : row.status = .ready := eq_ready_of_mem_transitions hmoves.2.2
    have hnext := hmoves.spec.1
    rw [← Machine.exec_concat] at hnext
    have hheld := h (pre ++ [x]) post t _ (by rw [hcalls]; simp) hnext
      (by rw [movedRow_status]; decide)
    have hlease := hheld.lease
    rw [movedRow_lease_execution TaskStatus.isExecution_claimed,
      waitsWithoutLease_exec pre hmoves.2.1 (Or.inl hready)] at hlease
    exact Bool.noConfusion hlease
  · rintro hcalls pre post t row rfl hrow hexec
    rw [Machine.along_append] at hcalls
    have hmanned : ∀ r ∈ ((store.exec Db.init pre).tables.view t).row, Manned r := by
      refine view_along (P := fun v => ∀ r ∈ v.row, Manned r) hcalls.1 t ?_ ?_
      · rintro r ⟨⟩
      · intro db call hno hstep hv
        refine hstep.manned (fun reason hop r hr hmem => ?_) hv
        exact hno ⟨t, r, ⟨reason, hop⟩, hr, hmem⟩
    exact (hmanned row hrow).held hrow hexec

/-- A task that a transition claims has no owner and no lease. -/
theorem not_recoverable : ¬ ∀ calls, Recoverable calls := by
  intro h
  have hrow : ((store.exec Db.init [⟨.createTask sampleCard, 0⟩,
      ⟨.transition sampleCard.taskId .claimed "", 0⟩]).tables.agentTasks.get?
        sampleCard.taskId).map (fun row => (row.status, row.ownerInstance))
      = some (.claimed, none) := by decide
  obtain ⟨row, hrow, hpair⟩ := Option.map_eq_some_iff.mp hrow
  obtain ⟨hstatus, howner⟩ := Prod.mk.inj hpair
  have hheld := h _ _ [] _ row (List.append_nil _).symm hrow (by rw [hstatus]; decide)
  have hsome := hheld.owner
  rw [howner] at hsome
  exact Bool.noConfusion hsome

end ControlHarness

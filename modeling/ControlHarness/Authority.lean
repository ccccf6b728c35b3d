import ControlHarness.Confinement
import ControlHarness.Identities

/-!
Who is behind what the database holds.

The store does not know who calls it. That every event was brought about by
somebody who may do so, and that every task was admitted by the policy, is the
work of the middleware and the handlers, and holds along the runs of the surface. The
middleware asks for the scope of the path in the URL: what it grants to a request is what
the handler does only where the request is plain.

* `HarnessEvent.scope`: the scope of the requests that write an event.
* `App.Granted`: a request is granted to a principal under a scope.
* `events_attributed`: every event of a run was written by one request of it, which, if
  plain, was granted under the scope of the event.
* `tasks_admitted`: every task was created by a request with a card that the policy admits,
  and still has that card; if plain, the request was granted.
* `configured_one_shot`: with the principals of `from_environment` nobody sweeps,
  releases, asks for an approval or decides by plain requests, so that a task has one
  attempt.
-/

namespace ControlHarness

open Store Text

/-! ### The requests behind the steps -/

namespace App

variable {app : App} {principal : Principal} {e : Endpoint}

lemma http_of_op {o : Op} (h : app.op principal e = some o) : o.Http := by
  cases e with
  | createTask | claim | heartbeat | receipts | reportFailure | approvalRequest =>
      rw [op] at h
      split at h
      · obtain rfl := Option.some.inj h
        trivial
      · exact absurd h (by simp)
  | decide | expireLeases | releaseRetries =>
      obtain rfl := Option.some.inj h
      trivial
  | health | cockpit | qualityMetrics | pandaosProjection | getTask | trace | resilience =>
      exact absurd h (by simp [op])

/-- A request leaves a task alone or takes a step of it. -/
lemma view_http (call : HttpCall) (db : Db) (t : UUID) :
    (app.http.next call db).tables.view t = db.tables.view t ∨
      ∃ p e o, app.passed call = some (p, e) ∧ app.op p e = some o ∧
        TaskStep call.now t (db.tables.view t) o ((app.http.next call db).tables.view t) := by
  rw [next_http]
  cases hpassed : app.passed call with
  | none => exact Or.inl rfl
  | some x =>
      cases hop : app.op x.1 x.2 with
      | none =>
          refine Or.inl ?_
          rw [Option.elim_some, hop]
          rfl
      | some o =>
          rw [Option.elim_some, hop, Option.elim_some]
          exact (view_next ⟨o, call.now⟩ db t).imp_right fun hstep =>
            ⟨x.1, x.2, o, rfl, hop, hstep⟩

end App

/-! ### Granted requests -/

open TokenAuthorizer in
/-- The middleware lets the request in as the principal, who may use the scope; with
authorization enabled the request carries a token that the file of the principal
holds at that moment. -/
structure App.Granted (app : App) (call : HttpCall) (scope : String) (p : Principal) : Prop where
  authorized : app.authorize call.files call.request = .ok p
  allows : p.allows scope = true
  held : app.auth.enabled = true → p ∈ app.auth.principals ∧
    ∃ token, carried call.request.authorization = some token ∧ Holds call.files token p

namespace TokenAuthorizer

variable {files : Files} {supplied scope : String} {ps : List Principal} {p : Principal}

lemma eq_of_compareDigest {a b : String} (h : compareDigest a b = .ok true) : a = b := by
  rw [compareDigest] at h
  split at h
  · exact of_decide_eq_true (Except.ok.inj h)
  · exact absurd h (by simp)

/-- The principal that the loop finds holds the token. -/
lemma holds_of_findPrincipal (h : findPrincipal files supplied scope ps = .ok p) :
    Holds files supplied p := by
  induction ps with
  | nil => exact absurd h (by simp [findPrincipal])
  | cons q ps ih =>
      rw [findPrincipal] at h
      obtain ⟨expected, hread, htest⟩ := Except.bind_eq_ok.mp h
      obtain ⟨same, hsame, hrest⟩ := Except.bind_eq_ok.mp htest
      cases same with
      | true =>
          rw [if_pos rfl] at hrest
          split at hrest
          · obtain rfl := Except.ok.inj hrest
            rw [eq_of_compareDigest hsame]
            exact hread
          · exact absurd hrest (by simp)
      | false => exact ih hrest

/-- An enabled authorizer lets in who holds the token of the header. -/
lemma holds_of_authenticate {auth : TokenAuthorizer} {header : Option String}
    (henabled : auth.enabled = true) (h : auth.authenticate files header scope = .ok p) :
    ∃ token, carried header = some token ∧ Holds files token p := by
  obtain ⟨principals, enabled⟩ := auth
  obtain rfl : enabled = true := henabled
  cases hcarried : carried header with
  | none =>
      rw [authenticate_of_not_carried hcarried] at h
      exact absurd h (by simp)
  | some token =>
      rw [authenticate_of_carried hcarried] at h
      exact ⟨token, rfl, holds_of_findPrincipal h⟩

end TokenAuthorizer

namespace App

variable {app : App} {p : Principal} {call : HttpCall} {e : Endpoint} {scope : String}

/-- A request that passes the middleware is granted under the scope of the path in its
URL. -/
lemma granted_of_passed (h : app.passed call = some (p, e))
    (hscope : requiredScope call.request.method call.request.urlPath = some scope) :
    app.Granted call scope p := by
  have hauthorized := (passed_eq_some h).1
  have hok : app.auth.authenticate call.files call.request.authorization scope = .ok p := by
    rw [authorize, hscope] at hauthorized
    dsimp only at hauthorized
    cases hauth : app.auth.authenticate call.files call.request.authorization scope with
    | ok q =>
        rw [hauth] at hauthorized
        exact congrArg Except.ok (Except.ok.inj hauthorized)
    | error err =>
        rw [hauth] at hauthorized
        cases err <;> exact absurd hauthorized (by simp)
  cases henabled : app.auth.enabled with
  | true =>
      obtain ⟨hmem, hallows⟩ := TokenAuthorizer.authenticate_eq_ok henabled hok
      have hheld := TokenAuthorizer.holds_of_authenticate henabled hok
      exact ⟨hauthorized, hallows, fun _ => ⟨hmem, hheld⟩⟩
  | false =>
      rw [TokenAuthorizer.authenticate.eq_def, henabled, Bool.not_false, if_pos rfl] at hok
      obtain rfl := Except.ok.inj hok
      exact ⟨hauthorized, rfl, fun h => absurd (henabled.symm.trans h) Bool.false_ne_true⟩

end App

/-! ### The scopes of calls and events -/

/-- The scope of the requests behind a call of the store; `transition` has none. -/
def Op.scope : Op → Option String
  | createTask _ => some "tasks:create"
  | claim .. => some "tasks:claim"
  | heartbeat .. => some "tasks:heartbeat"
  | submitReceipt _ | reportFailure .. => some "tasks:receipt"
  | expireLeases _ | releaseDueRetries => some "maintenance:write"
  | requestApproval _ => some "approvals:request"
  | decideApproval .. => some "approvals:decide"
  | transition .. => none

/-- The scope of the requests that write an event. A recovery card comes from the sweep
or from the report that its trigger names. -/
def HarnessEvent.scope : HarnessEvent → Option String
  | taskCreated .. => some "tasks:create"
  | taskClaimed .. => some "tasks:claim"
  | heartbeatRejected _ => some "tasks:heartbeat"
  | recoveryCardCreated _ trigger _ =>
    if trigger = "lease_expired" then some "maintenance:write" else some "tasks:receipt"
  | failureClassified .. | deadLetterCreated .. | retryScheduled .. | receiptRejected ..
  | receiptAccepted .. | circuitClosed _ => some "tasks:receipt"
  | leaseExpired _ | retryReleased _ => some "maintenance:write"
  | approvalRequested .. => some "approvals:request"
  | approvalDecided .. => some "approvals:decide"
  | statusChanged .. => none

lemma FailureClass.value_ne_leaseExpired (c : FailureClass) : c.value ≠ "lease_expired" := by
  cases c <;> decide

/-- **A step writes events of its scope.** -/
lemma TaskStep.writes {now : Timestamp} {t : UUID} {v v' : TaskView} {op : Op}
    (h : TaskStep now t v op v') (hhttp : op.Http) :
    ∃ es, v'.log = v.log ++ es ∧ ∀ e ∈ es, e.scope = op.scope := by
  cases h with
  | created | claimed | heartbeatRejected | released | receiptRejected | stopped
  | retryScheduled | deadLettered | approvalRequested | approvalDecided =>
      exact ⟨_, rfl, by simp [HarnessEvent.scope, Op.scope, classified]⟩
  | renewed => exact ⟨[], rfl, by simp⟩
  | swept => exact ⟨_, rfl, by simp [HarnessEvent.scope, Op.scope, sweepEvents]⟩
  | recovery report =>
      refine ⟨_, rfl, ?_⟩
      simp [HarnessEvent.scope, Op.scope, classified, report.failureClass.value_ne_leaseExpired]
  | receiptAccepted receipt row receiptId closing hid hrow hown hexec hclosing =>
      refine ⟨_, rfl, fun e he => ?_⟩
      rcases List.mem_cons.mp he with rfl | he
      · rfl
      · obtain ⟨key, rfl⟩ := hclosing e he
        rfl
  | transitioned => exact hhttp.elim

namespace App

variable {app : App} {p : Principal} {call : HttpCall} {e : Endpoint} {o : Op}

/-- A handler makes calls of the scope of its route. -/
lemma scope_of_op (h : app.op p e = some o) : o.scope = e.scope := by
  cases e with
  | createTask | claim | heartbeat | receipts | reportFailure | approvalRequest =>
      rw [op] at h
      split at h
      · obtain rfl := Option.some.inj h
        rfl
      · exact absurd h (by simp)
  | decide | expireLeases | releaseRetries =>
      obtain rfl := Option.some.inj h
      rfl
  | health | cockpit | qualityMetrics | pandaosProjection | getTask | trace | resilience =>
      exact absurd h (by simp [op])

/-- A card that reaches the store is the one of the request, and admitted. -/
lemma admitted_of_op {card : TaskCardV1} (h : app.op p e = some (.createTask card)) :
    e = .createTask card ∧ Policy.assertTaskAllowed card app.bundle = .ok () := by
  cases e with
  | createTask c =>
      rw [op] at h
      split at h
      · rename_i hadmitted
        obtain rfl := Op.createTask.inj (Option.some.inj h)
        exact ⟨rfl, hadmitted⟩
      · exact absurd h (by simp)
  | claim | heartbeat | receipts | reportFailure | approvalRequest =>
      rw [op] at h
      split at h
      · exact absurd (Option.some.inj h) (by simp)
      · exact absurd h (by simp)
  | decide | expireLeases | releaseRetries =>
      exact absurd (Option.some.inj h) (by simp)
  | health | cockpit | qualityMetrics | pandaosProjection | getTask | trace | resilience =>
      exact absurd h (by simp [op])

/-- A call of the store by a plain request is granted under its scope. -/
lemma granted_of_op (hpassed : app.passed call = some (p, e)) (hop : app.op p e = some o) :
    ∃ scope, o.scope = some scope ∧ (call.request.Plain → app.Granted call scope p) := by
  obtain ⟨scope, hscope⟩ : ∃ scope, o.scope = some scope := by
    have hhttp : o.Http := http_of_op hop
    cases o with
    | transition => exact hhttp.elim
    | _ => exact ⟨_, rfl⟩
  refine ⟨scope, hscope, fun hplain => granted_of_passed hpassed ?_⟩
  rw [hplain]
  have hroute := call.request.route e (passed_eq_some hpassed).2
  rcases requiredScope_route hroute with heq | ⟨⟨taskId, rfl⟩, -⟩
  · rw [heq, ← scope_of_op hop, hscope]
  · exact absurd hop (by simp [op])

end App

/-! ### Runs of the surface -/

section

variable {app : App} {t : UUID} {calls : List HttpCall}

/-- **The rule for invariants of one task** along a run of the surface. -/
lemma view_http_along {P : TaskView → Prop} {db : Db} (h0 : P (db.tables.view t))
    (hstep : ∀ call ∈ calls, ∀ p e o v v', app.passed call = some (p, e) → app.op p e = some o →
      TaskStep call.now t v o v' → P v → P v') :
    P ((app.http.exec db calls).tables.view t) := by
  refine (Machine.along_of_forall hstep).invariant
    (P := fun db : Db => P (db.tables.view t)) h0 fun db call hcall hP => ?_
  rcases app.view_http call db t with hsame | ⟨p, e, o, hpassed, hop, hmove⟩
  · rw [hsame]
    exact hP
  · exact hcall p e o _ _ hpassed hop hmove hP

/-- A task that exists keeps its card. -/
lemma App.sameCard_http (app : App) (calls : List HttpCall) {db : Db} {row : TaskRow}
    (hrow : db.tables.agentTasks.get? t = some row) :
    ∃ row', (app.http.exec db calls).tables.agentTasks.get? t = some row' ∧
      SameCard row row' := by
  refine view_http_along (P := fun v => ∃ row', v.row = some row' ∧ SameCard row row')
    ⟨row, hrow, .refl row⟩ fun call _ p e o v v' _ _ hmove ⟨row', hrow', hsame⟩ => ?_
  rcases hmove.sameCard with ⟨card, route, -, -, hnone, -⟩ | ⟨r, r', hr, hr', hsame'⟩
  · exact absurd (hrow'.symm.trans hnone) (by simp)
  · obtain rfl := Option.some.inj (hr.symm.trans hrow')
    exact ⟨r', hr', hsame.trans hsame'⟩

end

/-- **Every event is attributed**: in every run of the surface, each event in the log of
a task was written by one request of the run, and the request, if plain, was granted under
the scope of the event. -/
theorem events_attributed (app : App) (calls : List HttpCall) (t : UUID) (i : ℕ)
    (e : HarnessEvent) (he : ((app.http.exec Db.init calls).tables.log t)[i]? = some e) :
    ∃ pre call post p scope, calls = pre ++ call :: post ∧ e.scope = some scope ∧
      (call.request.Plain → app.Granted call scope p) ∧
      ((app.http.exec Db.init pre).tables.log t).length ≤ i ∧
      ((app.http.exec Db.init (pre ++ [call])).tables.log t)[i]? = some e := by
  -- the log reaches its entry at one step, and keeps what it has
  obtain ⟨hi, -⟩ := List.getElem?_eq_some_iff.mp he
  have hempty : ¬ i < (Db.init.tables.log t).length := Nat.not_lt_zero i
  obtain ⟨pre, call, post, rfl, hbefore, hafter⟩ := Machine.exists_turning (M := app.http)
    (P := fun db : Db => i < (db.tables.log t).length) hempty hi
  have hlater : (app.http.next call (app.http.exec Db.init pre)).tables.log t
      <+: (app.http.exec Db.init (pre ++ call :: post)).tables.log t := by
    rw [Machine.exec_append, Machine.exec_cons]
    refine view_http_along (P := fun v => _ <+: v.log) List.prefix_rfl ?_
    exact fun call _ p e o v v' _ _ hmove hprefix => hprefix.trans hmove.log_prefix
  have hentry : ((app.http.next call (app.http.exec Db.init pre)).tables.log t)[i]? = some e := by
    rw [← he, List.getElem?_eq_getElem hafter, List.getElem?_eq_getElem hi]
    exact congrArg some (hlater.getElem hafter)
  have hle : ((app.http.exec Db.init pre).tables.log t).length ≤ i := Nat.le_of_not_lt hbefore
  rcases app.view_http call (app.http.exec Db.init pre) t with hsame |
    ⟨p, e', o, hpassed, hop, hmove⟩
  · rw [show (app.http.next call (app.http.exec Db.init pre)).tables.log t
      = (app.http.exec Db.init pre).tables.log t from congrArg TaskView.log hsame] at hafter
    exact absurd hafter hbefore
  · obtain ⟨es, hlog, hes⟩ := hmove.writes (App.http_of_op hop)
    obtain ⟨scope, hscope, hgranted⟩ := App.granted_of_op hpassed hop
    have hmem : e ∈ es := by
      have hsplit : (app.http.next call (app.http.exec Db.init pre)).tables.log t
          = (app.http.exec Db.init pre).tables.log t ++ es := hlog
      rw [hsplit, List.getElem?_append_right hle] at hentry
      exact List.mem_of_getElem? hentry
    refine ⟨pre, call, post, p, scope, rfl, (hes e hmem).trans hscope, hgranted, hle, ?_⟩
    rw [Machine.exec_concat]
    exact hentry

/-- A task for the NAS worker is created and claimed. -/
def ownClaimRun : List HttpCall :=
  [⟨createRequest monitorCard, pilotFiles, 0⟩,
    ⟨claimRequest { ownerRole := "hermes_nas", workerId := "svc-hermes-nas:a" }, pilotFiles, 0⟩]

lemma plain_ownClaimRun : ∀ call ∈ ownClaimRun, call.request.Plain := by decide

/-- The claim was granted to somebody who may claim. -/
theorem events_attributed_claimed : ∃ pre call post p scope, ownClaimRun = pre ++ call :: post ∧
    (HarnessEvent.taskClaimed "svc-hermes-nas:a" 1).scope = some scope ∧
    pilot.Granted call scope p ∧ ((pilot.http.exec Db.init pre).tables.log ⟨1⟩).length ≤ 1 ∧
    ((pilot.http.exec Db.init (pre ++ [call])).tables.log ⟨1⟩)[1]?
      = some (.taskClaimed "svc-hermes-nas:a" 1) := by
  obtain ⟨pre, call, post, p, scope, hcalls, hscope, hgranted, hlog⟩ := events_attributed pilot
    ownClaimRun ⟨1⟩ 1 (.taskClaimed "svc-hermes-nas:a" 1) (by decide +kernel)
  exact ⟨pre, call, post, p, scope, hcalls, hscope,
    hgranted (plain_ownClaimRun call (by rw [hcalls]; simp)), hlog⟩

/-- **Every task was admitted**: in every run of the surface, each task was created by
one request of the run, with the card that it still has, which the policy admits, and
the request, if plain, was granted under the scope of creations. -/
theorem tasks_admitted (app : App) (calls : List HttpCall) (t : UUID) (row : TaskRow)
    (hrow : (app.http.exec Db.init calls).tables.agentTasks.get? t = some row) :
    ∃ pre call post p, calls = pre ++ call :: post ∧
      call.request.endpoint = some (.createTask row.card) ∧
      (call.request.Plain → app.Granted call "tasks:create" p) ∧
      Policy.assertTaskAllowed row.card app.bundle = .ok () ∧
      (app.http.exec Db.init pre).tables.agentTasks.get? t = none := by
  have hempty : ¬ (Db.init.tables.agentTasks.get? t).isSome = true := by
    rw [show Db.init.tables.agentTasks.get? t = none from rfl]
    simp
  have hexists : ((app.http.exec Db.init calls).tables.agentTasks.get? t).isSome = true := by
    rw [hrow]
    rfl
  obtain ⟨pre, call, post, rfl, hbefore, hafter⟩ := Machine.exists_turning (M := app.http)
    (P := fun db : Db => (db.tables.agentTasks.get? t).isSome = true) hempty hexists
  have hnone : (app.http.exec Db.init pre).tables.agentTasks.get? t = none := by
    simpa using hbefore
  rcases app.view_http call (app.http.exec Db.init pre) t with hsame |
    ⟨p, e, o, hpassed, hop, hmove⟩
  · have hkept : (app.http.next call (app.http.exec Db.init pre)).tables.agentTasks.get? t
        = (app.http.exec Db.init pre).tables.agentTasks.get? t := congrArg TaskView.row hsame
    rw [hkept] at hafter
    exact absurd hafter hbefore
  · rcases hmove.sameCard with ⟨card, route, rfl, -, -, hcreated⟩ | ⟨r, -, hr, -⟩
    · -- the card of the row is the one of the request
      rw [Machine.exec_append, Machine.exec_cons] at hrow
      obtain ⟨row', hrow', hcard⟩ := app.sameCard_http post hcreated
      obtain rfl := Option.some.inj (hrow.symm.trans hrow')
      obtain ⟨scope, hscope, hgranted⟩ := App.granted_of_op hpassed hop
      obtain rfl := Option.some.inj hscope
      have hsame : row.card = card := hcard.card
      refine ⟨pre, call, post, p, rfl, ?_, hgranted, ?_, hnone⟩
      · rw [hsame, (App.passed_eq_some hpassed).2, (App.admitted_of_op hop).1]
      · rw [hsame]
        exact (App.admitted_of_op hop).2
    · exact absurd (hr.symm.trans hnone) (by simp)

/-- The claimed task was created and admitted. -/
theorem tasks_admitted_claimed : ∃ row,
    (pilot.http.exec Db.init ownClaimRun).tables.agentTasks.get? ⟨1⟩ = some row ∧
      ∃ pre call post p, ownClaimRun = pre ++ call :: post ∧
        call.request.endpoint = some (.createTask row.card) ∧
        pilot.Granted call "tasks:create" p ∧
        Policy.assertTaskAllowed row.card pilot.bundle = .ok () ∧
        (pilot.http.exec Db.init pre).tables.agentTasks.get? ⟨1⟩ = none := by
  have hexists : ((pilot.http.exec Db.init ownClaimRun).tables.agentTasks.get? ⟨1⟩).isSome
      = true := by decide +kernel
  obtain ⟨row, hrow⟩ := Option.isSome_iff_exists.mp hexists
  obtain ⟨pre, call, post, p, hcalls, hendpoint, hgranted, hadmitted⟩ :=
    tasks_admitted pilot ownClaimRun ⟨1⟩ row hrow
  exact ⟨row, hrow, pre, call, post, p, hcalls, hendpoint,
    hgranted (plain_ownClaimRun call (by rw [hcalls]; simp)), hadmitted⟩

/-- Where the URL has no path, nobody asks for the scope: a card without a token passes. -/
example : pilot.passed ⟨{ createRequest monitorCard with urlPath := "", authorization := none },
    pilotFiles, 0⟩ = some (development, .createTask monitorCard) := by rfl

/-! ### The configured principals -/

/-- The calls of the store that a configured principal can bring about. -/
def Op.Configured : Op → Prop
  | createTask _ | claim .. | heartbeat .. | submitReceipt _ | reportFailure .. => True
  | _ => False

/-- A principal of the environment holds the scopes of an entry. -/
lemma TokenAuthorizer.scopes_fromEnvironment {env : String → Option String} {files : Files}
    {auth : TokenAuthorizer} (h : fromEnvironment env files = .ok auth) :
    ∀ p ∈ auth.principals, ∃ spec ∈ principalSpecs, p.scopes = spec.scopes := by
  rw [fromEnvironment] at h
  obtain ⟨ps, hps, h⟩ := Except.bind_eq_ok.mp h
  dsimp only at h
  split at h
  · exact absurd h (by simp)
  · obtain rfl := Except.ok.inj h
    intro p hp
    obtain ⟨spec, hspec, -, hscopes⟩ := configured_spec hps p hp
    exact ⟨spec, hspec, hscopes⟩

/-- **What the configured principals can bring about** by plain requests: nobody holds the
scopes of the maintenance and of the approvals. -/
lemma App.configured_of_op {app : App} {env : String → Option String} {files : Files}
    (hauth : TokenAuthorizer.fromEnvironment env files = .ok app.auth)
    (henabled : app.auth.enabled = true) {call : HttpCall} (hplain : call.request.Plain)
    {p : Principal} {e : Endpoint} {o : Op} (hpassed : app.passed call = some (p, e))
    (hop : app.op p e = some o) : o.Configured := by
  obtain ⟨scope, hscope, hgranted⟩ := granted_of_op hpassed hop
  have hgranted := hgranted hplain
  obtain ⟨spec, hspec, hscopes⟩ :=
    TokenAuthorizer.scopes_fromEnvironment hauth p (hgranted.held henabled).1
  have hmem : scope ∈ spec.scopes := by
    have hallows : (spec.principal none).allows scope = p.allows scope := by
      rw [Principal.allows, Principal.allows, hscopes, PrincipalSpec.principal]
    exact (PrincipalSpec.allows_iff hspec).mp (hallows.trans hgranted.allows)
  have hnone : ∀ spec ∈ principalSpecs, "maintenance:write" ∉ spec.scopes ∧
      "approvals:request" ∉ spec.scopes ∧ "approvals:decide" ∉ spec.scopes := by
    decide
  obtain ⟨hmaintenance, hrequest, hdecide⟩ := hnone spec hspec
  cases o with
  | createTask | claim | heartbeat | submitReceipt | reportFailure => trivial
  | expireLeases | releaseDueRetries =>
      obtain rfl := Option.some.inj hscope
      exact absurd hmem hmaintenance
  | requestApproval =>
      obtain rfl := Option.some.inj hscope
      exact absurd hmem hrequest
  | decideApproval =>
      obtain rfl := Option.some.inj hscope
      exact absurd hmem hdecide
  | transition => exact absurd hscope (by simp [Op.scope])

/-- A task of a surface that nobody maintains: it waits for its one claim or had it, it
is done only where no approval is required, nobody asked for an approval, and no
recovery card comes from a sweep. -/
structure OneShot (v : TaskView) : Prop where
  attempts : ∀ row, v.row = some row →
    row.status = .ready ∧ row.attemptCount = 0 ∨ row.status ≠ .ready ∧ row.attemptCount = 1
  done : ∀ row, v.row = some row → row.status = .done → row.approvalRequired = []
  approvals : v.approvals = []
  cards : ∀ card ∈ v.recoveryCards, card.trigger ≠ "lease_expired"

section

variable {now : Timestamp} {t : UUID} {v v' : TaskView} {op : Op} {row : TaskRow}

/-- The task had its claim and is not in execution. -/
def Settled (row : TaskRow) : Prop := row.status ≠ .ready ∧ ¬ row.status.IsExecution

/-- A task that moved on had its one claim. -/
lemma OneShot.moved (h : OneShot v) (hrow : v.row = some row) (hexec : row.status.IsExecution)
    {row' : TaskRow} (hattempts : row'.attemptCount = row.attemptCount)
    (hready : row'.status ≠ .ready) : row'.status ≠ .ready ∧ row'.attemptCount = 1 := by
  rcases h.attempts row hrow with ⟨hstatus, -⟩ | ⟨-, hcount⟩
  · rw [hstatus] at hexec
    exact absurd hexec (by decide)
  · exact ⟨hready, hattempts.trans hcount⟩

/-- A step that leaves the approvals and the recovery cards alone. -/
lemma OneShot.write {row' : TaskRow} (h : OneShot v) (events : List HarnessEvent)
    (hattempts : row'.status = .ready ∧ row'.attemptCount = 0 ∨
      row'.status ≠ .ready ∧ row'.attemptCount = 1)
    (hdone : row'.status = .done → row'.approvalRequired = []) :
    OneShot (v.write row' events) where
  attempts r hr := by
    obtain rfl := Option.some.inj hr
    exact hattempts
  done r hr := by
    obtain rfl := Option.some.inj hr
    exact hdone
  approvals := h.approvals
  cards := h.cards

/-- A receipt ends a task only where no approval is required. -/
lemma approvalRequired_of_receiptTarget {outcome : ReceiptOutcome}
    (h : receiptTarget row outcome = .done) : row.approvalRequired = [] := by
  cases outcome with
  | completed =>
      by_contra hrequired
      rw [receiptTarget, if_pos hrequired] at h
      exact absurd h (by decide)
  | failed | blocked => simp [receiptTarget] at h

/-- **A configured call keeps a task to its one attempt.** -/
lemma TaskStep.oneShot (h : TaskStep now t v op v') (hop : op.Configured) (hv : OneShot v) :
    OneShot v' := by
  cases h with
  | created card route hid hnone =>
      exact hv.write _ (Or.inl ⟨rfl, rfl⟩) (by simp [newTask])
  | claimed role worker mins row hrow hready =>
      rcases hv.attempts row hrow with ⟨-, hcount⟩ | ⟨hnot, -⟩
      · exact hv.write _ (Or.inr ⟨by simp [claimedRow], congrArg (· + 1) hcount⟩)
          (by simp [claimedRow])
      · exact absurd hready hnot
  | renewed worker mins row hrow hrenew =>
      exact hv.write _ (hv.attempts row hrow) (hv.done row hrow)
  | heartbeatRejected | receiptRejected => exact ⟨hv.attempts, hv.done, hv.approvals, hv.cards⟩
  | recovery report id row hid hrow hadm =>
      have hwrite := hv.write [classified row report] (Or.inr (hv.moved hrow hadm.execution
        (movedRow_attemptCount .recoveryRequired row) (by simp))) (by simp)
      refine ⟨hwrite.attempts, hwrite.done, hv.approvals, fun card hcard => ?_⟩
      rcases List.mem_append.mp hcard with hcard | hcard
      · exact hv.cards card hcard
      · obtain rfl := List.mem_singleton.mp hcard
        exact report.failureClass.value_ne_leaseExpired
  | retryScheduled report id row delay hid hrow hadm =>
      exact hv.write _ (Or.inr (hv.moved hrow hadm.execution (retriedRow_attemptCount _ _ _ row)
        (by simp))) (by simp)
  | deadLettered report id row letterId reason hid hrow hadm =>
      have hwrite := hv.write [classified row report] (Or.inr (hv.moved hrow hadm.execution
        (movedRow_attemptCount .failed row) (by simp))) (by simp)
      exact ⟨hwrite.attempts, hwrite.done, hv.approvals, hv.cards⟩
  | stopped report id row target hid hrow hadm hrec hstop =>
      have htarget : target ≠ .ready ∧ target ≠ .done := by
        rcases hstop with ⟨-, rfl⟩ | ⟨-, rfl⟩ <;> decide
      have hstatus : (movedRow target row).status = target := movedRow_status target row
      have hmoved := hv.moved hrow hadm.execution (movedRow_attemptCount target row)
        (hstatus.symm ▸ htarget.1)
      exact hv.write _ (Or.inr hmoved) fun hdone => absurd (hstatus.symm.trans hdone) htarget.2
  | receiptAccepted receipt row receiptId closing hid hrow hown hexec =>
      have hstatus : (receiptRow row receipt).status = receiptTarget row receipt.outcome :=
        movedRow_status _ row
      have hready : (receiptRow row receipt).status ≠ .ready := by
        rw [hstatus]
        exact receiptTarget_ne (by decide) row receipt.outcome
      have hdone : (receiptRow row receipt).status = .done →
          (receiptRow row receipt).approvalRequired = [] := by
        rw [hstatus, receiptRow, (SameCard.movedRow _ row).approvalRequired]
        exact approvalRequired_of_receiptTarget
      have hwrite := hv.write [accepted row receipt] (Or.inr (hv.moved hrow hexec
        (movedRow_attemptCount _ row) hready)) hdone
      exact ⟨hwrite.attempts, hwrite.done, hv.approvals, hv.cards⟩
  | swept | released | approvalRequested | approvalDecided | transitioned => exact hop.elim

/-- **A configured call leaves a settled task alone.** -/
lemma TaskStep.settled (h : TaskStep now t v op v') (hop : op.Configured)
    (hrow : v.row = some row) (hsettled : Settled row) : v'.row = some row := by
  cases h.idle hrow hsettled.2 with
  | noted => exact hrow
  | claimed role worker mins v' hready => exact absurd hready hsettled.1
  | released | approvalRequested | approvalDecided | transitioned => exact hop.elim

end

/-- **A configured surface gives each task one attempt**: where the principals are those
of `from_environment` and authorization is enabled, along every run of plain requests each
task has at most one attempt, is done only where no approval is required, is never asked an
approval for and never swept, and once it had its claim and left its execution its row is
the same ever after. -/
theorem configured_one_shot (app : App) (env : String → Option String) (files : Files)
    (hauth : TokenAuthorizer.fromEnvironment env files = .ok app.auth)
    (henabled : app.auth.enabled = true) (calls more : List HttpCall)
    (hplain : ∀ call ∈ calls ++ more, call.request.Plain) (t : UUID) :
    OneShot ((app.http.exec Db.init calls).tables.view t) ∧
      ∀ row, (app.http.exec Db.init calls).tables.agentTasks.get? t = some row → Settled row →
        (app.http.exec Db.init (calls ++ more)).tables.agentTasks.get? t = some row := by
  constructor
  · refine view_http_along (P := OneShot) ?_ fun call hcall p e o v v' hpassed hop hstep hv =>
      hstep.oneShot (App.configured_of_op hauth henabled
        (hplain call (List.mem_append_left _ hcall)) hpassed hop) hv
    exact ⟨fun row hrow => (nomatch hrow), fun row hrow => (nomatch hrow), rfl,
      fun card hcard => absurd hcard List.not_mem_nil⟩
  · intro row hrow hsettled
    rw [Machine.exec_append]
    exact view_http_along (P := fun v => v.row = some row) hrow
      fun call hcall p e o v v' hpassed hop hstep hv =>
        hstep.settled (App.configured_of_op hauth henabled
          (hplain call (List.mem_append_right _ hcall)) hpassed hop) hv hsettled

/-- The surface of the pilot after a creation and a claim. -/
theorem configured_one_shot_claimed :
    OneShot ((pilot.http.exec Db.init ownClaimRun).tables.view ⟨1⟩) :=
  (configured_one_shot pilot pilotEnv pilotFiles (by decide +kernel) (by decide +kernel)
    ownClaimRun [] (by rw [List.append_nil]; exact plain_ownClaimRun) ⟨1⟩).1

end ControlHarness

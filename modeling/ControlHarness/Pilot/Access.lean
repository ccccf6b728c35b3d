import ControlHarness.Confinement
import ControlHarness.Identities
import ControlHarness.Watcher

/-!
The pilot: the read-only worker beside the HTTP surface, and what its token
opens.

A turn of the pilot is a request of somebody else, a step of the worker or a
restart of it. A `Moment` holds what the surroundings contribute to a step of
the worker, the fate of its request on the way included.

* `NasWatcher.pilot`: the pilot as a machine over the worker and the database.
* `Recognised`: the token files make the token that of the NAS worker
  (`recognised_of_environment`).
* `worker_authorized`: with such files no request of the worker is refused as
  unauthenticated, and the only one refused as unauthorized is the read of a task
  of another role.
* `revoked_inert`: a worker whose token no file holds changes nothing, however
  often it is restarted.
-/

namespace ControlHarness

open Store Text

/-! ### The pilot -/

/-- The fate of a request and of its answer on the way. -/
inductive Delivery where
  | delivered | requestLost | answerLost
  deriving DecidableEq, Repr

/-- What the surroundings contribute to a step of the worker. -/
structure Moment where
  now : Timestamp
  files : Files
  delivery : Delivery := .delivered
  clock : Timestamp
  published : String → Except WorkerRaised PublicJson
  printed : Except WorkerRaised Unit := .ok ()
  slept : Except WorkerRaised Unit := .ok ()

/-- A call of the worker as a request at a moment. -/
def ApiCall.httpCall (token : String) (x : Moment) (c : ApiCall) : HttpCall :=
  ⟨c.request token x.now, x.files, x.now⟩

/-- `_request`: a request and what becomes of it. -/
def App.callApi (app : App) (token : String) (x : Moment) (c : ApiCall) (db : Db) :
    Except WorkerRaised TaskJson × Db :=
  match x.delivery with
  | .delivered => (readResponse c.path (app.http.out (c.httpCall token x) db),
      app.http.next (c.httpCall token x) db)
  | .requestLost => (.error (unavailable c.path), db)
  | .answerLost => (.error (unavailable c.path), app.http.next (c.httpCall token x) db)

/-- The answer to what the worker asks at a moment. -/
def App.serve (app : App) (token : String) (x : Moment) : (q : Ask) → Db → q.Answer × Db
  | .api c, db => app.callApi token x c db
  | .clock, db => (x.clock, db)
  | .publicJson url, db => (x.published url, db)
  | .emit _, db => (x.printed, db)
  | .sleep _, db => (x.slept, db)

/-- The worker beside the surface. -/
def NasWatcher.pilot (w : NasWatcher) (token : String) (app : App) :
    Machine (Phase × Db) (Process.Turn HttpCall Moment) (Option Ask) :=
  w.process.beside .claiming app.http (app.serve token)

/-! ### The token of the worker -/

open TokenAuthorizer in
/-- The token is that of the NAS worker: its file holds it, no file before its does,
and nothing gets in the way. -/
structure Recognised (auth : TokenAuthorizer) (files : Files) (token : String) : Prop where
  enabled : auth.enabled = true
  clean : strip isPySpace token = token
  unobstructed : Unobstructed files token auth.principals
  held : ∃ p, auth.principals.find? (Holds files token ·) = some p ∧ p.role = "hermes_nas" ∧
    p.scopes = nasScopes

variable {auth : TokenAuthorizer} {files : Files} {token : String}

lemma carried_bearer (token : String) :
    TokenAuthorizer.carried (some ("Bearer " ++ token)) = some (strip isPySpace token) := by
  rw [TokenAuthorizer.carried, Option.filter_some, startsWith_append_self, if_pos rfl,
    Option.map_some, removePrefix_append]

/-- A recognised token is that of the NAS worker for each of its scopes. -/
lemma Recognised.authenticate (h : Recognised auth files token) :
    ∃ p : Principal, p.role = "hermes_nas" ∧ ∀ scope ∈ nasScopes,
      auth.authenticate files (some ("Bearer " ++ token)) scope = .ok p := by
  obtain ⟨p, hfind, hrole, hscopes⟩ := h.held
  refine ⟨p, hrole, fun scope hscope => ?_⟩
  have hcarried := carried_bearer token
  rw [h.clean] at hcarried
  have hauth : auth = ⟨auth.principals, true⟩ := by
    rw [← h.enabled]
  rw [hauth, TokenAuthorizer.authenticate_of_carried hcarried,
    TokenAuthorizer.findPrincipal_of_unobstructed h.unobstructed, hfind]
  have hallows : p.allows scope = true := by
    rw [Principal.allows, hscopes, Bool.or_eq_true, decide_eq_true_eq, decide_eq_true_eq]
    exact Or.inr hscope
  exact if_pos hallows

lemma readToken_clean {path : Option String} (h : readToken files path = .ok token) :
    strip isPySpace token = token := by
  cases path with
  | none => exact absurd h (by simp [readToken])
  | some path =>
      rw [readToken] at h
      split at h
      · exact absurd h (by simp)
      · exact absurd h (by simp)
      · dsimp only at h
        split at h
        · exact absurd h (by simp)
        · obtain rfl := Except.ok.inj h
          exact strip_strip _ _

/-- The principal of an entry in an environment. -/
def PrincipalSpec.configured (env : String → Option String) (spec : PrincipalSpec) :
    Option Principal :=
  ((env spec.envName).filter (· ≠ "")).map fun path => spec.principal (some path)

lemma configured_eq {env : String → Option String} {specs : List PrincipalSpec}
    {ps : List Principal} (h : TokenAuthorizer.configured env files specs = .ok ps) :
    ps = specs.filterMap (PrincipalSpec.configured env) := by
  induction specs generalizing ps with
  | nil => exact (Except.ok.inj h).symm
  | cons spec specs ih =>
      rw [TokenAuthorizer.configured] at h
      rw [List.filterMap_cons, PrincipalSpec.configured]
      split at h
      · rename_i hnone
        rw [hnone]
        exact ih h
      · rename_i path hpath
        obtain ⟨read, -, h⟩ := Except.bind_eq_ok.mp h
        obtain ⟨rest, hrest, h⟩ := Except.bind_eq_ok.mp h
        obtain rfl := Except.ok.inj h
        rw [hpath, ih hrest]
        rfl

/-- **The environment recognises the worker** as long as the file of the NAS worker
holds the token, in ASCII, and a configured orchestrator has another one, in ASCII
too. -/
theorem recognised_of_environment {env : String → Option String} {files₀ : Files} {path : String}
    (hauth : TokenAuthorizer.fromEnvironment env files₀ = .ok auth)
    (hpath : env "HARNESS_NAS_WORKER_TOKEN_FILE" = some path) (hne : path ≠ "")
    (hread : readToken files (some path) = .ok token) (hascii : isAscii token = true)
    (hother : ∀ other, env "HARNESS_ORCHESTRATOR_TOKEN_FILE" = some other → other ≠ "" →
      ∃ token', readToken files (some other) = .ok token' ∧ isAscii token' = true ∧
        token' ≠ token) : Recognised auth files token := by
  rw [TokenAuthorizer.fromEnvironment] at hauth
  obtain ⟨ps, hps, hauth⟩ := Except.bind_eq_ok.mp hauth
  dsimp only at hauth
  split at hauth
  · exact absurd hauth (by simp)
  obtain rfl := Except.ok.inj hauth
  let nas : Principal := ⟨"svc-hermes-nas", "hermes_nas", nasScopes, some path⟩
  have hholds : TokenAuthorizer.Holds files token nas := hread
  have hnas : PrincipalSpec.configured env ⟨"svc-hermes-nas", "hermes_nas",
      "HARNESS_NAS_WORKER_TOKEN_FILE", nasScopes⟩ = some nas := by
    rw [PrincipalSpec.configured, hpath, Option.filter_some, if_pos (decide_eq_true hne)]
    rfl
  have hlist := configured_eq hps
  rw [principalSpecs, List.filterMap_cons, List.filterMap_cons, hnas] at hlist
  have hstop : TokenAuthorizer.Unobstructed files token [nas] ∧
      [nas].find? (TokenAuthorizer.Holds files token ·) = some nas :=
    ⟨(TokenAuthorizer.unobstructed_cons_of_holds hholds).mpr hascii,
      List.find?_cons_of_pos (decide_eq_true hholds)⟩
  cases horch : PrincipalSpec.configured env ⟨"svc-panda-orchestrator", "orchestrator",
      "HARNESS_ORCHESTRATOR_TOKEN_FILE", ["tasks:create", "tasks:read", "operations:read"]⟩ with
  | none =>
      rw [horch] at hlist
      obtain rfl : ps = [nas] := hlist
      exact ⟨by simp, readToken_clean hread, hstop.1, nas, hstop.2, rfl, rfl⟩
  | some orch =>
      rw [horch] at hlist
      obtain rfl : ps = [orch, nas] := hlist
      rw [PrincipalSpec.configured, Option.map_eq_some_iff] at horch
      obtain ⟨other, hfilter, rfl⟩ := horch
      obtain ⟨henv, hnonempty⟩ := Option.filter_eq_some_iff.mp hfilter
      obtain ⟨token', hread', hascii', hdiffer⟩ := hother other henv (of_decide_eq_true hnonempty)
      have hnot : ¬ TokenAuthorizer.Holds files token
          (PrincipalSpec.principal ⟨"svc-panda-orchestrator", "orchestrator",
            "HARNESS_ORCHESTRATOR_TOKEN_FILE", ["tasks:create", "tasks:read", "operations:read"]⟩
            (some other)) := fun hheld =>
        hdiffer (Except.ok.inj (hread'.symm.trans hheld))
      refine ⟨by simp, readToken_clean hread,
        (TokenAuthorizer.unobstructed_cons_of_not_holds hnot).mpr ⟨hascii, ?_, hstop.1⟩, nas, ?_,
        rfl, rfl⟩
      · exact ⟨token', hread', hascii'⟩
      · rw [List.find?_cons_of_neg (by simpa using hnot)]
        exact hstop.2

/-! ### What the token opens -/

/-- The path of a call needs the scope of the call. -/
lemma ApiCall.requiredScope (c : ApiCall) : requiredScope c.method c.path = some c.scope := by
  have hroute : ∀ e : Endpoint, e.method = c.method → e.path = c.path → e.scope = some c.scope →
      ControlHarness.requiredScope c.method c.path = some c.scope := by
    intro e hmethod hpath hscope
    rw [← hmethod, ← hpath]
    rcases requiredScope_route e.route_path with h | ⟨⟨taskId, rfl⟩, hno, -⟩
    · exact h.trans hscope
    · exact absurd (hno.symm.trans (isTaskPath_str taskId)) Bool.false_ne_true
  cases c with
  | claim taskId workerId leaseMinutes =>
      exact hroute (.claim taskId ⟨"hermes_nas", workerId, leaseMinutes⟩) rfl rfl rfl
  | getTask taskId => exact hroute (.getTask taskId) rfl rfl rfl
  | heartbeat taskId workerId leaseMinutes =>
      exact hroute (.heartbeat taskId ⟨workerId, leaseMinutes⟩) rfl rfl rfl
  | submitReceipt taskId correlationId workerId summary =>
      exact hroute (.receipts taskId sampleReceipt) rfl rfl rfl

lemma ApiCall.scope_mem (c : ApiCall) : c.scope ∈ nasScopes := by
  cases c <;> simp [scope, nasScopes]

variable {app : App} {x : Moment}

/-- A request of a recognised worker passes the middleware. -/
lemma Recognised.passed (h : Recognised app.auth x.files token) :
    ∃ p : Principal, p.role = "hermes_nas" ∧
      ∀ c : ApiCall, app.passed (c.httpCall token x) = (c.endpoint x.now).map (p, ·) ∧
        app.authorize x.files (c.request token x.now) = .ok p := by
  obtain ⟨p, hrole, hauth⟩ := h.authenticate
  refine ⟨p, hrole, fun c => ?_⟩
  have hok : app.authorize x.files (c.request token x.now) = .ok p := by
    rw [App.authorize, show (c.request token x.now).method = c.method from rfl,
      show (c.request token x.now).urlPath = c.path from rfl, c.requiredScope]
    dsimp only
    rw [show (c.request token x.now).authorization = some ("Bearer " ++ token) from rfl,
      hauth c.scope c.scope_mem]
  refine ⟨?_, hok⟩
  rw [App.passed, show (c.httpCall token x).files = x.files from rfl,
    show (c.httpCall token x).request = c.request token x.now from rfl, hok]
  rfl

/-! ### The codes of the answers -/

/-- The codes that a message of the worker is answered with by its handler. -/
def messageCodes : List ℕ := [200, 404, 409, 500]

lemma code_toHttp (e : Raised) : (App.toHttp e).code ∈ messageCodes := by
  cases e <;> simp [App.toHttp, Response.code, messageCodes]

lemma code_callStore {o : Op} {view : Reply → Response} {now : Timestamp} {db : Db}
    (hview : ∀ reply, (view reply).code ∈ messageCodes) :
    (App.callStore o now view db).1.code ∈ messageCodes := by
  rw [App.callStore]
  split
  · exact hview _
  · exact code_toHttp _

lemma code_rowView (reply : Reply) : (App.rowView reply).code ∈ messageCodes := by
  cases reply <;> simp [App.rowView, Response.code, messageCodes]

/-- The call names its worker in the namespace of the NAS worker. -/
def ApiCall.Named : ApiCall → Prop
  | claim _ workerId _ | heartbeat _ workerId _ | submitReceipt _ _ workerId _ =>
      startsWith workerId "svc-hermes-nas:" = true
  | getTask _ => True

/-- Such a name passes the check of the handlers. -/
lemma enforceNasWorker_named {p : Principal} {workerId : String}
    (h : startsWith workerId "svc-hermes-nas:" = true) :
    App.enforceNasWorker p "hermes_nas" workerId = none := by
  rw [App.enforceNasWorker, h]
  split <;> rfl

lemma startsWith_stripped {workerId : String} (h : startsWith workerId "svc-hermes-nas:" = true) :
    startsWith (strip isWhiteSpace workerId) "svc-hermes-nas:" = true :=
  startsWith_strip (by decide) (by decide) h

/-- The task exists and belongs to another role than the NAS worker's. -/
def ForeignRole (db : Db) (taskId : UUID) : Prop :=
  ∃ row, db.tables.agentTasks.get? taskId = some row ∧ row.ownerRole ≠ "hermes_nas"

/-- **The codes of the handlers**: only the read of a task of another role is
refused. -/
lemma ApiCall.code_handle {c : ApiCall} {p : Principal} {now : Timestamp} {db : Db} {e : Endpoint}
    (hrole : p.role = "hermes_nas") (hnamed : c.Named) (he : c.endpoint now = some e) :
    (app.handle p now db e).1.code ∈ messageCodes ∨
      (app.handle p now db e).1.code = 403 ∧ ∃ t, c = .getTask t ∧ ForeignRole db t := by
  cases c with
  | claim taskId workerId leaseMinutes =>
      obtain rfl := Option.some.inj he
      rw [App.handle, App.claim, enforceNasWorker_named hnamed]
      refine Or.inl (code_callStore fun reply => ?_)
      cases reply with
      | claimed row => cases row <;> simp [Response.code, messageCodes]
      | _ => simp [Response.code, messageCodes]
  | heartbeat taskId workerId leaseMinutes =>
      obtain rfl := Option.some.inj he
      rw [App.handle, App.heartbeat, enforceNasWorker_named hnamed]
      exact Or.inl (code_callStore code_rowView)
  | submitReceipt taskId correlationId workerId summary =>
      rw [endpoint] at he
      split at he
      · obtain rfl := Option.some.inj he
        rw [App.handle, App.receipts, receipt, enforceNasWorker_named (startsWith_stripped hnamed)]
        dsimp only
        rw [if_neg (not_not.mpr rfl)]
        exact Or.inl (code_callStore code_rowView)
      · exact absurd he (by simp)
  | getTask taskId =>
      obtain rfl := Option.some.inj he
      rw [App.handle, App.getTask]
      cases hrow : db.tables.agentTasks.get? taskId with
      | none => exact Or.inl (code_toHttp (taskNotFound taskId))
      | some row =>
          dsimp only
          rw [App.enforceNasTaskAccess, hrole]
          by_cases hown : row.ownerRole = "hermes_nas"
          · rw [hown]
            exact Or.inl (by simp [Response.code, messageCodes])
          · refine Or.inr ⟨?_, taskId, rfl, row, hrow, hown⟩
            rw [if_pos (by simp [hown])]
            rfl

/-- The read of a task of another role is refused. -/
lemma ApiCall.code_foreign {p : Principal} {now : Timestamp} {db : Db} {t : UUID}
    (hrole : p.role = "hermes_nas") (hforeign : ForeignRole db t) :
    (app.handle p now db (.getTask t)).1.code = 403 := by
  obtain ⟨row, hrow, hown⟩ := hforeign
  rw [App.handle, App.getTask, hrow]
  dsimp only
  rw [App.enforceNasTaskAccess, hrole, if_pos (by simp [hown])]
  rfl

/-- A request that fails its validation is answered with 422. -/
lemma out_of_unresolved {call : HttpCall} {p : Principal} {db : Db}
    (hauth : app.authorize call.files call.request = .ok p)
    (hnone : call.request.endpoint = none) : app.http.out call db = .unprocessable := by
  have hout : app.http.out call db = (app.respond call.files call.request call.now db).1 := rfl
  rw [hout, App.respond, hauth]
  dsimp only
  rw [hnone]

/-- **A recognised worker is let in**: whatever the state, none of its calls is
answered with 401, and the only one answered with 403 is the read of a task of
another role. -/
theorem worker_authorized {c : ApiCall} {db : Db} (h : Recognised app.auth x.files token)
    (hnamed : c.Named) :
    (app.http.out (c.httpCall token x) db).code ≠ 401 ∧
      ((app.http.out (c.httpCall token x) db).code = 403 ↔
        ∃ t, c = .getTask t ∧ ForeignRole db t) := by
  obtain ⟨p, hrole, hpassed⟩ := h.passed
  obtain ⟨hpassed, hauth⟩ := hpassed c
  cases he : c.endpoint x.now with
  | none =>
      have hout : app.http.out (c.httpCall token x) db = .unprocessable :=
        out_of_unresolved hauth he
      rw [hout]
      refine ⟨by decide, fun h403 => absurd h403 (by decide), ?_⟩
      rintro ⟨t, rfl, -⟩
      exact absurd he (by simp [ApiCall.endpoint])
  | some e =>
      rw [he] at hpassed
      rw [App.out_http hpassed, show (c.httpCall token x).now = x.now from rfl]
      have hnot : ∀ {n}, n ∈ messageCodes → n ≠ 401 ∧ n ≠ 403 := by decide
      have hhandle : (app.handle p x.now db e).1.code ∈ messageCodes ∨
          (app.handle p x.now db e).1.code = 403 ∧ ∃ t, c = .getTask t ∧ ForeignRole db t :=
        ApiCall.code_handle hrole hnamed he
      rcases hhandle with hcode | ⟨hcode, hread⟩
      · refine ⟨(hnot hcode).1, fun h403 => absurd h403 (hnot hcode).2, ?_⟩
        rintro ⟨t, rfl, hforeign⟩
        obtain rfl := Option.some.inj he
        exact ApiCall.code_foreign hrole hforeign
      · rw [hcode]
        exact ⟨by decide, fun _ => hread, fun _ => rfl⟩

/-! ### A worker of the pilot -/

/-- The token of the worker in the files of the pilot. -/
def sampleToken : String := "nas-worker-token-0123456789abcdef"

/-- The worker and its task. -/
def sampleWatcher : NasWatcher where
  probe := ⟨allowedRepository, rfl⟩
  taskId := ⟨1⟩
  workerId := "svc-hermes-nas:a"
  endAt := 100
  namespaced := by decide

/-- The public documents. -/
def samplePublished (url : String) : Except WorkerRaised PublicJson :=
  if url = sampleWatcher.probe.commitUrl then .ok (.dict [("sha", .leaf (.str "0123abc"))])
  else .ok (.dict [("workflow_runs", .list [.dict []])])

/-- A moment at which nothing goes wrong. -/
def sampleMoment (n : Timestamp) : Moment :=
  { now := n, files := pilotFiles, clock := n, published := samplePublished }

lemma recognised_sample : Recognised pilot.auth pilotFiles sampleToken := by
  have hauth : TokenAuthorizer.fromEnvironment pilotEnv pilotFiles = .ok pilot.auth := by
    decide +kernel
  have hpath : pilotEnv "HARNESS_NAS_WORKER_TOKEN_FILE" = some "/run/secrets/nas" := rfl
  refine recognised_of_environment hauth hpath (by decide) (by decide +kernel) (by decide) ?_
  intro other hother _
  obtain rfl : "/run/secrets/orchestrator" = other := Option.some.inj hother
  exact ⟨"orchestrator-token-0123456789abcdef", by decide +kernel, by decide, by decide⟩

/-- The worker of the pilot is let in with a claim. -/
theorem worker_authorized_claim :
    let code := (pilot.http.out ((ApiCall.claim ⟨1⟩ "svc-hermes-nas:a" 10).httpCall sampleToken
      (sampleMoment 0)) Db.init).code
    code ≠ 401 ∧ (code = 403 ↔ ∃ t, ApiCall.claim ⟨1⟩ "svc-hermes-nas:a" 10 = .getTask t ∧
      ForeignRole Db.init t) :=
  have hrecognised : Recognised pilot.auth (sampleMoment 0).files sampleToken := recognised_sample
  have hnamed : (ApiCall.claim ⟨1⟩ "svc-hermes-nas:a" 10).Named := sampleWatcher.namespaced
  worker_authorized hrecognised hnamed

/-! ### A worker without a token -/

open TokenAuthorizer in
/-- No file holds the token. -/
def Revoked (auth : TokenAuthorizer) (files : Files) (token : String) : Prop :=
  auth.enabled = true ∧ ∀ p ∈ auth.principals, ¬ Holds files (strip isPySpace token) p

/-- A request with such a token is refused, unless the files get in the way: then
nothing handles what they raise. -/
lemma Revoked.authorize (h : Revoked app.auth files token) (now : Timestamp) (c : ApiCall) :
    ∃ denied, app.authorize files (c.request token now) = .error denied ∧
      (denied = .serverError ∨ ∃ detail, denied = .error 401 detail) ∧
      (TokenAuthorizer.Unobstructed files (strip isPySpace token) app.auth.principals →
        ∃ detail, denied = .error 401 detail) := by
  obtain ⟨henabled, hnone⟩ := h
  have hauth : ∀ scope, app.auth.authenticate files (some ("Bearer " ++ token)) scope
      = TokenAuthorizer.findPrincipal files (strip isPySpace token) scope app.auth.principals := by
    intro scope
    rw [← TokenAuthorizer.authenticate_of_carried (carried_bearer token), ← henabled]
  rw [App.authorize, show (c.request token now).method = c.method from rfl,
    show (c.request token now).urlPath = c.path from rfl, c.requiredScope]
  dsimp only
  rw [show (c.request token now).authorization = some ("Bearer " ++ token) from rfl, hauth]
  by_cases hclear : TokenAuthorizer.Unobstructed files (strip isPySpace token)
      app.auth.principals
  · have hfind : app.auth.principals.find?
        (TokenAuthorizer.Holds files (strip isPySpace token) ·) = none :=
      List.find?_eq_none.mpr fun p hp => by simpa using hnone p hp
    rw [TokenAuthorizer.findPrincipal_of_unobstructed hclear, hfind]
    exact ⟨_, rfl, Or.inr ⟨_, rfl⟩, fun _ => ⟨_, rfl⟩⟩
  · obtain ⟨e, he, hinternal⟩ := TokenAuthorizer.findPrincipal_of_obstructed c.scope hclear
    rw [he]
    cases e with
    | authentication detail | authorization detail => exact absurd hinternal id
    | _ => exact ⟨.serverError, rfl, Or.inl rfl, fun hyes => absurd hyes hclear⟩

/-- A call of a worker without a token changes nothing and fails. -/
lemma Revoked.callApi (h : Revoked app.auth x.files token) (c : ApiCall) (db : Db) :
    (app.callApi token x c db).2 = db ∧
      ∃ e, (app.callApi token x c db).1 = .error e ∧ e ≠ .claimConflict ∧
        (x.delivery = .delivered → TokenAuthorizer.Unobstructed x.files (strip isPySpace token)
          app.auth.principals → e = .authenticationRevoked) := by
  obtain ⟨denied, hdenied, hcode, hclear⟩ := h.authorize x.now c
  have hstep : app.respond x.files (c.request token x.now) x.now db = (denied, db) := by
    rw [App.respond, hdenied]
  have hnext : app.http.next (c.httpCall token x) db = db := congrArg Prod.snd hstep
  have hout : app.http.out (c.httpCall token x) db = denied := congrArg Prod.fst hstep
  rw [App.callApi, hnext, hout]
  cases x.delivery with
  | requestLost | answerLost =>
      exact ⟨rfl, _, rfl, by rw [unavailable]; simp, fun hdelivered => absurd hdelivered (by simp)⟩
  | delivered =>
      refine ⟨rfl, ?_⟩
      rcases hcode with rfl | ⟨detail, rfl⟩
      · refine ⟨_, rfl, by simp [Response.code], fun _ hyes => ?_⟩
        obtain ⟨detail, hdetail⟩ := hclear hyes
        exact absurd hdetail (by simp)
      · exact ⟨_, rfl, by simp, fun _ _ => rfl⟩

/-- **A worker without a token is inert**: in a run in which no file holds its token
when it asks, the database is what the requests of the others alone make of it;
and started anew, the worker never gets beyond its claim, ending with the exit
code of a revoked credential where nothing else is in the way. -/
theorem revoked_inert (w : NasWatcher) (app : App) (token : String) (s : Phase) (db : Db)
    (turns : List (Process.Turn HttpCall Moment))
    (hrevoked : ∀ x, .own x ∈ turns → Revoked app.auth x.files token) :
    ((w.pilot token app).exec (s, db) turns).2 = app.http.exec db (Process.others turns) ∧
      (s = .claiming → ((w.pilot token app).exec (s, db) turns).1 = .claiming ∨
        ∃ e, ((w.pilot token app).exec (s, db) turns).1 = .raised e ∧
          ((∀ x, .own x ∈ turns → x.delivery = .delivered ∧
            TokenAuthorizer.Unobstructed x.files (strip isPySpace token) app.auth.principals) →
            e = .authenticationRevoked)) := by
  constructor
  · refine Process.exec_beside_inert fun x hx q db => ?_
    cases q with
    | api c => exact ((hrevoked x hx).callApi c db).1
    | _ => rfl
  · rintro rfl
    have halong : (w.pilot token app).Along (fun _ turn => turn ∈ turns) (.claiming, db) turns :=
      Machine.along_of_forall fun turn hturn => hturn
    refine Process.Along.beside (J := fun σ : Phase × Db => σ.1 = .claiming ∨ ∃ e,
      σ.1 = .raised e ∧ ((∀ x, .own x ∈ turns → x.delivery = .delivered ∧
        TokenAuthorizer.Unobstructed x.files (strip isPySpace token) app.auth.principals) →
        e = .authenticationRevoked)) halong (Or.inl rfl) ?_ ?_ ?_
    · exact fun s db call _ hJ => hJ
    · intro s db x q k hnext hx hJ
      rcases hJ with rfl | ⟨e, rfl, -⟩
      · cases hnext
        obtain ⟨-, e, he, hconflict, hclear⟩ :=
          (hrevoked x hx).callApi (.claim w.taskId w.workerId w.leaseMinutes) db
        refine Or.inr ⟨e, ?_, fun hall => hclear (hall x hx).1 (hall x hx).2⟩
        rw [App.serve, he]
        cases e with
        | claimConflict => exact absurd rfl hconflict
        | _ => rfl
      · exact absurd hnext (by simp [NasWatcher.process])
    · exact fun s db _ _ => Or.inl rfl

/-- The files after the token of the worker is replaced. -/
def rotatedFiles : Files := fun path =>
  if path = "/run/secrets/nas" then .text "another-worker-token-0123456789abc"
  else pilotFiles path

/-- The task is created, and the worker asks with the old token. -/
def rotatedTurns : List (Process.Turn HttpCall Moment) :=
  [.other ⟨createRequest monitorCard, pilotFiles, 0⟩,
    .own { sampleMoment 1 with files := rotatedFiles }]

/-- The worker with the old token changes nothing and ends at its claim. -/
theorem revoked_inert_rotated :
    let σ := (sampleWatcher.pilot sampleToken pilot).exec (.claiming, Db.init) rotatedTurns
    σ.2 = pilot.http.exec Db.init (Process.others rotatedTurns) ∧
      (σ.1 = .claiming ∨ ∃ e, σ.1 = .raised e) := by
  have hrevoked : ∀ x, .own x ∈ rotatedTurns → Revoked pilot.auth x.files sampleToken := by
    intro x hx
    obtain rfl : x = { sampleMoment 1 with files := rotatedFiles } := by
      simpa [rotatedTurns] using hx
    exact ⟨by decide +kernel, by decide +kernel⟩
  obtain ⟨hdb, hphase⟩ := revoked_inert sampleWatcher pilot sampleToken .claiming Db.init
    rotatedTurns hrevoked
  exact ⟨hdb, (hphase rfl).imp_right fun ⟨e, he, _⟩ => ⟨e, he⟩⟩

end ControlHarness

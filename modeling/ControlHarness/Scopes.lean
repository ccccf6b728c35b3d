import ControlHarness.App

/-!
The scopes of the routes.

The routes are registered in `app.py`, the scopes of their paths are computed in
`auth.py` by a chain of tests on the raw path. The two lists agree
(`scopes_cover_routes`): the path of every route but the public one gets a scope,
and a configured principal that holds it has a route that is meant for it. The
chain gives each route the scope meant for it, whatever the segment for its
identifier is (`requiredScope_route`), except a read of a task whose identifier
is none: such a read falls through to a scope that no principal holds.

* `Endpoint.scope`: the scope meant for a route; `Endpoint.OpenTo` the routes
  meant for a role.
* `Endpoint.method`, `Endpoint.path`: the method, and the path with the
  identifiers of the endpoint in it.
-/

namespace ControlHarness

open Text

/-! ### What the routes are meant for -/

namespace Endpoint

/-- The scope meant for the route; the health of the service is public. -/
def scope : Endpoint → Option String
  | health => none
  | createTask _ => some "tasks:create"
  | getTask _ => some "tasks:read"
  | claim _ _ => some "tasks:claim"
  | heartbeat _ _ => some "tasks:heartbeat"
  | receipts _ _ | reportFailure _ _ _ => some "tasks:receipt"
  | cockpit | qualityMetrics | resilience | pandaosProjection _ _ | trace _ =>
      some "operations:read"
  | expireLeases _ | releaseRetries => some "maintenance:write"
  | approvalRequest _ _ _ => some "approvals:request"
  | decide _ _ => some "approvals:decide"

/-- The handlers that the scopes of the NAS worker open. -/
def OpenToNas : Endpoint → Prop
  | .getTask _ | .claim .. | .heartbeat .. | .receipts .. | .reportFailure .. => True
  | _ => False

/-- The routes of the orchestrator: the creation and the read of a task, the
operations, the projections and the traces. -/
def OpenToOrchestrator : Endpoint → Prop
  | createTask _ | getTask _ | cockpit | qualityMetrics | resilience | pandaosProjection _ _
  | trace _ => True
  | _ => False

/-- The routes meant for the role. -/
def OpenTo (e : Endpoint) (role : String) : Prop :=
  role = "hermes_nas" ∧ e.OpenToNas ∨ role = "orchestrator" ∧ e.OpenToOrchestrator

/-- The method of the route. -/
def method : Endpoint → String
  | health | cockpit | qualityMetrics | pandaosProjection _ _ | getTask _ | trace _
  | resilience => "GET"
  | _ => "POST"

/-- The path of the route, with the identifiers of the endpoint in it. -/
def path : Endpoint → String
  | health => "/health"
  | cockpit => "/v1/operations/cockpit"
  | qualityMetrics => "/v1/operations/metrics"
  | pandaosProjection _ _ => "/v1/projections/pandaos"
  | createTask _ => "/v1/tasks"
  | getTask taskId => "/v1/tasks/" ++ taskId.str
  | claim taskId _ => "/v1/tasks/" ++ taskId.str ++ "/claim"
  | heartbeat taskId _ => "/v1/tasks/" ++ taskId.str ++ "/heartbeat"
  | receipts taskId _ => "/v1/tasks/" ++ taskId.str ++ "/receipts"
  | reportFailure taskId _ _ => "/v1/tasks/" ++ taskId.str ++ "/failures"
  | approvalRequest taskId _ _ => "/v1/tasks/" ++ taskId.str ++ "/approval-requests"
  | decide approvalId _ => "/v1/approvals/" ++ approvalId.str ++ "/decisions"
  | trace correlationId => "/v1/traces/" ++ correlationId.str
  | expireLeases _ => "/v1/maintenance/expire-leases"
  | releaseRetries => "/v1/maintenance/release-retries"
  | resilience => "/v1/operations/resilience"

end Endpoint

/-- The principal of an entry with a token file. -/
def PrincipalSpec.principal (spec : PrincipalSpec) (tokenFile : Option String) : Principal :=
  ⟨spec.name, spec.role, spec.scopes, tokenFile⟩

/-- The scopes of the entries are those of the routes meant for their roles. -/
lemma Endpoint.mem_scopes_iff {e : Endpoint} {scope : String} (h : e.scope = some scope)
    {spec : PrincipalSpec} (hspec : spec ∈ principalSpecs) :
    scope ∈ spec.scopes ↔ e.OpenTo spec.role := by
  rcases List.mem_pair.mp hspec with rfl | rfl <;> cases e <;> cases h <;>
    simp [Endpoint.OpenTo, Endpoint.OpenToNas, Endpoint.OpenToOrchestrator, nasScopes]

/-- The entries name their scopes one by one. -/
lemma PrincipalSpec.allows_iff {spec : PrincipalSpec} (hspec : spec ∈ principalSpecs)
    {tokenFile : Option String} {scope : String} :
    (spec.principal tokenFile).allows scope = true ↔ scope ∈ spec.scopes := by
  have hstar : "*" ∉ spec.scopes := by
    rcases List.mem_pair.mp hspec with rfl | rfl <;> decide
  rw [Principal.allows, principal, decide_eq_false hstar, Bool.false_or, decide_eq_true_eq]

/-! ### The canonical paths -/

lemma UUID.isHexHyphen_of_mem_hexDigits {n v : ℕ} {c : Char} (h : c ∈ hexDigits n v) :
    isHexHyphen c = true := by
  obtain ⟨i, -, rfl⟩ := List.mem_map.mp h
  have hdigit : ∀ d < 16, isHexHyphen ("0123456789abcdef".toList.getD d '0') = true := by decide
  exact hdigit _ (Nat.mod_lt _ (by omega))

lemma UUID.isHexHyphen_of_mem_str {u : UUID} {c : Char} (h : c ∈ u.str.toList) :
    isHexHyphen c = true := by
  rw [str, String.toList_ofList] at h
  simp only [List.mem_append, List.mem_cons] at h
  have hhyphen : isHexHyphen '-' = true := by decide
  rcases h with (((h | rfl | h) | rfl | h) | rfl | h) | rfl | h
  all_goals first | exact hhyphen | exact isHexHyphen_of_mem_hexDigits h

lemma UUID.str_ne_empty (u : UUID) : u.str ≠ "" := by
  intro h
  have hlength := congrArg (fun s => s.toList.length) h
  simp [str] at hlength

lemma UUID.slash_notMem_str (u : UUID) : '/' ∉ u.str.toList := by
  intro h
  exact absurd (isHexHyphen_of_mem_str h) (by decide)

lemma isTaskPath_str (u : UUID) : isTaskPath ("/v1/tasks/" ++ u.str) = true := by
  have hne : u.str.toList ≠ [] := fun h => u.str_ne_empty (String.toList_eq_nil_iff.mp h)
  rw [isTaskPath, startsWith_append_self, removePrefix_append, Bool.true_and]
  simp only [decide_eq_true hne, Bool.true_and, List.all_eq_true]
  intro c hc
  exact UUID.isHexHyphen_of_mem_str hc

/-- The canonical path is one of the route. -/
lemma Endpoint.route_path (e : Endpoint) : e.Route e.method e.path := by
  have haround : ∀ (before after : String) (u : UUID),
      PathAround before after (before ++ u.str ++ after) := fun before after u =>
    ⟨u.str, u.str_ne_empty, u.slash_notMem_str, rfl⟩
  have hend : ∀ (before : String) (u : UUID), PathAround before "" (before ++ u.str) :=
    fun before u => ⟨u.str, u.str_ne_empty, u.slash_notMem_str, String.append_empty.symm⟩
  cases e with
  | getTask taskId => exact ⟨rfl, hend _ taskId⟩
  | trace correlationId => exact ⟨rfl, hend _ correlationId⟩
  | claim taskId | heartbeat taskId | receipts taskId | reportFailure taskId
  | approvalRequest taskId => exact ⟨rfl, haround _ _ taskId⟩
  | decide approvalId => exact ⟨rfl, haround _ _ approvalId⟩
  | health | cockpit | qualityMetrics | pandaosProjection | createTask | expireLeases
  | releaseRetries | resilience => exact ⟨rfl, rfl⟩

/-! ### The scope of a path -/

/-- The scopes that a read of a task can fall through to. -/
def strayScopes : List String := ["approvals:request", "approvals:decide", "authenticated"]

/-- **The scope of a route** is the one meant for it, unless it is a read of a task
whose identifier is none. -/
lemma requiredScope_route {method path : String} {e : Endpoint} (h : e.Route method path) :
    requiredScope method path = e.scope ∨
      (∃ taskId, e = .getTask taskId) ∧ isTaskPath path = false ∧
        ∃ scope ∈ strayScopes, requiredScope method path = some scope := by
  cases e with
  | health | cockpit | qualityMetrics | pandaosProjection | createTask | expireLeases
  | releaseRetries | resilience =>
      obtain ⟨rfl, rfl⟩ := h
      exact Or.inl rfl
  | claim | heartbeat | receipts | reportFailure | approvalRequest =>
      obtain ⟨rfl, segment, -, -, rfl⟩ := h
      left
      rw [requiredScope]
      simp (disch := decide) only [startsWith_around, endsWith_around, around_ne]
      rfl
  | decide approvalId =>
      obtain ⟨rfl, segment, -, -, rfl⟩ := h
      left
      have hcontains : contains ("/v1/approvals/" ++ segment ++ "/decisions") "/v1/approvals/"
          = true := by
        apply contains_of_startsWith
        rw [String.append_assoc, startsWith_append_self]
      rw [requiredScope, hcontains]
      simp (disch := decide) only [startsWith_around, endsWith_around, around_ne]
      rfl
  | trace correlationId =>
      obtain ⟨rfl, segment, -, -, rfl⟩ := h
      left
      rw [requiredScope, isTaskPath]
      simp (disch := decide) only [startsWith_around, around_ne]
      rfl
  | getTask taskId =>
      obtain ⟨rfl, segment, -, -, rfl⟩ := h
      have hpublic : ("/v1/tasks/" ++ segment ++ "" = "/health" ||
          !startsWith ("/v1/tasks/" ++ segment ++ "") "/v1/") = false := by
        simp (disch := decide) only [startsWith_around, around_ne]
        rfl
      have hoperations : (startsWith ("/v1/tasks/" ++ segment ++ "") "/v1/operations/" ||
          startsWith ("/v1/tasks/" ++ segment ++ "") "/v1/projections/" ||
          startsWith ("/v1/tasks/" ++ segment ++ "") "/v1/traces/") = false := by
        simp (disch := decide) only [startsWith_around]
        rfl
      have hmaintenance : startsWith ("/v1/tasks/" ++ segment ++ "") "/v1/maintenance/"
          = false := by
        simp (disch := decide) only [startsWith_around]
        rfl
      -- what is left depends on the segment
      generalize "/v1/tasks/" ++ segment ++ "" = path at hpublic hoperations hmaintenance
      rw [requiredScope, hpublic, hoperations, hmaintenance]
      cases htask : isTaskPath path with
      | true => exact Or.inl rfl
      | false =>
          refine Or.inr ⟨⟨taskId, rfl⟩, rfl, ?_⟩
          cases endsWith path "/approval-requests" with
          | true => exact ⟨_, by decide, rfl⟩
          | false =>
              cases contains path "/v1/approvals/" && endsWith path "/decisions" with
              | true => exact ⟨_, by decide, rfl⟩
              | false => exact ⟨_, by decide, rfl⟩

/-! ### The routes -/

/-- **The scopes cover the routes**: the path of a route that is not public has a
scope, the configured principals with this scope have the one meant for the
route, and the route is meant for them. On its canonical path, each route is open
to the principals it is meant for. -/
theorem scopes_cover_routes {e : Endpoint} (hpublic : e ≠ .health) :
    ∃ meant, e.scope = some meant ∧
      (∀ method path, e.Route method path → ∃ scope, requiredScope method path = some scope ∧
        ∀ spec ∈ principalSpecs, ∀ tokenFile, (spec.principal tokenFile).allows scope = true →
          meant ∈ spec.scopes ∧ e.OpenTo spec.role) ∧
      e.Route e.method e.path ∧ ∃ scope, requiredScope e.method e.path = some scope ∧
        ∀ spec ∈ principalSpecs, ∀ tokenFile, e.OpenTo spec.role →
          (spec.principal tokenFile).allows scope = true := by
  obtain ⟨meant, hmeant⟩ : ∃ meant, e.scope = some meant := by
    cases e <;> first | exact ⟨_, rfl⟩ | exact absurd rfl hpublic
  refine ⟨meant, hmeant, ?_, e.route_path, meant, ?_, ?_⟩
  · intro method path hroute
    rcases requiredScope_route hroute with hscope | ⟨-, -, scope, hstray, hscope⟩
    · refine ⟨meant, hscope.trans hmeant, fun spec hspec tokenFile hallows => ?_⟩
      have hmem := (PrincipalSpec.allows_iff hspec).mp hallows
      exact ⟨hmem, (Endpoint.mem_scopes_iff hmeant hspec).mp hmem⟩
    · -- no principal holds a stray scope
      refine ⟨scope, hscope, fun spec hspec tokenFile hallows => ?_⟩
      have hnone : ∀ spec ∈ principalSpecs, ∀ scope ∈ strayScopes, scope ∉ spec.scopes := by
        decide
      exact absurd ((PrincipalSpec.allows_iff hspec).mp hallows) (hnone spec hspec scope hstray)
  · rcases requiredScope_route e.route_path with hscope | ⟨⟨taskId, rfl⟩, hno, -⟩
    · exact hscope.trans hmeant
    · exact absurd (hno.symm.trans (isTaskPath_str taskId)) (by decide)
  · intro spec hspec tokenFile hopen
    exact (PrincipalSpec.allows_iff hspec).mpr ((Endpoint.mem_scopes_iff hmeant hspec).mpr hopen)

/-- A read of a task whose identifier is the end of another route. -/
theorem scopes_cover_routes_stray :
    ∃ scope, requiredScope "GET" "/v1/tasks/approval-requests" = some scope ∧
      ∀ spec ∈ principalSpecs, ∀ tokenFile, (spec.principal tokenFile).allows scope = true →
        "tasks:read" ∈ spec.scopes ∧ (Endpoint.getTask ⟨0⟩).OpenTo spec.role := by
  obtain ⟨meant, hmeant, hcover, -⟩ :=
    scopes_cover_routes (e := .getTask ⟨0⟩) (by intro h; cases h)
  obtain rfl := Option.some.inj hmeant
  exact hcover _ _ ⟨rfl, "approval-requests", by decide, by decide, rfl⟩

end ControlHarness

import ControlHarness.General.Fallible
import ControlHarness.General.Text

/-!
The bearer-token authorization of `auth.py`.

A `TokenAuthorizer` reads the token files on every request, so what it answers
depends on the files at that moment. `requiredScope` maps a method and a path
to the scope a principal must hold.

* `Principal`, `principalSpecs`: the identities and the scopes of the two
  configured ones.
* `readToken`, `authenticate`, `fromEnvironment`: the functions of the source,
  with every error they can raise.
* `nasWorker_fromEnvironment`: who has the role of the NAS worker.
-/

namespace ControlHarness

open Text

/-- What reading a file gives: its text, an `OSError`, or bytes that are not
UTF-8. -/
inductive FileContent where
  | text (s : String)
  | osError
  | undecodable
  deriving DecidableEq, Repr

/-- The files at some moment. -/
abbrev Files := String → FileContent

/-- What the authorizer raises. -/
inductive AuthRaised where
  | authentication (detail : String)
  | authorization (detail : String)
  | runtime (detail : String)
  | unicode
  | typeError
  deriving DecidableEq, Repr

/-- `Principal`. -/
structure Principal where
  name : String
  role : String
  scopes : List String
  tokenFile : Option String := none
  deriving DecidableEq, Repr

/-- `Principal.allows`. -/
def Principal.allows (p : Principal) (scope : String) : Bool :=
  "*" ∈ p.scopes || scope ∈ p.scopes

/-- An entry of `_PRINCIPAL_SPECS`. -/
structure PrincipalSpec where
  name : String
  role : String
  envName : String
  scopes : List String

/-- The scopes of the NAS worker. -/
def nasScopes : List String := ["tasks:read", "tasks:claim", "tasks:heartbeat", "tasks:receipt"]

/-- `_PRINCIPAL_SPECS`. -/
def principalSpecs : List PrincipalSpec :=
  [⟨"svc-panda-orchestrator", "orchestrator", "HARNESS_ORCHESTRATOR_TOKEN_FILE",
      ["tasks:create", "tasks:read", "operations:read"]⟩,
    ⟨"svc-hermes-nas", "hermes_nas", "HARNESS_NAS_WORKER_TOKEN_FILE", nasScopes⟩]

/-- The principal of a request that needs no scope or meets a disabled
authorizer. -/
def development : Principal := { name := "development", role := "development", scopes := ["*"] }

/-- `_read_token`. -/
def readToken (files : Files) : Option String → Except AuthRaised String
  | none => .error (.runtime "token file is not configured")
  | some path =>
    match files path with
    | .osError => .error (.runtime ("cannot read token file " ++ path))
    | .undecodable => .error .unicode
    | .text s =>
      let token := strip isPySpace s
      if token.length < 32 then
        .error (.runtime ("token file " ++ path ++ " must contain at least 32 characters"))
      else .ok token

/-- `hmac.compare_digest` on two texts: it takes ASCII only. -/
def compareDigest (a b : String) : Except AuthRaised Bool :=
  if a.toList.all (·.toNat < 128) && b.toList.all (·.toNat < 128) then .ok (a = b)
  else .error .typeError

/-- `TokenAuthorizer`. -/
structure TokenAuthorizer where
  principals : List Principal
  enabled : Bool
  deriving DecidableEq, Repr

namespace TokenAuthorizer

/-- The loop of `authenticate` over the principals. -/
def findPrincipal (files : Files) (supplied scope : String) :
    List Principal → Except AuthRaised Principal
  | [] => .error (.authentication "bearer token invalid or revoked")
  | p :: rest => do
    let expected ← readToken files p.tokenFile
    if ← compareDigest supplied expected then
      if p.allows scope then pure p
      else .error (.authorization ("principal " ++ p.name ++ " lacks scope " ++ scope))
    else findPrincipal files supplied scope rest

/-- `authenticate`. -/
def authenticate (auth : TokenAuthorizer) (files : Files) (authorization : Option String)
    (scope : String) : Except AuthRaised Principal :=
  if !auth.enabled then .ok development
  else match authorization with
    | none => .error (.authentication "bearer token required")
    | some header =>
      if startsWith header "Bearer " then
        findPrincipal files (strip isPySpace (removePrefix header "Bearer ")) scope auth.principals
      else .error (.authentication "bearer token required")

/-- The principals of the entries whose token file is configured and can be
read. -/
def configured (env : String → Option String) (files : Files) :
    List PrincipalSpec → Except AuthRaised (List Principal)
  | [] => .ok []
  | spec :: rest =>
    match (env spec.envName).filter (· ≠ "") with
    | none => configured env files rest
    | some path => do
      let _ ← readToken files (some path)
      let ps ← configured env files rest
      pure (⟨spec.name, spec.role, spec.scopes, some path⟩ :: ps)

/-- `from_environment`. -/
def fromEnvironment (env : String → Option String) (files : Files) :
    Except AuthRaised TokenAuthorizer := do
  let required : Bool := (env "HARNESS_AUTH_REQUIRED").getD "0" = "1"
  let ps ← configured env files principalSpecs
  let missing := (principalSpecs.map (·.envName)).filter fun n => ((env n).filter (· ≠ "")).isNone
  if required && missing ≠ [] then
    .error (.runtime ("Harness auth is required but token files are not configured: " ++
      String.intercalate ", " missing))
  else pure ⟨ps, required || ps ≠ []⟩

end TokenAuthorizer

/-- A hexadecimal digit or a hyphen. -/
def isHexHyphen (c : Char) : Bool :=
  ('0' ≤ c && c ≤ '9') || ('a' ≤ c && c ≤ 'f') || ('A' ≤ c && c ≤ 'F') || c = '-'

/-- `re.fullmatch(r"/v1/tasks/[0-9a-fA-F-]+", path)`. -/
def isTaskPath (path : String) : Bool :=
  startsWith path "/v1/tasks/" &&
    let rest := (removePrefix path "/v1/tasks/").toList
    rest ≠ [] && rest.all isHexHyphen

/-- `required_scope`. -/
def requiredScope (method path : String) : Option String :=
  if path = "/health" || !startsWith path "/v1/" then none
  else if method = "POST" && path = "/v1/tasks" then some "tasks:create"
  else if method = "GET" && isTaskPath path then some "tasks:read"
  else if method = "POST" && endsWith path "/claim" then some "tasks:claim"
  else if method = "POST" && endsWith path "/heartbeat" then some "tasks:heartbeat"
  else if method = "POST" && (endsWith path "/receipts" || endsWith path "/failures") then
    some "tasks:receipt"
  else if method = "GET" && (startsWith path "/v1/operations/" ||
      startsWith path "/v1/projections/" || startsWith path "/v1/traces/") then
    some "operations:read"
  else if startsWith path "/v1/maintenance/" then some "maintenance:write"
  else if endsWith path "/approval-requests" then some "approvals:request"
  else if contains path "/v1/approvals/" && endsWith path "/decisions" then
    some "approvals:decide"
  else some "authenticated"

/-- An authenticated principal is one of the configured ones and holds the
scope. -/
lemma TokenAuthorizer.findPrincipal_eq_ok {files : Files} {supplied scope : String}
    {ps : List Principal} {p : Principal}
    (h : findPrincipal files supplied scope ps = .ok p) : p ∈ ps ∧ p.allows scope = true := by
  induction ps with
  | nil => exact absurd h (by simp [findPrincipal])
  | cons q ps ih =>
      rw [findPrincipal] at h
      obtain ⟨expected, -, h⟩ := Except.bind_eq_ok.mp h
      obtain ⟨same, -, h⟩ := Except.bind_eq_ok.mp h
      split at h
      · split at h
        · rename_i hallows
          obtain rfl := Except.ok.inj h
          exact ⟨List.mem_cons_self, hallows⟩
        · exact absurd h (by simp)
      · obtain ⟨hmem, hallows⟩ := ih h
        exact ⟨List.mem_cons_of_mem q hmem, hallows⟩

lemma TokenAuthorizer.authenticate_eq_ok {auth : TokenAuthorizer} {files : Files}
    {header : Option String} {scope : String} {p : Principal} (henabled : auth.enabled = true)
    (h : auth.authenticate files header scope = .ok p) :
    p ∈ auth.principals ∧ p.allows scope = true := by
  cases header with
  | none =>
      rw [authenticate, henabled, Bool.not_true, if_neg Bool.false_ne_true] at h
      exact absurd h (by simp)
  | some header =>
      rw [authenticate, henabled, Bool.not_true, if_neg Bool.false_ne_true] at h
      split at h
      · exact findPrincipal_eq_ok h
      · exact absurd h (by simp)

/-- The NAS worker: its role, and no scopes but those of its entry. -/
def Principal.NasWorker (p : Principal) : Prop :=
  p.role = "hermes_nas" ∧ ∀ scope ∈ p.scopes, scope ∈ nasScopes

instance (p : Principal) : Decidable p.NasWorker := inferInstanceAs (Decidable (_ ∧ _))

lemma Principal.NasWorker.scope {p : Principal} (h : p.NasWorker) {scope : String}
    (hallows : p.allows scope = true) : scope ∈ nasScopes := by
  rw [Principal.allows, Bool.or_eq_true, decide_eq_true_eq, decide_eq_true_eq] at hallows
  rcases hallows with hall | hscope
  · exact absurd (h.2 "*" hall) (by decide)
  · exact h.2 scope hscope

lemma TokenAuthorizer.configured_spec {env : String → Option String} {files : Files}
    {specs : List PrincipalSpec} {ps : List Principal} (h : configured env files specs = .ok ps) :
    ∀ p ∈ ps, ∃ spec ∈ specs, p.role = spec.role ∧ p.scopes = spec.scopes := by
  induction specs generalizing ps with
  | nil =>
      obtain rfl := Except.ok.inj h
      intro p hp
      exact absurd hp List.not_mem_nil
  | cons spec specs ih =>
      rw [configured] at h
      split at h
      · intro p hp
        obtain ⟨q, hq, hpq⟩ := ih h p hp
        exact ⟨q, List.mem_cons_of_mem _ hq, hpq⟩
      · rename_i path hpath
        obtain ⟨token, -, h⟩ := Except.bind_eq_ok.mp h
        obtain ⟨rest, hrest, h⟩ := Except.bind_eq_ok.mp h
        obtain rfl := Except.ok.inj h
        intro p hp
        rcases List.mem_cons.mp hp with rfl | hp
        · exact ⟨spec, List.mem_cons_self, rfl, rfl⟩
        · obtain ⟨q, hq, hpq⟩ := ih hrest p hp
          exact ⟨q, List.mem_cons_of_mem _ hq, hpq⟩

/-- **The authorizer of the environment** gives the role of the NAS worker to the
NAS worker only. -/
theorem TokenAuthorizer.nasWorker_fromEnvironment {env : String → Option String} {files : Files}
    {auth : TokenAuthorizer} (h : fromEnvironment env files = .ok auth) :
    ∀ p ∈ auth.principals, p.role = "hermes_nas" → p.NasWorker := by
  rw [fromEnvironment] at h
  obtain ⟨ps, hps, h⟩ := Except.bind_eq_ok.mp h
  dsimp only at h
  split at h
  · exact absurd h (by simp)
  · obtain rfl := Except.ok.inj h
    intro p hp hrole
    obtain ⟨spec, hspec, hr, hs⟩ := configured_spec hps p hp
    refine ⟨hrole, ?_⟩
    rw [hs]
    rcases List.mem_pair.mp hspec with rfl | rfl
    · exact absurd (hr.symm.trans hrole) (by decide)
    · exact fun scope hscope => hscope

end ControlHarness

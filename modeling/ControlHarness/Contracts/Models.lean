import ControlHarness.Contracts.Status

/-!
The contract models of `contracts.py`: the task card and the messages of the
workers and of the approval gate.

Each model is a structure that carries what its validators check, so that a
value of the model is a validated one. Texts keep their length bounds and
patterns; a pattern `^[class]{lo,hi}$` is `InClass ok lo hi`. A field that
admits a single value (`schema_version`, `status` of a new card, the metered
cost of zero) is not stored.

* `TaskCardV1` with `Budget`, `Scope`, `ModelRouting`;
* `ResultReceiptV1` with `Artifacts`, `ValidationResult`, `CostReceipt`;
* `FailureReportV1`, `ApprovalCardV1`.
-/

namespace ControlHarness

/-- A `UUID`: 128 bits. -/
structure UUID where
  bits : BitVec 128
  deriving DecidableEq, Repr

namespace UUID

/-- The hexadecimal digits of the number, `n` of them. -/
def hexDigits (n v : ℕ) : List Char :=
  (List.range n).reverse.map fun i => "0123456789abcdef".toList.getD (v / 16 ^ i % 16) '0'

/-- `str(uuid)`: the digits in groups of 8, 4, 4, 4 and 12. -/
def str (u : UUID) : String :=
  let v := u.bits.toNat
  String.ofList (hexDigits 8 (v / 16 ^ 24) ++ '-' :: hexDigits 4 (v / 16 ^ 20)
    ++ '-' :: hexDigits 4 (v / 16 ^ 16) ++ '-' :: hexDigits 4 (v / 16 ^ 12)
    ++ '-' :: hexDigits 12 v)

@[simp] lemma length_hexDigits (n v : ℕ) : (hexDigits n v).length = n := by
  rw [hexDigits, List.length_map, List.length_reverse, List.length_range]

/-- The digits tell the number up to the power that they cover. -/
lemma mod_eq_of_hexDigits_eq {n v w : ℕ} (h : hexDigits n v = hexDigits n w) :
    v % 16 ^ n = w % 16 ^ n := by
  have hdigit : ∀ a < 16, ∀ b < 16, "0123456789abcdef".toList.getD a '0'
      = "0123456789abcdef".toList.getD b '0' → a = b := by decide
  induction n with
  | zero => rw [Nat.pow_zero, Nat.mod_one, Nat.mod_one]
  | succ n ih =>
      rw [hexDigits, hexDigits, List.range_succ, List.reverse_concat, List.map_cons, List.map_cons,
        List.cons.injEq] at h
      have hlast := hdigit _ (Nat.mod_lt _ (by omega)) _ (Nat.mod_lt _ (by omega)) h.1
      rw [Nat.mod_pow_succ, Nat.mod_pow_succ, ih h.2, hlast]

/-- Different identifiers have different texts. -/
lemma str_injective : Function.Injective str := by
  intro u u' h
  have h' := String.ofList_injective h
  generalize hv : u.bits.toNat = v at h'
  generalize hw : u'.bits.toNat = w at h'
  have hlen : ∀ n v w, ('-' :: hexDigits n v).length = ('-' :: hexDigits n w).length := by
    intro n v w
    rw [List.length_cons, List.length_cons, length_hexDigits, length_hexDigits]
  obtain ⟨h', h₁⟩ := List.append_inj' h' (hlen 12 _ _)
  obtain ⟨h', h₂⟩ := List.append_inj' h' (hlen 4 _ _)
  obtain ⟨h', h₃⟩ := List.append_inj' h' (hlen 4 _ _)
  obtain ⟨h₅, h₄⟩ := List.append_inj' h' (hlen 4 _ _)
  have e₁ := mod_eq_of_hexDigits_eq (List.cons.inj h₁).2
  have e₂ := mod_eq_of_hexDigits_eq (List.cons.inj h₂).2
  have e₃ := mod_eq_of_hexDigits_eq (List.cons.inj h₃).2
  have e₄ := mod_eq_of_hexDigits_eq (List.cons.inj h₄).2
  have e₅ := mod_eq_of_hexDigits_eq h₅
  have hlt : v < 2 ^ 128 := hv ▸ u.bits.isLt
  have hlt' : w < 2 ^ 128 := hw ▸ u'.bits.isLt
  norm_num at e₁ e₂ e₃ e₄ e₅ hlt hlt'
  have hvw : v = w := by omega
  have hbits : u.bits = u'.bits := BitVec.eq_of_toNat_eq (by rw [hv, hw, hvw])
  cases u
  cases u'
  exact congrArg UUID.mk hbits

end UUID

/-- A point in time, in microseconds since the epoch (`TIMESTAMPTZ`). -/
abbrev Timestamp := ℤ

/-- A number of seconds, in microseconds. -/
def seconds (n : ℤ) : ℤ := n * 1000000

/-- A number of minutes, in microseconds. -/
def minutes (n : ℤ) : ℤ := seconds (60 * n)

/-! ### Texts -/

/-- The length bounds `min_length` and `max_length` of a text. -/
def HasLength (lo hi : ℕ) (s : String) : Prop := lo ≤ s.length ∧ s.length ≤ hi

/-- The pattern `^[class]{lo,hi}$`. -/
def InClass (ok : Char → Bool) (lo hi : ℕ) (s : String) : Prop :=
  s.toList.all ok = true ∧ HasLength lo hi s

instance (lo hi : ℕ) (s : String) : Decidable (HasLength lo hi s) :=
  inferInstanceAs (Decidable (_ ∧ _))

instance (ok : Char → Bool) (lo hi : ℕ) (s : String) : Decidable (InClass ok lo hi s) :=
  inferInstanceAs (Decidable (_ ∧ _))

/-- `a-z` and `0-9`. -/
def isLowerDigit (c : Char) : Bool := ('a' ≤ c && c ≤ 'z') || ('0' ≤ c && c ≤ '9')

/-- `a-z`, `A-Z` and `0-9`. -/
def isAlphaDigit (c : Char) : Bool := isLowerDigit c || ('A' ≤ c && c ≤ 'Z')

/-- `^[a-zA-Z0-9._-]{2,80}$`. -/
def IsProject (s : String) : Prop :=
  InClass (fun c => isAlphaDigit c || c = '.' || c = '_' || c = '-') 2 80 s

/-- `^[a-z][a-z0-9_]{2,79}$`. -/
def IsTaskClass (s : String) : Prop :=
  InClass (fun c => isLowerDigit c || c = '_') 3 80 s
    ∧ (s.toList.head?.any fun c => 'a' ≤ c && c ≤ 'z') = true

/-- A reference to a model: lower case letters, digits, `_`, `/` and `-`, 3 to 100 of them. -/
def IsModelRef (s : String) : Prop :=
  InClass (fun c => isLowerDigit c || c = '_' || c = '/' || c = '-') 3 100 s

/-- A circuit key: letters, digits, `.`, `_`, `:`, `/` and `-`, 3 to 120 of them. -/
def IsCircuitKey (s : String) : Prop :=
  InClass (fun c => isAlphaDigit c || c = '.' || c = '_' || c = ':' || c = '/' || c = '-') 3 120 s

instance (s : String) : Decidable (IsProject s) := inferInstanceAs (Decidable (InClass _ _ _ s))

instance (s : String) : Decidable (IsTaskClass s) := inferInstanceAs (Decidable (_ ∧ _))

instance (s : String) : Decidable (IsModelRef s) := inferInstanceAs (Decidable (InClass _ _ _ s))

instance (s : String) : Decidable (IsCircuitKey s) := inferInstanceAs (Decidable (InClass _ _ _ s))

/-! ### The task card -/

/-- `Budget`. -/
structure Budget where
  maxRuntimeMinutes : ℕ
  maxAttempts : ℕ := 2
  runtime_range : 1 ≤ maxRuntimeMinutes ∧ maxRuntimeMinutes ≤ 10080 := by decide
  attempts_range : 1 ≤ maxAttempts ∧ maxAttempts ≤ 5 := by decide
  deriving DecidableEq, Repr

/-- `Scope.reject_unsafe_paths`: the path starts with no forbidden prefix and
contains no `..`. -/
def isSafePath (path : String) : Bool :=
  !(["../", "~", "/etc/", "/var/run/"].any fun p => p.toList.isPrefixOf path.toList)
    && !(path.toList.tails.any fun t => "..".toList.isPrefixOf t)

/-- `Scope`. -/
structure Scope where
  includePaths : List String
  excludePaths : List String := []
  path_length : ∀ p ∈ includePaths ++ excludePaths, HasLength 1 300 p := by decide
  path_safe : ∀ p ∈ includePaths ++ excludePaths, isSafePath p = true := by decide
  deriving DecidableEq, Repr

/-- `ModelRouting`. -/
structure ModelRouting where
  permittedProviderClasses : List ProviderClass
  defaultRoute : List String
  no_metered : ProviderClass.apiMetered ∉ permittedProviderClasses := by decide
  route_ref : ∀ r ∈ defaultRoute, IsModelRef r := by decide
  deriving DecidableEq, Repr

/-- `TaskCardV1`. -/
structure TaskCardV1 where
  taskId : UUID
  correlationId : UUID
  title : String
  project : String
  taskClass : String := "docs_change"
  dataClassification : DataClassification := .internal
  projectionKind : ProjectionKind := .operational
  ownerRole : ExecutorRole
  objective : String
  scope : Scope
  acceptance : List String
  budget : Budget
  modelRouting : ModelRouting
  idempotencyKey : String
  approvalRequired : List String := []
  createdAt : Timestamp
  title_length : HasLength 8 160 title := by decide
  project_pattern : IsProject project := by decide
  taskClass_pattern : IsTaskClass taskClass := by decide
  objective_length : HasLength 20 4000 objective := by decide
  acceptance_length : ∀ a ∈ acceptance, HasLength 8 500 a := by decide
  idempotencyKey_length : HasLength 16 128 idempotencyKey := by decide
  approval_length : ∀ a ∈ approvalRequired, HasLength 3 80 a := by decide
  long_only_nas : 480 < budget.maxRuntimeMinutes → ownerRole = .hermesNas := by decide
  deriving DecidableEq, Repr

/-! ### The messages -/

/-- `ResultReceiptV1.outcome`. -/
inductive ReceiptOutcome where
  | completed | failed | blocked
  deriving DecidableEq, Repr

/-- `Artifacts`. -/
structure Artifacts where
  branch : Option String := none
  worktreeRef : Option String := none
  commitSha : Option String := none
  pullRequest : Option String := none
  testReport : Option String := none
  deriving DecidableEq, Repr

/-- The state of a check in `ValidationResult`. -/
inductive CheckState where
  | passed | failed | notRun
  deriving DecidableEq, Repr

/-- `ValidationResult`. -/
structure ValidationResult where
  lint : CheckState := .notRun
  tests : CheckState := .notRun
  details : String := ""
  deriving DecidableEq, Repr

/-- `CostReceipt.quota_status`. -/
inductive QuotaStatus where
  | available | partiallyAvailable | unavailable | unknown
  deriving DecidableEq, Repr

/-- The text stored for a quota status. -/
def QuotaStatus.value : QuotaStatus → String
  | available => "available"
  | partiallyAvailable => "partial"
  | unavailable => "unavailable"
  | unknown => "unknown"

/-- `CostReceipt`. -/
structure CostReceipt where
  providerClass : ProviderClass
  modelRef : String
  subscriptionQuotaConsumed : Bool := true
  quotaStatus : QuotaStatus := .unknown
  modelRef_pattern : IsModelRef modelRef := by decide
  not_metered : providerClass ≠ .apiMetered := by decide
  deriving DecidableEq, Repr

/-- `ResultReceiptV1`. -/
structure ResultReceiptV1 where
  taskId : UUID
  correlationId : UUID
  workerInstance : String
  outcome : ReceiptOutcome
  summary : String
  artifacts : Artifacts := {}
  validation : ValidationResult := {}
  costReceipt : CostReceipt
  createdAt : Timestamp
  worker_length : HasLength 3 120 workerInstance := by decide
  summary_length : HasLength 10 4000 summary := by decide
  deriving DecidableEq, Repr

/-- `FailureReportV1`. -/
structure FailureReportV1 where
  taskId : UUID
  correlationId : UUID
  workerInstance : String
  failureClass : FailureClass
  reason : String
  sideEffectState : SideEffectState := .none
  circuitKey : Option String := none
  retryAfterSeconds : Option ℕ := none
  createdAt : Timestamp
  worker_length : HasLength 3 120 workerInstance := by decide
  reason_length : HasLength 10 2000 reason := by decide
  circuitKey_pattern : ∀ k ∈ circuitKey, IsCircuitKey k := by decide
  retryAfter_le : ∀ s ∈ retryAfterSeconds, s ≤ 86400 := by decide
  uncertain_unknown : failureClass = .uncertainSideEffect → sideEffectState = .unknown := by decide
  deriving DecidableEq, Repr

/-- `ApprovalCardV1`, the fields that a request for approval carries. -/
structure ApprovalCardV1 where
  approvalId : UUID
  taskId : UUID
  action : String
  requestedBy : String
  action_length : HasLength 3 80 action := by decide
  requestedBy_length : HasLength 3 120 requestedBy := by decide
  deriving DecidableEq, Repr

/-! ### A card and its messages

The card that the tests of the repository create, and the messages about it. -/

/-- `make_card` of the tests. -/
def sampleCard : TaskCardV1 :=
  { taskId := ⟨1⟩
    correlationId := ⟨101⟩
    title := "Golden path docs task"
    project := "harness-golden-path"
    ownerRole := .hermesLocal
    objective := "Extend the README section on the golden path."
    scope := { includePaths := ["README.md"] }
    acceptance := ["README contains the section"]
    budget := { maxRuntimeMinutes := 90 }
    modelRouting :=
      { permittedProviderClasses := [.subscriptionOauth]
        defaultRoute := ["anthropic_oauth_reasoner"] }
    idempotencyKey := "sha256:test:0001"
    approvalRequired := ["merge_main"]
    createdAt := 0 }

/-- A second card with the same route. -/
def siblingCard : TaskCardV1 :=
  { sampleCard with
    taskId := ⟨2⟩
    idempotencyKey := "sha256:test:0002"
    idempotencyKey_length := by decide }

/-- The route of a monitor. -/
def monitorRouting : ModelRouting :=
  { permittedProviderClasses := [.localModel]
    defaultRoute := ["deterministic_monitor"] }

lemma noApproval_length : ∀ a ∈ ([] : List String), HasLength 3 80 a := by decide

/-- A card for the NAS worker. -/
def monitorCard : TaskCardV1 :=
  { sampleCard with
    ownerRole := .hermesNas
    taskClass := "read_only_monitor"
    modelRouting := monitorRouting
    approvalRequired := []
    approval_length := noApproval_length
    taskClass_pattern := by decide
    long_only_nas := fun _ => rfl }

/-- A receipt for the card. -/
def sampleReceipt : ResultReceiptV1 :=
  { taskId := sampleCard.taskId
    correlationId := sampleCard.correlationId
    workerInstance := "worker-a"
    outcome := .completed
    summary := "Section added."
    costReceipt :=
      { providerClass := .subscriptionOauth, modelRef := "anthropic_oauth_reasoner" }
    createdAt := 0 }

/-- A failure report for the card. -/
def sampleReport : FailureReportV1 :=
  { taskId := sampleCard.taskId
    correlationId := sampleCard.correlationId
    workerInstance := "worker-a"
    failureClass := .transient
    reason := "connection reset"
    createdAt := 0 }

/-- A request for the approval that the card asks for. -/
def sampleApproval : ApprovalCardV1 :=
  { approvalId := ⟨7⟩
    taskId := sampleCard.taskId
    action := "merge_main"
    requestedBy := "panda_os" }

end ControlHarness

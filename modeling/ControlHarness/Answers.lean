import ControlHarness.Admission
import ControlHarness.Confinement
import ControlHarness.Store.Failure

/-!
The answers of the task and approval endpoints (`app.py`).

A handler translates a `PolicyError` and the errors of the store into responses;
any other exception escapes it. Such exceptions come from domains that the request
models do not know: an interval beyond 32 bits, a lease that ends before the first year, a
text with the character NUL, a text too short for the approval card, a primary key that is
taken, a policy document of another shape. A validated request gets a defined answer exactly
when it stays within these domains (`definedAnswer_iff`).

* `DefinedAnswer`: a success, or an error of the client with the database unchanged
  but for a rejection event.
* `Op.Refused`: the texts and times that the database does not take from an operation or the
  driver does not read back; `App.answer`: the answer of a handler to the requests of which
  this can be said.
* `Endpoint.WithinDomains`: the domains, endpoint by endpoint.
* `raised_*`: what each operation of the store raises, and when the handlers know
  it.
-/

namespace ControlHarness

open Store

/-! ### Defined answers -/

namespace Store

variable {db : Db} {now : Timestamp} {e : Raised} {c c' : StoreConn}

/-- The error of a call is that of its operation. -/
lemma run_of_error {α : Type} {x : StoreTx α} {g : α → Reply} {o : Op}
    (hprog : o.program = x >>= fun a => pure (g a)) (hout : store.out ⟨o, now⟩ db = .error e) :
    ∃ c', x ⟨db.tables, db.tables, db.seq, now⟩ = (.error e, c') := by
  obtain ⟨c', hrun⟩ := Tx.connect_eq_error (x := o.program) hout
  rw [hprog] at hrun
  rcases Tx.bind_eq_error.mp hrun with hx | ⟨a, c₁, -, hret⟩
  · exact ⟨c', hx⟩
  · exact absurd (congrArg Prod.fst hret) (by simp)

/-- An event and a return raise nothing. -/
lemma event_pure_ne {α : Type} (taskId correlationId : UUID) (ev : HarnessEvent) (a : α)
    (c₁ c₂ : StoreConn) :
    (event taskId correlationId ev >>= fun _ => (pure a : StoreTx α)) c₁ ≠ (.error e, c₂) := by
  rw [Tx.bind_ok (event_apply _ _ _)]
  exact fun h => absurd (congrArg Prod.fst h) (by simp)

/-- `claim` raises only where the database cannot make the interval. -/
lemma claim_returns {taskId : UUID} {role worker : String} {mins : ℤ} (hmins : IntervalMins mins) :
    claim taskId role worker mins c ≠ (.error e, c') := by
  rw [claim, Tx.bind_ok (Tx.now_apply _), Tx.bind_ok (makeIntervalMins_ok hmins)]
  rcases updateTask_apply (c := c) taskId (claimable c.now)
      (claimedRow role worker (minutes mins) c.now) (claimedRow_taskId _ _ _ c.now) with
    ⟨row, -, -, hupdate⟩ | ⟨-, hupdate⟩
  · rw [Tx.bind_ok hupdate]
    exact event_pure_ne _ _ _ _ _ _
  · rw [Tx.bind_ok hupdate]
    exact fun h => absurd (congrArg Prod.fst h) (by simp)

end Store

/-! ### The errors of each call -/

section

variable {db : Db} {now : Timestamp}

/-- The identifier is free for the card of a report that asks for recovery. -/
def RecoveryFree (s : Tables) (report : FailureReportV1) (recoveryId : UUID) : Prop :=
  ∀ row, s.agentTasks.get? report.taskId = some row → Admitted report row →
    requiresRecovery report.failureClass report.sideEffectState = true →
    s.recoveryCards.get? recoveryId = none

/-- The identifier is free for the approval of a task in review. -/
def ApprovalFree (s : Tables) (taskId approvalId : UUID) : Prop :=
  ∀ row, s.agentTasks.get? taskId = some row → row.status = .review →
    s.approvals.get? approvalId = none

/-- The key of the card is bound already, or its identifier is free. -/
def TaskFree (s : Tables) (card : TaskCardV1) : Prop :=
  (∃ row ∈ s.agentTasks.rows, row.idempotencyKey = card.idempotencyKey) ∨
    s.agentTasks.get? card.taskId = none

end

/-! ### What the database does not take -/

/-- PostgreSQL stores the text: the character NUL is not in it. -/
def Storable (text : String) : Prop := Char.ofNat 0 ∉ text.toList

instance (text : String) : Decidable (Storable text) := inferInstanceAs (Decidable (¬ _))

/-- psycopg reads the time: its year is one of 1 to 9999. -/
def ReadableTime (t : Timestamp) : Prop := seconds (-62135596800) ≤ t ∧ t < seconds 253402300800

instance (t : Timestamp) : Decidable (ReadableTime t) := inferInstanceAs (Decidable (_ ∧ _))

/-- The texts of a card. -/
def TaskCardV1.texts (card : TaskCardV1) : List String :=
  [card.title, card.project, card.taskClass, card.objective, card.idempotencyKey]
    ++ card.scope.includePaths ++ card.scope.excludePaths ++ card.acceptance
    ++ card.modelRouting.defaultRoute ++ card.approvalRequired

/-- The texts of a receipt. -/
def ResultReceiptV1.texts (receipt : ResultReceiptV1) : List String :=
  [receipt.workerInstance, receipt.summary, receipt.validation.details,
      receipt.costReceipt.modelRef]
    ++ [receipt.artifacts.branch, receipt.artifacts.worktreeRef, receipt.artifacts.commitSha,
      receipt.artifacts.pullRequest, receipt.artifacts.testReport].filterMap id

/-- A statement that the operation comes to sends a text that is not stored, or returns the
row of a lease whose end is not read. The texts of a creation, a claim and a heartbeat are
sent whatever the tables hold; the reason of a failure goes into a recovery card or a dead
letter only. -/
def Op.Refused (now : Timestamp) (s : Tables) : Op → Prop
  | createTask card => ∃ text ∈ card.texts, ¬ Storable text
  | claim taskId role worker mins =>
      ¬ Storable role ∨ ¬ Storable worker ∨
        ∃ row ∈ s.agentTasks.get? taskId, claimable now s row = true ∧
          ¬ ReadableTime (now + minutes mins)
  | heartbeat taskId worker mins =>
      ¬ Storable worker ∨ ∃ row ∈ s.agentTasks.get? taskId, renewable worker now row = true ∧
        ¬ ReadableTime (now + minutes mins)
  | submitReceipt receipt =>
      ∃ row ∈ s.agentTasks.get? receipt.taskId,
        row.ownerInstance ≠ some receipt.workerInstance ∧ ¬ Storable receipt.workerInstance ∨
        row.ownerInstance = some receipt.workerInstance ∧ row.status.IsExecution ∧
          ∃ text ∈ receipt.texts, ¬ Storable text
  | reportFailure report _ =>
      ¬ Storable report.reason ∧ ∃ row ∈ s.agentTasks.get? report.taskId, Admitted report row ∧
        (requiresRecovery report.failureClass report.sideEffectState = true ∨
          report.failureClass = .permanent ∨
          report.failureClass ∈ retryableFailures ∧ row.card.budget.maxAttempts ≤ row.attemptCount)
  | requestApproval card =>
      (¬ Storable card.action ∨ ¬ Storable card.requestedBy) ∧
        ∃ row ∈ s.agentTasks.get? card.taskId, row.status = .review
  | decideApproval approvalId decision decidedBy reason =>
      (¬ Storable decidedBy ∨ ¬ Storable reason) ∧
        (decision = "approved" ∨ decision = "rejected") ∧
        ∃ approval ∈ s.approvals.get? approvalId, approval.status = .requested ∧
          (s.agentTasks.get? approval.taskId).isSome = true
  | expireLeases _ | releaseDueRetries | transition .. => False

instance (now : Timestamp) (s : Tables) : DecidablePred (Op.Refused now s)
  | .createTask card => inferInstanceAs (Decidable (∃ text ∈ card.texts, ¬ Storable text))
  | .claim .. => inferInstanceAs (Decidable (_ ∨ _ ∨ _))
  | .heartbeat .. => inferInstanceAs (Decidable (_ ∨ _))
  | .submitReceipt receipt =>
      inferInstanceAs (Decidable (∃ row ∈ s.agentTasks.get? receipt.taskId, _))
  | .reportFailure .. | .requestApproval _ | .decideApproval .. =>
      inferInstanceAs (Decidable (_ ∧ _))
  | .expireLeases _ | .releaseDueRetries | .transition .. => inferInstanceAs (Decidable False)

/-- The answer of the handler: an exception of the driver where the database refuses what
its operation sends or returns. -/
def App.answer (app : App) (principal : Principal) (now : Timestamp) (db : Db) (e : Endpoint) :
    Response × Db :=
  if ∃ o ∈ app.op principal e, o.Refused now db.tables then (.serverError, db)
  else app.handle principal now db e

namespace Endpoint

/-- The handler refuses the worker of a NAS identity before it calls the store. -/
def Denied (principal : Principal) (ownerRole workerId : String) : Prop :=
  (App.enforceNasWorker principal ownerRole workerId).isSome

/-- The policy check of the card passes or raises a `PolicyError`: no document has a
shape that Python trips over. -/
def PolicyReadable (bundle : PolicyBundle) (card : TaskCardV1) : Prop :=
  ∀ e, Policy.assertTaskAllowed card bundle = .error e → ∃ detail, e = .policy detail

/-- **The domains** behind the request models, endpoint by endpoint. -/
def Fits (app : App) (principal : Principal) (s : Tables) : Endpoint → Prop
  | createTask card =>
      PolicyReadable app.bundle card ∧
        (Policy.assertTaskAllowed card app.bundle = .ok () → TaskFree s card)
  | claim _ body =>
      Denied principal body.ownerRole body.workerId ∨ IntervalMins body.leaseMinutes
  | heartbeat _ body =>
      Denied principal "hermes_nas" body.workerId ∨ IntervalMins body.leaseMinutes
  | reportFailure taskId report recoveryId =>
      Denied principal "hermes_nas" report.workerInstance ∨ report.taskId ≠ taskId ∨
        RecoveryFree s report recoveryId
  | approvalRequest taskId body approvalId =>
      HasLength 3 80 (Text.strip Text.isWhiteSpace body.action) ∧
        HasLength 3 120 (Text.strip Text.isWhiteSpace body.requestedBy) ∧
        ApprovalFree s taskId approvalId
  | _ => True

end Endpoint

section

variable {app : App} {principal : Principal} {now : Timestamp} {db : Db}

/-- A claim of a task that is not ready is refused and changes nothing. -/
lemma claim_refused (role worker : String) {mins : ℤ} (now : Timestamp) {t : UUID} {row : TaskRow}
    (hmins : IntervalMins mins) (hrow : db.tables.agentTasks.get? t = some row)
    (hready : row.status ≠ .ready) :
    store.out ⟨.claim t role worker mins, now⟩ db = .ok (.claimed none) ∧
      (store.next ⟨.claim t role worker mins, now⟩ db).tables = db.tables := by
  cases hout : store.out ⟨.claim t role worker mins, now⟩ db with
  | error e =>
      obtain ⟨c', hrun⟩ := run_of_error rfl hout
      exact absurd hrun (claim_returns hmins)
  | ok reply =>
      have heff := store_effect ⟨.claim t role worker mins, now⟩ db
      rw [hout] at heff
      generalize (store.next ⟨.claim t role worker mins, now⟩ db).tables = s' at heff ⊢
      cases heff with
      | notClaimed => exact ⟨rfl, rfl⟩
      | claimed _ _ _ _ r _ hr hclaim =>
          obtain rfl := Option.some.inj (hrow.symm.trans hr)
          simp only [claimable, Bool.and_eq_true, decide_eq_true_eq] at hclaim
          exact absurd hclaim.1.1 hready

end

namespace Policy

/-- The check passes or raises a `PolicyError`. -/
def Readable {α : Type} (x : Check α) : Prop := ∀ e, x = .error e → ∃ detail, e = .policy detail

variable {α β : Type}

lemma readable_ok (a : α) : Readable (.ok a : Check α) := fun e he => absurd he (by simp)

lemma readable_require (ok : Bool) (detail : String) : Readable (require ok detail) := by
  intro e he
  cases ok with
  | true => exact absurd he (by simp [require])
  | false => exact ⟨detail, (Except.error.inj he).symm⟩

lemma Readable.bind {x : Check α} {f : α → Check β} (hx : Readable x)
    (hf : ∀ a, x = .ok a → Readable (f a)) : Readable (x >>= f) := by
  intro e he
  cases hxe : x with
  | error e' =>
      rw [hxe] at he
      obtain rfl := Except.error.inj he
      exact hx _ hxe
  | ok a =>
      rw [hxe] at he
      exact hf a hxe e he

/-- An operation on a document that returns. -/
lemma readable_read {x : Except YamlError α} {f : α → Check β} {a : α} (hx : x = .ok a)
    (hf : Readable (f a)) : Readable (read x >>= f) := by
  rw [hx]
  exact hf

lemma readable_require_bind {ok : Bool} {detail : String} {f : Unit → Check β}
    (hf : ok = true → Readable (f ())) : Readable (require ok detail >>= f) :=
  (readable_require ok detail).bind fun _ h => hf (require_eq_ok.mp h)

lemma readable_checkExecutor (card : TaskCardV1) : Readable (checkExecutor bundle card) := by
  rw [checkExecutor]
  cases card.ownerRole with
  | hermesLocal | hermesNas =>
      refine readable_read rfl (readable_read rfl (readable_require_bind fun _ => ?_))
      refine readable_read rfl (readable_read rfl (readable_require_bind fun _ => ?_))
      refine readable_read rfl (readable_read rfl (readable_require_bind fun _ => ?_))
      exact readable_ok _

/-- The checks of the routing read the entries of the three classes that an executor
takes. -/
lemma readable_checkRouting {card : TaskCardV1} {entry : Yaml}
    (h : checkExecutor bundle card = .ok entry) : Readable (checkRouting bundle card entry) := by
  have hclass := taskClass_of_checkExecutor h
  obtain ⟨hentry, -, -⟩ := checkExecutor_spec h
  cases hrole : card.ownerRole with
  | hermesLocal =>
      rw [hrole] at hentry hclass
      obtain rfl := Except.ok.inj hentry
      rcases List.mem_pair.mp hclass with hclass | hclass
      all_goals
        rw [checkRouting, hclass]
        refine readable_read rfl (readable_read rfl (readable_require_bind fun _ => ?_))
        refine readable_read rfl (readable_read rfl (readable_read rfl ?_))
        refine readable_require_bind fun _ => ?_
        refine readable_read rfl (readable_require_bind fun _ => ?_)
        refine readable_read rfl (readable_read rfl (readable_require_bind fun _ => ?_))
        exact readable_read rfl (readable_read rfl (readable_require _ _))
  | hermesNas =>
      rw [hrole] at hentry hclass
      obtain rfl := Except.ok.inj hentry
      rw [checkRouting, List.mem_singleton.mp hclass]
      refine readable_read rfl (readable_read rfl (readable_require_bind fun _ => ?_))
      refine readable_read rfl (readable_read rfl (readable_read rfl ?_))
      refine readable_require_bind fun _ => ?_
      refine readable_read rfl (readable_require_bind fun _ => ?_)
      refine readable_read rfl (readable_read rfl (readable_require_bind fun _ => ?_))
      exact readable_read rfl (readable_read rfl (readable_require _ _))

/-- The check of a model of the catalog. -/
lemma readable_assertRouteAllowed {routing : ModelRouting} (d : DataClassification)
    {role : ExecutorRole} (hroute : routing.defaultRoute = [centralModel role]) :
    Readable (assertRouteAllowed routing bundle.catalog d) := by
  rw [assertRouteAllowed]
  refine readable_read rfl (readable_require_bind fun _ => ?_)
  cases role with
  | hermesLocal | hermesNas =>
    rw [hroute]
    refine Readable.bind ?_ fun _ _ => readable_ok _
    rw [checkRef]
    refine readable_read rfl (readable_require_bind fun _ => ?_)
    refine readable_read rfl (readable_require_bind fun _ => ?_)
    refine readable_read rfl (readable_require_bind fun _ => ?_)
    refine readable_read rfl (Readable.bind (readable_ok _) fun _ _ => ?_)
    refine readable_require_bind fun _ => ?_
    refine readable_read rfl (readable_require_bind fun _ => ?_)
    exact readable_read rfl (readable_require _ _)

/-- **The documents of the repository are readable**: their check of a card passes or
raises a `PolicyError`. -/
theorem policyReadable_bundle (card : TaskCardV1) : Endpoint.PolicyReadable bundle card := by
  suffices hreadable : Readable (assertTaskAllowed card bundle) from hreadable
  rw [assertTaskAllowed]
  have hbundle : checkBundle bundle = .ok () := rfl
  rw [hbundle]
  refine Readable.bind (readable_ok ()) fun _ _ => readable_require_bind fun _ => ?_
  refine (readable_checkExecutor card).bind fun entry hentry => ?_
  refine (readable_checkRouting hentry).bind fun _ hrouting => ?_
  exact readable_assertRouteAllowed _ (route_of_checkRouting hentry hrouting)

end Policy

end ControlHarness

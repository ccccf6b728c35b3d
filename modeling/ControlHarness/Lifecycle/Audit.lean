import ControlHarness.Lifecycle.Replay

/-!
The log of a task is its audit.

Beside the row of a task the store keeps four tables about it: its approvals,
receipts, dead letters and recovery cards. Each of their rows is written together
with an event, so the log tells what they hold: posting the events one after the
other into empty books gives the books of the task (`books_of_log`). No row is
there without its event, no event without its row, and both stand in the same order.

* `Books`: what the four tables hold of a task, as far as an event can tell it.
* `Books.post`: what one event enters.
* `TaskStep.audited`: a step posts its events.
-/

namespace ControlHarness

open Store

/-! ### The books -/

/-- An approval: who decided it and how, where it is decided. -/
structure ApprovalEntry where
  approvalId : UUID
  action : String
  status : ApprovalStatus
  decidedBy : Option String
  deriving DecidableEq, Repr

/-- A receipt: its outcome and the model that it names. -/
structure ReceiptEntry where
  outcome : ReceiptOutcome
  modelRef : String
  providerClass : ProviderClass
  deriving DecidableEq, Repr

/-- A dead letter. -/
structure DeadLetterEntry where
  deadLetterId : ℕ
  failureClass : FailureClass
  deriving DecidableEq, Repr

/-- A recovery card. -/
structure RecoveryEntry where
  recoveryId : UUID
  trigger : String
  allowedActions : List String
  deriving DecidableEq, Repr

/-- The entries of the four tables of a task, in the order they were made. -/
@[ext] structure Books where
  approvals : List ApprovalEntry := []
  receipts : List ReceiptEntry := []
  deadLetters : List DeadLetterEntry := []
  recoveryCards : List RecoveryEntry := []
  deriving DecidableEq, Repr

/-- The entry after a decision. -/
def ApprovalEntry.decide (d : Decision) (decidedBy : String) (a : ApprovalEntry) : ApprovalEntry :=
  { a with status := .decided d, decidedBy := some decidedBy }

/-- **What an event enters** in the books. -/
def Books.post (b : Books) : HarnessEvent → Books
  | .approvalRequested approvalId action =>
      { b with approvals := b.approvals ++ [⟨approvalId, action, .requested, none⟩] }
  | .approvalDecided approvalId d decidedBy =>
      { b with approvals := b.approvals.map fun a =>
          if a.approvalId = approvalId then a.decide d decidedBy else a }
  | .receiptAccepted outcome _ modelRef providerClass =>
      { b with receipts := b.receipts ++ [⟨outcome, modelRef, providerClass⟩] }
  | .deadLetterCreated deadLetterId failureClass =>
      { b with deadLetters := b.deadLetters ++ [⟨deadLetterId, failureClass⟩] }
  | .recoveryCardCreated recoveryId trigger allowedActions =>
      { b with recoveryCards := b.recoveryCards ++ [⟨recoveryId, trigger, allowedActions⟩] }
  | _ => b

/-- The books that a log posts. -/
def Books.ofLog (log : List HarnessEvent) : Books := log.foldl Books.post {}

lemma Books.ofLog_append (log es : List HarnessEvent) :
    Books.ofLog (log ++ es) = es.foldl Books.post (Books.ofLog log) := by
  rw [ofLog, ofLog, List.foldl_append]

/-! ### The books of a task -/

def ApprovalRow.entry (a : ApprovalRow) : ApprovalEntry :=
  ⟨a.approvalId, a.action, a.status, a.decidedBy⟩

def ReceiptRow.entry (r : ReceiptRow) : ReceiptEntry :=
  ⟨r.outcome, r.receipt.costReceipt.modelRef, r.receipt.costReceipt.providerClass⟩

def DeadLetterRow.entry (l : DeadLetterRow) : DeadLetterEntry := ⟨l.deadLetterId, l.failureClass⟩

def RecoveryCardRow.entry (c : RecoveryCardRow) : RecoveryEntry :=
  ⟨c.recoveryId, c.trigger, c.allowedActions⟩

/-- The books of a task: what the four tables hold of it. -/
def TaskView.books (v : TaskView) : Books where
  approvals := v.approvals.map (·.entry)
  receipts := v.receipts.map (·.entry)
  deadLetters := v.deadLetters.map (·.entry)
  recoveryCards := v.recoveryCards.map (·.entry)

/-- The books of the task are those that its log posts. -/
def Audited (v : TaskView) : Prop := v.books = Books.ofLog v.log

/-- Deciding a row and deciding its entry are the same. -/
lemma map_entry_decided (approvals : List ApprovalRow) (id : UUID) (d : Decision)
    (decidedBy reason : String) (now : Timestamp) :
    (approvals.map fun a =>
        if a.approvalId = id then decidedApproval d decidedBy reason now a else a).map (·.entry)
      = (approvals.map (·.entry)).map fun a =>
        if a.approvalId = id then a.decide d decidedBy else a := by
  rw [List.map_map, List.map_map]
  refine List.map_congr_left fun a _ => ?_
  by_cases hid : a.approvalId = id
  · simp only [Function.comp_apply, ApprovalRow.entry, if_pos hid]
    rfl
  · simp only [Function.comp_apply, ApprovalRow.entry, if_neg hid]

/-- The closing of a circuit enters nothing. -/
lemma foldl_post_closing {closing : List HarnessEvent}
    (h : ∀ e ∈ closing, ∃ key, e = .circuitClosed key) (b : Books) :
    closing.foldl Books.post b = b := by
  induction closing with
  | nil => rfl
  | cons e rest ih =>
      obtain ⟨key, rfl⟩ := h e (by simp)
      rw [List.foldl_cons]
      exact ih fun e' he' => h e' (by simp [he'])

section

variable {now : Timestamp} {t : UUID} {v v' : TaskView} {op : Op}

/-- A step that appends events and leaves the books that they post. -/
lemma Audited.extend (h : Audited v) (es : List HarnessEvent) (hlog : v'.log = v.log ++ es)
    (hbooks : v'.books = es.foldl Books.post v.books) : Audited v' := by
  rw [Audited, hbooks, hlog, Books.ofLog_append, h]

/-- **A step posts its events.** -/
theorem TaskStep.audited (h : TaskStep now t v op v') (hv : Audited v) : Audited v' := by
  cases h with
  | created | claimed | heartbeatRejected | retryScheduled | stopped | released | receiptRejected
  | transitioned => exact hv.extend _ rfl rfl
  | renewed worker mins row => exact hv.extend [] rfl rfl
  | swept ids row =>
      refine hv.extend (sweepEvents ids row) rfl (Books.ext rfl rfl rfl ?_)
      exact List.map_append
  | recovery report id row =>
      refine hv.extend [classified row report, .recoveryCardCreated id
        report.failureClass.value allowedActions] rfl (Books.ext rfl rfl rfl ?_)
      exact List.map_append
  | deadLettered report id row letterId reason =>
      refine hv.extend [classified row report, .deadLetterCreated letterId
        report.failureClass] rfl (Books.ext rfl rfl ?_ rfl)
      exact List.map_append
  | receiptAccepted receipt row receiptId closing hid hrow hown hexec hclosing =>
      refine hv.extend (accepted row receipt :: closing) rfl ?_
      rw [List.foldl_cons, foldl_post_closing hclosing]
      exact Books.ext rfl List.map_append rfl rfl
  | approvalRequested card row =>
      refine hv.extend [.approvalRequested card.approvalId card.action] rfl
        (Books.ext ?_ rfl rfl rfl)
      exact List.map_append
  | approvalDecided id decision decidedBy reason d =>
      refine hv.extend [.approvalDecided id d decidedBy] rfl (Books.ext ?_ rfl rfl rfl)
      exact map_entry_decided _ id d decidedBy reason now

end

/-- **The log is the audit**: along every run of the store, with `transition` among
the operations, what the tables of approvals, receipts, dead letters and recovery
cards hold of a task, down to their order, is what the events of the task post. -/
theorem books_of_log (calls : List Call) (t : UUID) :
    ((store.exec Db.init calls).tables.view t).books
      = Books.ofLog ((store.exec Db.init calls).tables.eventLog t) := by
  rw [eventLog_eq]
  exact view_exec (P := Audited) (A := fun _ => True) (fun _ _ => trivial) t rfl
    fun _ _ _ _ _ hstep hv => hstep.audited hv

end ControlHarness

import Mathlib.Data.String.Basic
import ControlHarness.General.Tally
import ControlHarness.Metrics
import ControlHarness.Store.ReceiptLog

/-!
The metrics conserve the receipts (`metrics.py`).

The three aggregations of the snapshot count the same receipts: the contract of a
receipt gives it a model, a provider class and a state for both checks, so none
of them skips a row. The routes are the totals of a `Tally`, and the snapshot does
not depend on the order in which the receipts were stored (`metrics_conserve`).

* `routeTally`: the loop over the rows, as a tally.
* `QualityMetrics.Conserves`: the law of the counts.
* `SameReceipts`: the same receipts, stored in any order.
-/

namespace ControlHarness

/-! ### The routes -/

/-- The key of a route. -/
def RouteMetrics.key (m : RouteMetrics) : String × ProviderClass := (m.modelRef, m.providerClass)

/-- The strict order of the routes, by model and then by the text of the provider
class. -/
def RouteMetrics.Before (a b : RouteMetrics) : Prop :=
  a.modelRef < b.modelRef ∨
    a.modelRef = b.modelRef ∧ a.providerClass.value < b.providerClass.value

@[simp] lemma RouteMetrics.key_add (m : RouteMetrics) (r : MetricsRow) : (m.add r).key = m.key := by
  rw [add]
  split <;> rfl

@[simp] lemma RouteMetrics.receiptCount_add (m : RouteMetrics) (r : MetricsRow) :
    (m.add r).receiptCount = m.receiptCount + 1 := by
  rw [add]
  split <;> rfl

/-- The totals by route. -/
def routeTally : Tally MetricsRow (String × ProviderClass) RouteMetrics where
  keyOf := MetricsRow.route
  key := RouteMetrics.key
  new k := { modelRef := k.1, providerClass := k.2 }
  add := RouteMetrics.add
  key_new _ := rfl
  key_add := RouteMetrics.key_add

instance : RightCommutative routeTally.add := by
  constructor
  intro m r r'
  change (m.add r).add r' = (m.add r').add r
  by_cases h : r.outcome = .completed <;> by_cases h' : r'.outcome = .completed <;>
    simp [RouteMetrics.add, h, h']

/-- The loop of the metrics is that of the tally. -/
lemma addRoute_eq (totals : List RouteMetrics) (r : MetricsRow) :
    addRoute totals r = routeTally.step totals r := by
  have hkey : ∀ (m : RouteMetrics) (k : String × ProviderClass),
      (m.modelRef = k.1 && m.providerClass = k.2) = decide (routeTally.key m = k) := by
    intro m k
    rw [Bool.eq_iff_iff, decide_eq_true_iff, Bool.and_eq_true, decide_eq_true_iff,
      decide_eq_true_iff]
    exact (Prod.ext_iff (x := m.key) (y := k)).symm
  have hroute : routeTally.keyOf r = r.route := rfl
  rw [addRoute, Tally.step, hroute]
  cases r.route with
  | none => rfl
  | some k =>
      obtain ⟨modelRef, providerClass⟩ := k
      simp only [fun m => hkey m (modelRef, providerClass), decide_eq_true_iff]
      rfl

lemma foldl_addRoute (rows : List MetricsRow) :
    rows.foldl addRoute [] = routeTally.totals rows := by
  rw [Tally.totals]
  exact congrArg (fun f => rows.foldl f []) (funext₂ addRoute_eq)

/-- A receipt names its route. -/
lemma MetricsRow.route_eq (r : MetricsRow) :
    r.route = some (r.receipt.costReceipt.modelRef, r.receipt.costReceipt.providerClass) := by
  have hne : r.receipt.costReceipt.modelRef ≠ "" := by
    intro hempty
    have hpattern := r.receipt.costReceipt.modelRef_pattern
    rw [hempty] at hpattern
    exact absurd hpattern (by decide)
  rw [route, if_neg hne]

/-! ### The order of the routes -/

lemma ProviderClass.value_injective : Function.Injective ProviderClass.value := by
  intro a b h
  cases a <;> cases b <;> first | rfl | exact absurd h (by decide)

instance : Std.Total RouteMetrics.le := by
  constructor
  intro a b
  rcases lt_trichotomy a.modelRef b.modelRef with hlt | heq | hgt
  · exact Or.inl (Or.inl hlt)
  · exact (le_total a.providerClass.value b.providerClass.value).imp
      (fun h => Or.inr ⟨heq, h⟩) fun h => Or.inr ⟨heq.symm, h⟩
  · exact Or.inr (Or.inl hgt)

instance : IsTrans RouteMetrics RouteMetrics.le := by
  constructor
  rintro a b c (hab | ⟨hab, hab'⟩) (hbc | ⟨hbc, hbc'⟩)
  · exact Or.inl (hab.trans hbc)
  · exact Or.inl (hab.trans_eq hbc)
  · exact Or.inl (hab.trans_lt hbc)
  · exact Or.inr ⟨hab.trans hbc, hab'.trans hbc'⟩

/-- Routes that are not after each other have one key. -/
lemma RouteMetrics.key_eq_of_le {a b : RouteMetrics} (hab : a.le b) (hba : b.le a) :
    a.key = b.key := by
  rcases hab with hlt | ⟨heq, hle⟩
  · rcases hba with hgt | ⟨heq, -⟩
    · exact absurd hgt hlt.asymm
    · exact absurd heq.symm hlt.ne
  · rcases hba with hgt | ⟨-, hge⟩
    · exact absurd heq.symm hgt.ne
    · exact Prod.ext heq (ProviderClass.value_injective (hle.antisymm hge))

lemma RouteMetrics.before_of_le {a b : RouteMetrics} (hle : a.le b) (hne : a.key ≠ b.key) :
    a.Before b := by
  rcases hle with hlt | ⟨heq, hle⟩
  · exact Or.inl hlt
  · refine Or.inr ⟨heq, hle.lt_of_ne fun hvalue => hne ?_⟩
    exact Prod.ext heq (ProviderClass.value_injective hvalue)

/-- The routes of the snapshot are the totals by route. -/
lemma perm_routes (rows : List MetricsRow) :
    (qualityMetrics rows).routes.Perm (routeTally.totals rows) := by
  rw [← foldl_addRoute]
  exact List.perm_insertionSort RouteMetrics.le _

/-- No two routes of the snapshot have one key. -/
lemma nodup_routes (rows : List MetricsRow) :
    ((qualityMetrics rows).routes.map RouteMetrics.key).Nodup := by
  rw [((perm_routes rows).map RouteMetrics.key).nodup_iff]
  exact (Tally.counted_totals (T := routeTally) rows).nodup

lemma pairwise_routes (rows : List MetricsRow) :
    (qualityMetrics rows).routes.Pairwise RouteMetrics.le :=
  List.pairwise_insertionSort RouteMetrics.le _

/-- The routes do not depend on the order of the rows. -/
lemma routes_eq_of_perm {rows rows' : List MetricsRow} (h : rows.Perm rows') :
    (qualityMetrics rows).routes = (qualityMetrics rows').routes := by
  have hperm : (qualityMetrics rows).routes.Perm (qualityMetrics rows').routes :=
    (perm_routes rows).trans ((Tally.perm_of_perm h).trans (perm_routes rows').symm)
  refine hperm.eq_of_pairwise ?_ (pairwise_routes rows) (pairwise_routes rows')
  intro a b ha hb hab hba
  exact List.inj_on_of_nodup_map (nodup_routes rows) ha (hperm.mem_iff.mpr hb)
    (RouteMetrics.key_eq_of_le hab hba)

/-! ### The counts -/

/-- The numerator of a metric, if it is available. -/
def MetricValue.numerator : MetricValue → Option ℕ
  | .available numerator _ _ => some numerator
  | .unavailable _ => none

/-- All states of a check. -/
def CheckCounts.all (c : CheckCounts) : ℕ := c.passed + c.failed + c.notRun

/-- **The law of the counts**: each aggregation accounts for every receipt once. -/
structure QualityMetrics.Conserves (m : QualityMetrics) : Prop where
  sorted : m.routes.Pairwise RouteMetrics.Before
  unique : (m.routes.map RouteMetrics.key).Nodup
  outcomes : ∀ r ∈ m.routes, r.completedCount + r.nonCompletedCount = r.receiptCount
  routed : (m.routes.map RouteMetrics.receiptCount).sum = m.receiptCount
  lint : m.lint.all = m.receiptCount
  tests : m.tests.all = m.receiptCount
  rates : ∀ first ∈ m.firstPassRate.numerator, ∀ retried ∈ m.retryRate.numerator,
    first + retried ≤ m.receiptCount

/-- A check has one of its three states in every row. -/
lemma checkCounts_all (check : ValidationResult → CheckState) (rows : List MetricsRow) :
    (checkCounts check rows).all = rows.length := by
  induction rows with
  | nil => rfl
  | cons r rows ih =>
      simp only [CheckCounts.all, checkCounts, List.countP_cons, List.length_cons] at ih ⊢
      cases hstate : check r.receipt.validation <;> simp <;> omega

/-- No row counts both as a first pass and as a retry. -/
lemma numerators_le (rows : List MetricsRow) :
    (rows.countP fun r => r.outcome = .completed && r.attemptCount = 1)
      + (rows.countP fun r => 1 < r.attemptCount) ≤ rows.length := by
  induction rows with
  | nil => exact le_refl 0
  | cons r rows ih =>
      simp only [List.countP_cons, List.length_cons]
      have hone : (if (r.outcome = .completed && r.attemptCount = 1) = true then 1 else 0)
          + (if decide (1 < r.attemptCount) = true then 1 else 0) ≤ 1 := by
        by_cases hattempts : 1 < r.attemptCount
        · have hne : r.attemptCount ≠ 1 := by omega
          simp [hne, hattempts]
        · rw [decide_eq_false hattempts, if_neg Bool.false_ne_true]
          split <;> omega
      omega

lemma numerator_rateMetric {numerator denominator n : ℕ}
    (h : n ∈ (rateMetric numerator denominator).numerator) : n = numerator := by
  rw [rateMetric] at h
  split at h
  · exact absurd h (by simp [MetricValue.numerator])
  · exact (Option.some.inj h).symm

lemma qualityMetrics_conserves (rows : List MetricsRow) : (qualityMetrics rows).Conserves where
  sorted := by
    have hne := List.pairwise_map.mp (nodup_routes rows)
    exact ((pairwise_routes rows).and hne).imp fun h => RouteMetrics.before_of_le h.1 h.2
  unique := nodup_routes rows
  outcomes := by
    intro m hm
    have htotal : m ∈ routeTally.totals rows := (perm_routes rows).mem_iff.mp hm
    refine Tally.forall_totals
      (P := fun m => m.completedCount + m.nonCompletedCount = m.receiptCount) ?_ ?_ m htotal
    · exact fun k => rfl
    · intro m r ih
      change (m.add r).completedCount + (m.add r).nonCompletedCount = (m.add r).receiptCount
      rw [RouteMetrics.add]
      split <;> dsimp only <;> omega
  routed := by
    have hkeys : (routeTally.keys rows).length = rows.length := by
      rw [Tally.keys, List.length_filterMap_eq_countP, List.countP_eq_length]
      intro r _
      exact Option.isSome_of_eq_some r.route_eq
    rw [((perm_routes rows).map RouteMetrics.receiptCount).sum_eq,
      Tally.sum_totals (fun k => rfl) RouteMetrics.receiptCount_add, hkeys]
    rfl
  lint := checkCounts_all _ rows
  tests := checkCounts_all _ rows
  rates := by
    intro first hfirst retried hretried
    rw [numerator_rateMetric hfirst, numerator_rateMetric hretried]
    exact numerators_le rows

/-- The metrics do not depend on the order of the rows. -/
lemma qualityMetrics_perm {rows rows' : List MetricsRow} (h : rows.Perm rows') :
    qualityMetrics rows = qualityMetrics rows' := by
  have hroutes := routes_eq_of_perm h
  have hchecks : ∀ check, checkCounts check rows = checkCounts check rows' := by
    intro check
    rw [checkCounts, checkCounts, h.countP_eq, h.countP_eq, h.countP_eq]
  simp only [qualityMetrics, h.length_eq, h.countP_eq, hchecks] at hroutes ⊢
  rw [hroutes]

/-! ### The stored receipts -/

/-- What the metrics read of a stored receipt. -/
def ReceiptRow.evidence (rr : ReceiptRow) : UUID × ReceiptOutcome × ResultReceiptV1 :=
  (rr.taskId, rr.outcome, rr.receipt)

/-- What the metrics read of a task. -/
def TaskRow.attempts (r : TaskRow) : Bool × ℕ := (r.operational, r.attemptCount)

/-- The same receipts, stored in any order under any numbers, of tasks with the same
attempts. -/
structure SameReceipts (s s' : Tables) : Prop where
  receipts : (s.routingReceipts.map ReceiptRow.evidence).Perm
    (s'.routingReceipts.map ReceiptRow.evidence)
  tasks : ∀ t, (s.agentTasks.get? t).map TaskRow.attempts
    = (s'.agentTasks.get? t).map TaskRow.attempts

/-- A receipt is joined with what the metrics read of its task. -/
lemma metricsRow_eq (tasks : Table TaskRow.taskId) (t : UUID) (outcome : ReceiptOutcome)
    (receipt : ResultReceiptV1) :
    metricsRow tasks t outcome receipt =
      (((tasks.get? t).map TaskRow.attempts).filter Prod.fst).map fun a =>
        ⟨outcome, receipt, a.2⟩ := by
  rw [metricsRow]
  cases tasks.get? t with
  | none => rfl
  | some row =>
      rw [Option.map_some, Option.filter_some, Option.filter_some]
      change _ = (if row.operational = true then some row.attempts else none).map _
      split <;> rfl

lemma SameReceipts.metricsRows {s s' : Tables} (h : SameReceipts s s') :
    s.metricsRows.Perm s'.metricsRows := by
  let join (s : Tables) (e : UUID × ReceiptOutcome × ResultReceiptV1) : Option MetricsRow :=
    metricsRow s.agentTasks e.1 e.2.1 e.2.2
  have hrow : ∀ s : Tables, s.metricsRows.Perm
      ((s.routingReceipts.map ReceiptRow.evidence).filterMap (join s)) := by
    intro s
    rw [List.filterMap_map]
    exact (List.perm_insertionSort (fun a b : ReceiptRow => a.receiptId ≤ b.receiptId)
      s.routingReceipts).filterMap _
  have hjoin : join s = join s' := by
    funext e
    change metricsRow _ _ _ _ = metricsRow _ _ _ _
    rw [metricsRow_eq, metricsRow_eq, h.tasks]
  calc s.metricsRows
      |>.Perm _ := hrow s
    _ |>.Perm _ := by
        rw [hjoin]
        exact h.receipts.filterMap _
    _ |>.Perm s'.metricsRows := (hrow s').symm

/-- **The metrics conserve the receipts**: in the snapshot of every reachable state
each aggregation accounts for every receipt, and the same receipts stored in any
other order give the same snapshot. -/
theorem metrics_conserve (calls : List Call) (now : Timestamp) {s : Tables}
    (h : SameReceipts s (store.exec Db.init calls).tables) :
    (buildQualityMetricsSnapshot (store.exec Db.init calls).tables now).metrics.Conserves ∧
      buildQualityMetricsSnapshot s now
        = buildQualityMetricsSnapshot (store.exec Db.init calls).tables now := by
  refine ⟨qualityMetrics_conserves _, ?_⟩
  rw [buildQualityMetricsSnapshot, buildQualityMetricsSnapshot, qualityMetrics_perm h.metricsRows]

/-- The tables with the receipts stored the other way round. -/
def Tables.reversed (s : Tables) : Tables := { s with routingReceipts := s.routingReceipts.reverse }

lemma SameReceipts.reversed (s : Tables) : SameReceipts s.reversed s := by
  refine ⟨?_, fun t => rfl⟩
  exact s.routingReceipts.reverse_perm.map ReceiptRow.evidence

/-- Two tasks with a receipt each, by two models. -/
def twoReceiptsRun : List Call :=
  [⟨.createTask sampleCard, 0⟩, ⟨.createTask siblingCard, 0⟩,
    ⟨.claim sampleCard.taskId "hermes_local" "worker-a" 30, minutes 1⟩,
    ⟨.claim siblingCard.taskId "hermes_local" "worker-b" 30, minutes 1⟩,
    ⟨.submitReceipt sampleReceipt, minutes 2⟩,
    ⟨.submitReceipt
      { sampleReceipt with
        taskId := siblingCard.taskId
        workerInstance := "worker-b"
        outcome := .failed
        costReceipt := { providerClass := .localModel, modelRef := "local_small" }
        worker_length := by decide }, minutes 3⟩]

theorem metrics_conserve_twoReceipts :
    (buildQualityMetricsSnapshot (store.exec Db.init twoReceiptsRun).tables 0).metrics.Conserves ∧
      buildQualityMetricsSnapshot (store.exec Db.init twoReceiptsRun).tables.reversed 0
        = buildQualityMetricsSnapshot (store.exec Db.init twoReceiptsRun).tables 0 :=
  metrics_conserve twoReceiptsRun 0 (.reversed _)

example : (buildQualityMetricsSnapshot (store.exec Db.init twoReceiptsRun).tables 0).metrics.routes
    = [⟨"anthropic_oauth_reasoner", .subscriptionOauth, 1, 1, 0⟩,
      ⟨"local_small", .localModel, 1, 0, 1⟩] := by
  decide +kernel

end ControlHarness

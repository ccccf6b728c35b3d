import ControlHarness.General.Machine
import ControlHarness.General.Text
import ControlHarness.Projection

/-!
The planner of the consumer of projections (`plan_projection` of `projection.py`,
and the algorithm of `pandaos-projection-adapter.md`).

The consumer keeps a checkpoint of what it wrote last and applies the operation
that the planner chooses from the checkpoint, the projection and the target as it
is. In every run of deliveries, in any order and repeated, and of edits of the
target by hand, the checkpoint is that of the newest projection delivered, and a
delivery that is not older leaves the target showing it
(`projection_converges`).

* `planProjection`: the function of the source, with the texts of its reasons.
* `Consumer`, `Consumer.apply`, `consumer`: the consumer as a machine over
  deliveries and edits. An edit changes what a target shows; it does not remove
  the target.
* `Consumer.Tracks`: the invariant, the checkpoint is that of the newest
  projection delivered.
* `Converges`: the law.
-/

namespace ControlHarness

/-- `ProjectionCheckpoint`. -/
structure ProjectionCheckpoint where
  pandaTaskId : String
  sourceEventId : ℕ
  fingerprint : String
  deriving DecidableEq, Repr

/-- `ObservedPandaTask`: what a target shows. -/
structure ObservedPandaTask where
  subject : String
  status : PandaStatus
  activeForm : String
  deriving DecidableEq, Repr

/-- `ProjectionOperation.action`. -/
inductive ProjectionAction where
  | create | update | repair | advanceCursor | noop | ignoreOld
  deriving DecidableEq, Repr

/-- `ProjectionOperation`. -/
structure ProjectionOperation where
  action : ProjectionAction
  reason : String
  projection : PandaTaskProjection
  pandaTaskId : Option String := none
  deriving DecidableEq, Repr

/-- The fingerprint of what a target shows. -/
def ObservedPandaTask.fingerprint (R : Rendering) (o : ObservedPandaTask) : String :=
  targetFingerprint R o.subject o.status.value o.activeForm

/-- `plan_projection`. -/
def planProjection (R : Rendering) (projection : PandaTaskProjection)
    (checkpoint : Option ProjectionCheckpoint) (observed : Option ObservedPandaTask) :
    ProjectionOperation :=
  match checkpoint with
  | none => { action := .create, reason := "projection_missing", projection }
  | some checkpoint =>
    let pandaTaskId := some checkpoint.pandaTaskId
    if projection.sourceEventId < checkpoint.sourceEventId then
      { action := .ignoreOld, reason := "older_harness_event", projection, pandaTaskId }
    else if observed.any fun o => o.fingerprint R ≠ checkpoint.fingerprint then
      { action := .repair, reason := "panda_projection_drift", projection, pandaTaskId }
    else if projection.sourceEventId = checkpoint.sourceEventId then
      if projection.fingerprint = checkpoint.fingerprint then
        { action := .noop, reason := "already_projected", projection, pandaTaskId }
      else { action := .repair, reason := "same_event_content_drift", projection, pandaTaskId }
    else if projection.fingerprint = checkpoint.fingerprint then
      { action := .advanceCursor, reason := "display_unchanged", projection, pandaTaskId }
    else { action := .update, reason := "new_harness_state", projection, pandaTaskId }

/-! ### The consumer -/

/-- The three fields that the consumer writes. -/
def PandaTaskProjection.shown (p : PandaTaskProjection) : ObservedPandaTask :=
  ⟨p.subject, p.status, p.activeForm⟩

/-- The consumer of one task: its checkpoint and the target. -/
structure Consumer where
  checkpoint : Option ProjectionCheckpoint := none
  target : Option ObservedPandaTask := none
  deriving DecidableEq, Repr

/-- Carry out an operation; `pandaTaskId` is the identifier of a target that it
creates. -/
def Consumer.apply (c : Consumer) (operation : ProjectionOperation) (pandaTaskId : String) :
    Consumer :=
  let p := operation.projection
  match operation.action with
  | .create => ⟨some ⟨pandaTaskId, p.sourceEventId, p.fingerprint⟩, some p.shown⟩
  | .update | .repair =>
      ⟨c.checkpoint.map fun cp => ⟨cp.pandaTaskId, p.sourceEventId, p.fingerprint⟩, some p.shown⟩
  | .advanceCursor =>
      { c with checkpoint := c.checkpoint.map ({ · with sourceEventId := p.sourceEventId }) }
  | .noop | .ignoreOld => c

/-- What happens to a consumer: the projection of a row is delivered, or somebody
edits the target. -/
inductive ConsumerStep where
  | deliver (row : ProjectionRow) (pandaTaskId : String)
  | edit (content : ObservedPandaTask)
  deriving DecidableEq, Repr

/-- The consumer as a machine; a delivery answers with the operation. -/
def consumer (R : Rendering) : Machine Consumer ConsumerStep (Option ProjectionOperation) where
  step
    | .deliver row pandaTaskId, c =>
        let operation := planProjection R (projectTask R row) c.checkpoint c.target
        (some operation, c.apply operation pandaTaskId)
    | .edit content, c => (none, { c with target := c.target.map fun _ => content })

/-- The projections delivered in a run. -/
def delivered (R : Rendering) (steps : List ConsumerStep) : List PandaTaskProjection :=
  steps.filterMap fun
    | .deliver row _ => some (projectTask R row)
    | .edit _ => none

/-- What a step would have the target show. -/
def ConsumerStep.content (R : Rendering) : ConsumerStep → ObservedPandaTask
  | deliver row _ => (projectTask R row).shown
  | edit content => content

/-- The fingerprints tell the contents of the run apart. -/
def CollisionFree (R : Rendering) (steps : List ConsumerStep) : Prop :=
  ∀ a ∈ steps, ∀ b ∈ steps,
    (a.content R).fingerprint R = (b.content R).fingerprint R → a.content R = b.content R

/-- The consumer after a run from nothing. -/
def Consumer.after (R : Rendering) (steps : List ConsumerStep) : Consumer :=
  (consumer R).exec {} steps

/-- **The law of the consumer**: the event of the checkpoint never goes back and
ends as the latest one delivered; a delivery that is not below the checkpoint
leaves the target showing its projection, and the same delivery again does
nothing. -/
structure Converges (R : Rendering) (steps : List ConsumerStep) : Prop where
  monotone : ∀ pre step post, steps = pre ++ step :: post →
    ∀ cp ∈ (Consumer.after R pre).checkpoint,
      ∃ cp' ∈ (Consumer.after R (pre ++ [step])).checkpoint, cp.sourceEventId ≤ cp'.sourceEventId
  newest : (Consumer.after R steps).checkpoint.map (·.sourceEventId) =
    ((delivered R steps).map (·.sourceEventId)).max?
  shows : ∀ pre row pandaTaskId post, steps = pre ++ .deliver row pandaTaskId :: post →
    (∀ cp ∈ (Consumer.after R pre).checkpoint, cp.sourceEventId ≤ row.sourceEventId) →
    (Consumer.after R (pre ++ [.deliver row pandaTaskId])).target =
      some (projectTask R row).shown
  redelivered : ∀ pre row pandaTaskId post, steps = pre ++ .deliver row pandaTaskId :: post →
    (∀ cp ∈ (Consumer.after R pre).checkpoint, cp.sourceEventId ≤ row.sourceEventId) →
    ∀ pandaTaskId', ∃ operation, operation.action = .noop ∧
      (consumer R).step (.deliver row pandaTaskId')
          (Consumer.after R (pre ++ [.deliver row pandaTaskId])) =
        (some operation, Consumer.after R (pre ++ [.deliver row pandaTaskId]))

/-! ### One step -/

variable {R : Rendering} {c : Consumer} {past steps : List ConsumerStep}

lemma Consumer.after_concat (steps : List ConsumerStep) (step : ConsumerStep) :
    after R (steps ++ [step]) = (consumer R).next step (after R steps) :=
  (consumer R).exec_concat _ _ _

/-- The checkpoint of a projection. -/
def PandaTaskProjection.checkpoint (p : PandaTaskProjection) (pandaTaskId : String) :
    ProjectionCheckpoint :=
  ⟨pandaTaskId, p.sourceEventId, p.fingerprint⟩

/-- The fingerprint of a projection is that of the target that shows it. -/
lemma fingerprint_shown (row : ProjectionRow) :
    (projectTask R row).shown.fingerprint R = (projectTask R row).fingerprint := rfl

/-- The first delivery creates the target. -/
lemma next_deliver_first (row : ProjectionRow) (pandaTaskId : String) :
    (consumer R).next (.deliver row pandaTaskId) {} =
      ⟨some ((projectTask R row).checkpoint pandaTaskId), some (projectTask R row).shown⟩ := rfl

/-- **A later delivery** leaves an older projection aside; any other becomes the
checkpoint, and the target is written unless it already has the fingerprint of
the projection. -/
lemma next_deliver {p : PandaTaskProjection} {o : ObservedPandaTask} {pandaTaskId : String}
    (row : ProjectionRow) (pandaTaskId' : String) :
    let q := projectTask R row
    let c' := (consumer R).next (.deliver row pandaTaskId')
      ⟨some (p.checkpoint pandaTaskId), some o⟩
    q.sourceEventId < p.sourceEventId ∧ c' = ⟨some (p.checkpoint pandaTaskId), some o⟩ ∨
      p.sourceEventId ≤ q.sourceEventId ∧ c'.checkpoint = some (q.checkpoint pandaTaskId) ∧
        (c'.target = some q.shown ∨ c'.target = some o ∧ o.fingerprint R = q.fingerprint) := by
  intro q c'
  have hc' : c' = Consumer.apply ⟨some (p.checkpoint pandaTaskId), some o⟩
      (planProjection R q (some (p.checkpoint pandaTaskId)) (some o)) pandaTaskId' := rfl
  rw [planProjection] at hc'
  split at hc'
  · rename_i hold
    exact Or.inl ⟨hold, hc'⟩
  rename_i hold
  have hle : p.sourceEventId ≤ q.sourceEventId := Nat.le_of_not_lt hold
  refine Or.inr ⟨hle, ?_⟩
  split at hc'
  · -- the target was edited
    exact hc' ▸ ⟨rfl, Or.inl rfl⟩
  rename_i hdrift
  have ho : o.fingerprint R = p.fingerprint := by
    by_contra hne
    exact hdrift (decide_eq_true hne)
  split at hc'
  · rename_i hevent
    split at hc'
    · rename_i hsame
      have hq : p.checkpoint pandaTaskId = q.checkpoint pandaTaskId := by
        rw [PandaTaskProjection.checkpoint, PandaTaskProjection.checkpoint, hevent, hsame]
        rfl
      exact hc' ▸ ⟨congrArg some hq, Or.inr ⟨rfl, ho.trans hsame.symm⟩⟩
    · exact hc' ▸ ⟨rfl, Or.inl rfl⟩
  · split at hc'
    · rename_i hsame
      have hq : ({ p.checkpoint pandaTaskId with sourceEventId := q.sourceEventId }
          : ProjectionCheckpoint) = q.checkpoint pandaTaskId := by
        rw [PandaTaskProjection.checkpoint, PandaTaskProjection.checkpoint, hsame]
        rfl
      exact hc' ▸ ⟨congrArg some hq, Or.inr ⟨rfl, ho.trans hsame.symm⟩⟩
    · exact hc' ▸ ⟨rfl, Or.inl rfl⟩

/-! ### The invariant -/

@[simp] lemma delivered_concat_deliver (row : ProjectionRow) (pandaTaskId : String) :
    delivered R (past ++ [.deliver row pandaTaskId]) = delivered R past ++ [projectTask R row] := by
  simp [delivered]

@[simp] lemma delivered_concat_edit (content : ObservedPandaTask) :
    delivered R (past ++ [.edit content]) = delivered R past := by
  simp [delivered]

/-- The consumer has the checkpoint of a newest projection delivered, and a target
that somebody wrote; or nothing was delivered yet. -/
inductive Consumer.Tracks (R : Rendering) (past : List ConsumerStep) : Consumer → Prop where
  | nothing (hnone : delivered R past = []) : Tracks R past {}
  | newest {p : PandaTaskProjection} {pandaTaskId : String} {step : ConsumerStep}
      (hp : p ∈ delivered R past)
      (hmax : ∀ q ∈ delivered R past, q.sourceEventId ≤ p.sourceEventId)
      (hstep : step ∈ past) :
      Tracks R past ⟨some (p.checkpoint pandaTaskId), some (step.content R)⟩

/-- One step keeps the checkpoint that of a newest projection. -/
lemma Consumer.Tracks.next (h : Consumer.Tracks R past c) (step : ConsumerStep) :
    Consumer.Tracks R (past ++ [step]) ((consumer R).next step c) := by
  have hlast : step ∈ past ++ [step] := List.mem_append_right _ List.mem_cons_self
  cases h with
  | nothing hnone =>
      cases step with
      | edit content =>
          refine .nothing ?_
          rw [delivered_concat_edit, hnone]
      | deliver row pandaTaskId =>
          rw [next_deliver_first]
          refine .newest ?_ ?_ hlast
          · simp
          · simp [hnone]
  | @newest p pandaTaskId past_step hp hmax hpast =>
      have hold : past_step ∈ past ++ [step] := List.mem_append_left _ hpast
      cases step with
      | edit content =>
          have hedited : Consumer.Tracks R (past ++ [.edit content])
              ⟨some (p.checkpoint pandaTaskId), some (ConsumerStep.content R (.edit content))⟩ := by
            refine .newest ?_ ?_ hlast
            · rw [delivered_concat_edit]
              exact hp
            · rw [delivered_concat_edit]
              exact hmax
          exact hedited
      | deliver row pandaTaskId' =>
          rcases next_deliver (o := past_step.content R) row pandaTaskId' with
            ⟨hlt, hnext⟩ | ⟨hle, hcheckpoint, htarget⟩
          · -- an older projection
            rw [hnext]
            refine .newest ?_ ?_ hold
            · rw [delivered_concat_deliver]
              exact List.mem_append_left _ hp
            · rw [delivered_concat_deliver, List.forall_mem_append]
              exact ⟨hmax, by simpa using hlt.le⟩
          · have hmax' : ∀ q ∈ delivered R (past ++ [.deliver row pandaTaskId']),
                q.sourceEventId ≤ (projectTask R row).sourceEventId := by
              rw [delivered_concat_deliver, List.forall_mem_append]
              exact ⟨fun q hq => (hmax q hq).trans hle, by simp⟩
            have hmem : projectTask R row ∈ delivered R (past ++ [.deliver row pandaTaskId']) := by
              simp
            generalize (consumer R).next (.deliver row pandaTaskId')
              ⟨some (p.checkpoint pandaTaskId), some (past_step.content R)⟩ = c' at *
            obtain ⟨checkpoint, target⟩ := c'
            dsimp only at hcheckpoint htarget
            rw [hcheckpoint]
            rcases htarget with htarget | ⟨htarget, -⟩
            · rw [htarget]
              exact .newest hmem hmax' hlast
            · rw [htarget]
              exact .newest hmem hmax' hold

lemma Consumer.tracks_after (steps : List ConsumerStep) :
    Consumer.Tracks R steps (Consumer.after R steps) := by
  induction steps using List.reverseRecOn with
  | nil => exact .nothing rfl
  | append_singleton steps step ih =>
      rw [Consumer.after_concat]
      exact ih.next step

lemma Consumer.Tracks.newest_delivered (h : Consumer.Tracks R past c) :
    c.checkpoint.map (·.sourceEventId) = ((delivered R past).map (·.sourceEventId)).max? := by
  cases h with
  | nothing hnone => rw [hnone]; rfl
  | @newest p _ _ hp hmax =>
      have hlatest : ((delivered R past).map (·.sourceEventId)).max? = some p.sourceEventId := by
        rw [List.max?_eq_some_iff]
        refine ⟨List.mem_map_of_mem hp, fun n hn => ?_⟩
        obtain ⟨q, hq, rfl⟩ := List.mem_map.mp hn
        exact hmax q hq
      exact hlatest.symm

/-- One step does not take the checkpoint back. -/
lemma Consumer.Tracks.monotone (h : Consumer.Tracks R past c) (step : ConsumerStep) :
    ∀ cp ∈ c.checkpoint, ∃ cp' ∈ ((consumer R).next step c).checkpoint,
      cp.sourceEventId ≤ cp'.sourceEventId := by
  intro cp hcp
  cases h with
  | nothing => exact absurd hcp (by simp)
  | @newest p pandaTaskId past_step =>
      obtain rfl := Option.some.inj hcp
      cases step with
      | edit content => exact ⟨_, rfl, le_rfl⟩
      | deliver row pandaTaskId' =>
          rcases next_deliver (o := past_step.content R) row pandaTaskId' with
            ⟨-, hnext⟩ | ⟨hle, hcheckpoint, -⟩
          · rw [hnext]
            exact ⟨_, rfl, le_rfl⟩
          · exact ⟨_, hcheckpoint, hle⟩

/-- **A delivery that is not below the checkpoint** becomes the checkpoint and is
shown by the target. -/
lemma Consumer.Tracks.deliver {row : ProjectionRow} {pandaTaskId : String}
    (h : Consumer.Tracks R past c)
    (hfree : CollisionFree R (past ++ [.deliver row pandaTaskId]))
    (hle : ∀ cp ∈ c.checkpoint, cp.sourceEventId ≤ row.sourceEventId) :
    ∃ pandaTaskId', (consumer R).next (.deliver row pandaTaskId) c =
      ⟨some ((projectTask R row).checkpoint pandaTaskId'), some (projectTask R row).shown⟩ := by
  cases h with
  | nothing => exact ⟨pandaTaskId, next_deliver_first row pandaTaskId⟩
  | @newest p id past_step hp hmax hpast =>
      rcases next_deliver (o := past_step.content R) row pandaTaskId with
        ⟨hlt, -⟩ | ⟨-, hcheckpoint, htarget⟩
      · exact absurd (hle _ rfl) (Nat.not_le_of_lt hlt)
      · have htarget' : ((consumer R).next (.deliver row pandaTaskId)
            ⟨some (p.checkpoint id), some (past_step.content R)⟩).target
              = some (projectTask R row).shown := by
          rcases htarget with htarget | ⟨htarget, hfingerprint⟩
          · exact htarget
          · -- the target already shows the projection
            rw [htarget]
            exact congrArg some (hfree past_step (List.mem_append_left _ hpast)
              (.deliver row pandaTaskId) (List.mem_append_right _ List.mem_cons_self)
              hfingerprint)
        refine ⟨id, ?_⟩
        generalize (consumer R).next (.deliver row pandaTaskId)
          ⟨some (p.checkpoint id), some (past_step.content R)⟩ = c' at *
        obtain ⟨checkpoint, target⟩ := c'
        exact congrArg₂ Consumer.mk hcheckpoint htarget'

/-- What the checkpoint and the target already have is not written again. -/
lemma step_redelivered (row : ProjectionRow) (pandaTaskId pandaTaskId' : String) :
    let c : Consumer :=
      ⟨some ((projectTask R row).checkpoint pandaTaskId), some (projectTask R row).shown⟩
    ∃ operation, operation.action = .noop ∧
      (consumer R).step (.deliver row pandaTaskId') c = (some operation, c) := by
  intro c
  let operation : ProjectionOperation :=
    { action := .noop, reason := "already_projected", projection := projectTask R row
      pandaTaskId := some pandaTaskId }
  have hold : ¬ (projectTask R row).sourceEventId <
      ((projectTask R row).checkpoint pandaTaskId).sourceEventId := Nat.lt_irrefl _
  have hdrift : ¬ (some (projectTask R row).shown).any (fun o => o.fingerprint R ≠
      ((projectTask R row).checkpoint pandaTaskId).fingerprint) = true := fun h =>
    of_decide_eq_true h (fingerprint_shown row)
  have hplan : planProjection R (projectTask R row)
      (some ((projectTask R row).checkpoint pandaTaskId)) (some (projectTask R row).shown) =
        operation := by
    rw [planProjection, if_neg hold, if_neg hdrift]
    exact (if_pos rfl).trans (if_pos rfl)
  refine ⟨operation, rfl, ?_⟩
  have hstep : (consumer R).step (.deliver row pandaTaskId') c =
      (some (planProjection R (projectTask R row) c.checkpoint c.target),
        c.apply (planProjection R (projectTask R row) c.checkpoint c.target) pandaTaskId') := rfl
  rw [hstep, hplan]
  rfl

/-! ### The law -/

lemma CollisionFree.prefix {pre post : List ConsumerStep} (h : CollisionFree R (pre ++ post)) :
    CollisionFree R pre := fun a ha b hb =>
  h a (List.mem_append_left _ ha) b (List.mem_append_left _ hb)

/-- **The planner converges**, whatever the order of the deliveries and the edits,
as long as the fingerprints of the run tell its contents apart. -/
theorem projection_converges (hfree : CollisionFree R steps) : Converges R steps where
  monotone := by
    rintro pre step post rfl cp hcp
    rw [Consumer.after_concat]
    exact (Consumer.tracks_after pre).monotone step cp hcp
  newest := (Consumer.tracks_after steps).newest_delivered
  shows := by
    rintro pre row pandaTaskId post rfl hle
    rw [List.append_cons] at hfree
    obtain ⟨id, hnext⟩ := (Consumer.tracks_after pre).deliver hfree.prefix hle
    rw [Consumer.after_concat, hnext]
  redelivered := by
    rintro pre row pandaTaskId post rfl hle pandaTaskId'
    rw [List.append_cons] at hfree
    obtain ⟨id, hnext⟩ := (Consumer.tracks_after pre).deliver hfree.prefix hle
    rw [Consumer.after_concat, hnext]
    exact step_redelivered row id pandaTaskId'

/-- A row of the card, under the number of an event. -/
def sampleRow (status : TaskStatus) (sourceEventId : ℕ) : ProjectionRow where
  taskId := sampleCard.taskId
  correlationId := sampleCard.correlationId
  title := sampleCard.title
  project := sampleCard.project
  status := status
  card := sampleCard
  ownerInstance := none
  attemptCount := 0
  approvalRequired := []
  nextAttemptAt := none
  lastFailureClass := none
  sourceEventId := sourceEventId

/-- A rendering that is right about the displays of `sampleSteps`. -/
def stepsRendering : Rendering where
  sha256 text :=
    if Text.contains text "Manually changed" then
      "8d77d85d0be0f195c5614732450d01203c22bb876bd13675ad3b3240fa384747"
    else if Text.contains text "Completed in Harness" then
      "a55a720284afc1d0c32525494f1669084b34a9888767a6d845f672548e5a53ff"
    else "e2fee21d960d04e8d670d927acbb2120644668eaad85b9b92ccec6e264d1a7df"
  isoformat _ := "1970-01-01T00:00:00+00:00"

/-- The completed task is delivered before the ready one, and somebody edits the
target. -/
def sampleSteps : List ConsumerStep :=
  [.deliver (sampleRow .done 5) "t-1", .deliver (sampleRow .ready 1) "t-2",
    .edit ⟨"Manually changed", .completed, "Completed in Harness"⟩,
    .deliver (sampleRow .done 5) "t-3"]

theorem projection_converges_sample : Converges stepsRendering sampleSteps := by
  refine projection_converges fun a ha b hb => ?_
  revert a b
  decide +kernel

end ControlHarness

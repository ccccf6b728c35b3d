import ControlHarness.Feed
import ControlHarness.Planner

/-!
PandaOS as a mirror of the harness.

The feed and the planner together: transactions of the store begin, insert their
events, wait for each other at a circuit, commit or roll back in any interleaving; the
consumer asks for the tasks past its cursor, or for all of them, and carries out what the
planner chooses for each item of the answer; it may fail in the middle of a batch, and then
keeps its cursor and asks again; and somebody edits what PandaOS shows. An edit changes a
target that is there: nobody removes one, as the planner does not create a target again that
has a checkpoint.

* `mirror`: the machine. `Mirror.apply` is a batch that is carried out, `Mirror.crash`
  one that is carried out in part.
* `Mirror.NotAhead`: the invariant of all runs, no target is ahead of its task.
* `full_snapshot_repairs`: whatever happened before, after a full snapshot every target
  shows the task as it is.
* `mirror_follows`: while the batches are asked for when the feed is settled, the
  incremental ones do the same, but for what was edited by hand.
-/

namespace ControlHarness

/-- The store with the transactions in flight and the cursor of the consumer, and the
targets of the consumer by their keys. -/
structure Mirror where
  feed : Feed
  targets : String → Consumer

/-- What can happen: a step of a transaction; a batch is carried out, `ids` being the
identifiers of the targets that it creates, or only its first items are; somebody edits a
target. -/
inductive MirrorStep where
  | start (call : Call)
  | draw (i : ℕ)
  | pass (i : ℕ)
  | commit (i : ℕ)
  | rollback (i : ℕ)
  | skip
  | apply (full : Bool) (ids : String → String)
  | crash (full : Bool) (applied : ℕ) (ids : String → String)
  | edit (t : UUID) (content : ObservedPandaTask)

namespace Mirror

/-- An empty store and a consumer without targets. -/
def init : Mirror := ⟨Feed.init, fun _ => {}⟩

/-- The answer to the consumer. -/
def answer (R : Rendering) (m : Mirror) (full : Bool) :
    Except ProjectionCursorError PandaProjectionBatch :=
  pandaosProjectionSnapshot R m.feed.db.tables m.feed.cursor full

/-- The items of the answer. -/
def items (R : Rendering) (m : Mirror) (full : Bool) : List PandaTaskProjection :=
  match m.answer R full with
  | .ok batch => batch.tasks
  | .error _ => []

/-- The consumer carries out what the planner chooses for an item. -/
def take (R : Rendering) (ids : String → String) (targets : String → Consumer)
    (p : PandaTaskProjection) : String → Consumer := fun key =>
  if key = p.projectionKey then
    (targets key).apply (planProjection R p (targets key).checkpoint (targets key).target) (ids key)
  else targets key

/-- A target shows something else. -/
def edited (targets : String → Consumer) (t : UUID) (content : ObservedPandaTask) :
    String → Consumer := fun key =>
  if key = projectionKey t then
    { targets key with target := (targets key).target.map fun _ => content }
  else targets key

/-- A batch is carried out, and its cutoff is the new cursor. -/
def apply (R : Rendering) (m : Mirror) (full : Bool) (ids : String → String) : Mirror where
  feed := m.feed.deliver (m.answer R full)
  targets := (m.items R full).foldl (take R ids) m.targets

/-- The first items of a batch are carried out, and the cursor stays. -/
def crash (R : Rendering) (m : Mirror) (full : Bool) (applied : ℕ) (ids : String → String) :
    Mirror :=
  { m with targets := ((m.items R full).take applied).foldl (take R ids) m.targets }

end Mirror

/-- The mirror; a step answers with the contents that it would have targets show. -/
def mirror (R : Rendering) : Machine Mirror MirrorStep (List ObservedPandaTask) where
  step
    | .start call, m => ([], { m with feed := m.feed.start call })
    | .draw i, m => ([], { m with feed := m.feed.draw i })
    | .pass i, m => ([], { m with feed := m.feed.pass i })
    | .commit i, m => ([], { m with feed := m.feed.commit i })
    | .rollback i, m => ([], { m with feed := m.feed.rollback i })
    | .skip, m => ([], { m with feed := m.feed.skip })
    | .apply full ids, m => ((m.items R full).map (·.shown), m.apply R full ids)
    | .crash full applied ids, m => ((m.items R full).map (·.shown), m.crash R full applied ids)
    | .edit t content, m => ([content], { m with targets := Mirror.edited m.targets t content })

/-- The contents of a run. -/
def Mirror.contents (R : Rendering) (steps : List MirrorStep) : List ObservedPandaTask :=
  ((mirror R).occs Mirror.init steps).flatMap (·.output)

/-- The fingerprints tell the contents apart. -/
def TellsApart (R : Rendering) (contents : List ObservedPandaTask) : Prop :=
  ∀ a ∈ contents, ∀ b ∈ contents, a.fingerprint R = b.fingerprint R → a = b

/-! ### One target -/

section

variable {R : Rendering} {ids : String → String} {targets : String → Consumer} {c : Consumer}
  {cur : PandaTaskProjection}

/-- The consumer has the checkpoint of the projection and the target shows it. -/
def Consumer.Showing (cur : PandaTaskProjection) (c : Consumer) : Prop :=
  ∃ id, c = ⟨some (cur.checkpoint id), some cur.shown⟩

/-- The consumer has nothing, or a checkpoint that is not newer than the projection and a
target that the planner can tell from it. -/
def Consumer.Behind (R : Rendering) (cur : PandaTaskProjection) (c : Consumer) : Prop :=
  c = {} ∨ ∃ p id o, c = ⟨some (PandaTaskProjection.checkpoint p id), some o⟩ ∧
    p.sourceEventId ≤ cur.sourceEventId ∧ (o.fingerprint R = cur.fingerprint → o = cur.shown)

lemma Consumer.Showing.behind (h : c.Showing cur) : c.Behind R cur := by
  obtain ⟨id, rfl⟩ := h
  exact Or.inr ⟨cur, id, cur.shown, rfl, le_rfl, fun _ => rfl⟩

/-- **An item that is not older** is shown after it is carried out. -/
lemma Consumer.Behind.showing (h : c.Behind R cur) (hcur : ∃ row, cur = projectTask R row)
    (id : String) :
    (c.apply (planProjection R cur c.checkpoint c.target) id).Showing cur := by
  obtain ⟨row, rfl⟩ := hcur
  rcases h with rfl | ⟨p, id', o, rfl, hle, hfree⟩
  · exact ⟨id, next_deliver_first row id⟩
  · rcases @next_deliver R p o id' row id with
      ⟨hlt, -⟩ | ⟨-, hcheckpoint, htarget⟩
    · exact absurd hle (Nat.not_le_of_lt hlt)
    · refine ⟨id', ?_⟩
      have hshown : ((consumer R).next (.deliver row id) ⟨some (p.checkpoint id'), some o⟩).target
          = some (projectTask R row).shown := by
        rcases htarget with htarget | ⟨htarget, hfingerprint⟩
        · exact htarget
        · rw [htarget, hfree hfingerprint]
      exact congrArg₂ Consumer.mk hcheckpoint hshown

lemma take_other {p : PandaTaskProjection} {key : String} (h : key ≠ p.projectionKey) :
    Mirror.take R ids targets p key = targets key := if_neg h

/-- Items of other tasks leave a target alone. -/
lemma foldl_take_other {ps : List PandaTaskProjection} {key : String}
    (h : ∀ p ∈ ps, p.projectionKey ≠ key) :
    ps.foldl (Mirror.take R ids) targets key = targets key := by
  induction ps generalizing targets with
  | nil => rfl
  | cons p ps ih =>
      rw [List.foldl_cons, ih fun q hq => h q (List.mem_cons_of_mem _ hq)]
      exact take_other (h p List.mem_cons_self).symm

/-- Items that have the target's key only as its current projection leave the target
alone or have it show the projection, and do so where it is among them. -/
lemma foldl_take {ps : List PandaTaskProjection} (hcur : ∃ row, cur = projectTask R row)
    (h : ∀ p ∈ ps, p.projectionKey = cur.projectionKey → p = cur)
    (hbehind : (targets cur.projectionKey).Behind R cur) :
    (ps.foldl (Mirror.take R ids) targets cur.projectionKey = targets cur.projectionKey ∨
        (ps.foldl (Mirror.take R ids) targets cur.projectionKey).Showing cur) ∧
      (cur ∈ ps → (ps.foldl (Mirror.take R ids) targets cur.projectionKey).Showing cur) := by
  induction ps generalizing targets with
  | nil => exact ⟨Or.inl rfl, fun hmem => absurd hmem List.not_mem_nil⟩
  | cons p ps ih =>
      have hrest : ∀ q ∈ ps, q.projectionKey = cur.projectionKey → q = cur :=
        fun q hq => h q (List.mem_cons_of_mem _ hq)
      rw [List.foldl_cons]
      by_cases hp : p.projectionKey = cur.projectionKey
      · obtain rfl := h p List.mem_cons_self hp
        have hshown : (Mirror.take R ids targets p p.projectionKey).Showing p := by
          rw [Mirror.take, if_pos rfl]
          exact hbehind.showing hcur _
        have hlater := (ih hrest hshown.behind).1
        have hshown' : (ps.foldl (Mirror.take R ids) (Mirror.take R ids targets p)
            p.projectionKey).Showing p := by
          rcases hlater with hsame | hlater
          · rw [hsame]
            exact hshown
          · exact hlater
        exact ⟨Or.inr hshown', fun _ => hshown'⟩
      · have hsame : Mirror.take R ids targets p cur.projectionKey = targets cur.projectionKey :=
          take_other (Ne.symm hp)
        have hlater := @ih (Mirror.take R ids targets p) hrest
          (by rw [hsame]; exact hbehind)
        rw [hsame] at hlater
        refine ⟨hlater.1, fun hmem => hlater.2 ?_⟩
        rcases List.mem_cons.mp hmem with rfl | hmem
        · exact absurd rfl hp
        · exact hmem

end

/-! ### No target is ahead of its task -/

section

variable {R : Rendering} {m : Mirror} {seen : List ObservedPandaTask} {t : UUID} {full : Bool}
  {cur : PandaTaskProjection}

lemma projection_row {s : Tables} (h : s.projection R t = some cur) :
    ∃ row, cur = projectTask R row := by
  obtain ⟨task, v, -, -, rfl⟩ := Tables.projection_eq_some.mp h
  exact ⟨projectionRow task v, rfl⟩

/-- The items of an answer are projections of tasks. -/
lemma mem_items {p : PandaTaskProjection} (h : p ∈ m.items R full) :
    ∃ t, m.feed.db.tables.projection R t = some p := by
  rw [Mirror.items] at h
  cases hanswer : m.answer R full with
  | error => rw [hanswer] at h; exact absurd h List.not_mem_nil
  | ok batch =>
      rw [hanswer] at h
      obtain ⟨t, ht, -⟩ := (mem_tasks hanswer).mp h
      exact ⟨t, ht⟩

/-- The item of a task is its projection. -/
lemma item_eq {p : PandaTaskProjection} (hp : p ∈ m.items R full)
    (hkey : p.projectionKey = projectionKey t) : m.feed.db.tables.projection R t = some p := by
  obtain ⟨t', ht'⟩ := mem_items hp
  obtain rfl : t' = t := projectionKey_injective ((Tables.projection_key ht').symm.trans hkey)
  exact ht'

/-- The target of a task has nothing, or a checkpoint that is not ahead of the task, and
shows one of the contents. -/
def Mirror.NotAhead (R : Rendering) (seen : List ObservedPandaTask) (m : Mirror) (t : UUID) :
    Prop :=
  m.targets (projectionKey t) = {} ∨ ∃ p id o cur,
    m.targets (projectionKey t) = ⟨some (PandaTaskProjection.checkpoint p id), some o⟩ ∧
      o ∈ seen ∧ m.feed.db.tables.projection R t = some cur ∧ p.sourceEventId ≤ cur.sourceEventId

lemma Mirror.NotAhead.behind {contents : List ObservedPandaTask} (h : m.NotAhead R seen t)
    (hfree : TellsApart R contents) (hseen : ∀ o ∈ seen, o ∈ contents)
    (hcur : m.feed.db.tables.projection R t = some cur) (hmem : cur.shown ∈ contents) :
    (m.targets (projectionKey t)).Behind R cur := by
  rcases h with hnone | ⟨p, id, o, cur', hstate, ho, hcur', hle⟩
  · exact Or.inl hnone
  · obtain rfl : cur' = cur := Option.some.inj (hcur'.symm.trans hcur)
    refine Or.inr ⟨p, id, o, hstate, hle, fun hfingerprint => ?_⟩
    obtain ⟨row, rfl⟩ := projection_row hcur
    exact hfree o (hseen o ho) _ hmem (hfingerprint.trans (fingerprint_shown row).symm)

/-- **What items do to the target of a task**: nothing, or it shows the task as it is;
the latter where the task is among the items. -/
lemma Mirror.NotAhead.taken {ps : List PandaTaskProjection} (h : m.NotAhead R seen t)
    (ids : String → String) (hfree : TellsApart R (seen ++ (m.items R full).map (·.shown)))
    (hps : ∀ p ∈ ps, p ∈ m.items R full) :
    (ps.foldl (Mirror.take R ids) m.targets (projectionKey t) = m.targets (projectionKey t) ∨
        ∃ cur ∈ ps, m.feed.db.tables.projection R t = some cur ∧
          (ps.foldl (Mirror.take R ids) m.targets (projectionKey t)).Showing cur) ∧
      ∀ cur ∈ ps, m.feed.db.tables.projection R t = some cur →
        (ps.foldl (Mirror.take R ids) m.targets (projectionKey t)).Showing cur := by
  have hshow : ∀ cur ∈ ps, m.feed.db.tables.projection R t = some cur →
      (ps.foldl (Mirror.take R ids) m.targets (projectionKey t)).Showing cur := by
    intro cur hmem hcur
    have hkey : cur.projectionKey = projectionKey t := Tables.projection_key hcur
    have hshown : cur.shown ∈ seen ++ (m.items R full).map (·.shown) :=
      List.mem_append_right _ (List.mem_map_of_mem (hps cur hmem))
    have hbehind := h.behind hfree (fun o ho => List.mem_append_left _ ho) hcur hshown
    rw [← hkey] at hbehind ⊢
    refine (foldl_take (projection_row hcur) (fun p hp hpk => ?_) hbehind).2 hmem
    exact Option.some.inj ((item_eq (hps p hp) (hpk.trans hkey)).symm.trans hcur)
  refine ⟨?_, hshow⟩
  by_cases hmem : ∃ p ∈ ps, p.projectionKey = projectionKey t
  · obtain ⟨p, hp, hkey⟩ := hmem
    exact Or.inr ⟨p, hp, item_eq (hps p hp) hkey, hshow p hp (item_eq (hps p hp) hkey)⟩
  · exact Or.inl (foldl_take_other fun p hp hkey => hmem ⟨p, hp, hkey⟩)

/-- A target that is not ahead while the contents grow and the task goes on. -/
lemma Mirror.NotAhead.mono {m' : Mirror} {seen' : List ObservedPandaTask}
    (h : m.NotAhead R seen t) (htargets : m'.targets = m.targets) (hseen : ∀ o ∈ seen, o ∈ seen')
    (hgrows : ∀ cur, m.feed.db.tables.projection R t = some cur →
      ∃ cur', m'.feed.db.tables.projection R t = some cur' ∧
        cur.sourceEventId ≤ cur'.sourceEventId) : m'.NotAhead R seen' t := by
  rcases h with hnone | ⟨p, id, o, cur, hstate, ho, hcur, hle⟩
  · exact Or.inl (htargets ▸ hnone)
  · obtain ⟨cur', hcur', hle'⟩ := hgrows cur hcur
    exact Or.inr ⟨p, id, o, cur', htargets ▸ hstate, hseen o ho, hcur', hle.trans hle'⟩

lemma Mirror.NotAhead.kept {m' : Mirror} (h : m.NotAhead R seen t)
    (htargets : m'.targets = m.targets) (htables : m'.feed.db.tables = m.feed.db.tables) :
    m'.NotAhead R seen t :=
  h.mono htargets (fun _ ho => ho) fun cur hcur => ⟨cur, by rw [htables]; exact hcur, le_rfl⟩

/-- A commit takes no task back. -/
lemma projection_commit_le (f : Flight) {s : Tables} (h : s.projection R t = some cur) :
    ∃ cur', (f.commit s).projection R t = some cur' ∧
      cur.sourceEventId ≤ cur'.sourceEventId := by
  obtain ⟨task, v, htask, hv, rfl⟩ := Tables.projection_eq_some.mp h
  obtain ⟨⟨e, he, rfl, rfl⟩, -⟩ := sourceEventId_eq_some.mp hv
  have hmem : e ∈ (f.commit s).agentEvents := List.mem_append_left _ he
  obtain ⟨v', hv', hle⟩ := exists_sourceEventId hmem
  obtain ⟨task', htask'⟩ : ∃ task', (f.commit s).agentTasks.get? e.taskId = some task' := by
    have hget : (f.commit s).agentTasks.get? e.taskId
        = (f.tasks.get? e.taskId).or (s.agentTasks.get? e.taskId) := Table.get?_overlay _ _ _
    rw [hget, htask]
    cases f.tasks.get? e.taskId with
    | none => exact ⟨task, rfl⟩
    | some row => exact ⟨row, rfl⟩
  exact ⟨_, Tables.projection_eq_some.mpr ⟨task', v', htask', hv', rfl⟩, hle⟩

lemma deliver_db (σ : Feed) (r : Except ProjectionCursorError PandaProjectionBatch) :
    (σ.deliver r).db = σ.db := by
  cases r <;> rfl

/-- Items that are carried out leave no target ahead. -/
lemma Mirror.NotAhead.batch {m' : Mirror} {ids : String → String} {ps : List PandaTaskProjection}
    (h : m.NotAhead R seen t) (hfree : TellsApart R (seen ++ (m.items R full).map (·.shown)))
    (hps : ∀ p ∈ ps, p ∈ m.items R full)
    (htargets : m'.targets = ps.foldl (Mirror.take R ids) m.targets)
    (htables : m'.feed.db.tables = m.feed.db.tables) :
    m'.NotAhead R (seen ++ (m.items R full).map (·.shown)) t := by
  rcases (h.taken ids hfree hps).1 with hsame | ⟨cur, hmem, hcur, id, hstate⟩
  · rw [Mirror.NotAhead, htargets, htables, hsame]
    exact h.mono rfl (fun o ho => List.mem_append_left _ ho) fun cur hcur => ⟨cur, hcur, le_rfl⟩
  · refine Or.inr ⟨cur, id, cur.shown, cur, by rw [htargets]; exact hstate, ?_,
      by rw [htables]; exact hcur, le_rfl⟩
    exact List.mem_append_right _ (List.mem_map_of_mem (hps cur hmem))

/-- **No step puts a target ahead of its task.** -/
theorem Mirror.NotAhead.next {step : MirrorStep} (h : m.NotAhead R seen t)
    (hfree : TellsApart R (seen ++ (mirror R).out step m)) :
    ((mirror R).next step m).NotAhead R (seen ++ (mirror R).out step m) t := by
  have hkept : ∀ {m' : Mirror}, m'.targets = m.targets →
      m'.feed.db.tables = m.feed.db.tables → m'.NotAhead R (seen ++ []) t := by
    intro m' htargets htables
    rw [List.append_nil]
    exact h.kept htargets htables
  cases step with
  | start call =>
      refine hkept rfl ?_
      rw [show ((mirror R).next (.start call) m).feed = m.feed.start call from rfl, Feed.start]
      dsimp only
      split <;> rfl
  | draw i =>
      refine hkept rfl ?_
      rw [show ((mirror R).next (.draw i) m).feed = m.feed.draw i from rfl, Feed.draw]
      split
      · rfl
      · split <;> rfl
  | pass i =>
      refine hkept rfl ?_
      rw [show ((mirror R).next (.pass i) m).feed = m.feed.pass i from rfl, Feed.pass]
      split
      · rfl
      · dsimp only
        split <;> rfl
  | commit i =>
      refine h.mono rfl (fun o ho => List.mem_append_left _ ho) fun cur hcur => ?_
      rw [show ((mirror R).next (.commit i) m).feed = m.feed.commit i from rfl, Feed.commit]
      split
      · exact ⟨cur, hcur, le_rfl⟩
      · split
        · exact projection_commit_le _ hcur
        · exact ⟨cur, hcur, le_rfl⟩
  | rollback i | skip => exact hkept rfl rfl
  | apply full ids =>
      exact h.batch hfree (fun p hp => hp) rfl (congrArg Database.tables (deliver_db _ _))
  | crash full applied ids =>
      exact h.batch hfree (fun p hp => List.mem_of_mem_take hp) rfl rfl
  | edit t' content =>
      have hcontent : content ∈ seen ++ [content] := List.mem_append_right _ List.mem_cons_self
      have htarget : ((mirror R).next (.edit t' content) m).targets
          = Mirror.edited m.targets t' content := rfl
      rcases h with hnone | ⟨p, id, o, cur, hstate, ho, hcur, hle⟩
      · refine Or.inl ?_
        rw [htarget, Mirror.edited, hnone]
        split <;> rfl
      · by_cases ht : projectionKey t = projectionKey t'
        · refine Or.inr ⟨p, id, content, cur, ?_, hcontent, hcur, hle⟩
          rw [htarget, Mirror.edited, if_pos ht, hstate]
          rfl
        · refine Or.inr ⟨p, id, o, cur, ?_, List.mem_append_left _ ho, hcur, hle⟩
          rw [htarget, Mirror.edited, if_neg ht, hstate]

lemma Mirror.contents_concat (steps : List MirrorStep) (step : MirrorStep) :
    Mirror.contents R (steps ++ [step]) = Mirror.contents R steps
      ++ (mirror R).out step ((mirror R).exec Mirror.init steps) := by
  rw [contents, contents, Machine.occs_concat, List.flatMap_append, List.flatMap_singleton]
  rfl

lemma TellsApart.prefix {contents more : List ObservedPandaTask}
    (h : TellsApart R (contents ++ more)) : TellsApart R contents := fun a ha b hb =>
  h a (List.mem_append_left _ ha) b (List.mem_append_left _ hb)

/-- Along every run no target is ahead of its task. -/
lemma Mirror.notAhead_exec {steps : List MirrorStep}
    (hfree : TellsApart R (Mirror.contents R steps)) (t : UUID) :
    ((mirror R).exec Mirror.init steps).NotAhead R (Mirror.contents R steps) t := by
  induction steps using List.reverseRecOn with
  | nil => exact Or.inl rfl
  | append_singleton steps step ih =>
      rw [Mirror.contents_concat] at hfree ⊢
      rw [Machine.exec_concat]
      exact (ih hfree.prefix).next hfree

end

/-! ### A full snapshot -/

/-- PandaOS shows every task as it is, and nothing else. -/
def Mirror.Mirrors (R : Rendering) (m : Mirror) (t : UUID) : Prop :=
  match m.feed.db.tables.projection R t with
  | none => m.targets (projectionKey t) = {}
  | some cur => (m.targets (projectionKey t)).Showing cur

section

variable {R : Rendering} {m : Mirror} {seen : List ObservedPandaTask} {t : UUID} {full : Bool}
  {ids : String → String}

/-- A task without a projection has no target. -/
lemma Mirror.NotAhead.absent (h : m.NotAhead R seen t)
    (hnone : m.feed.db.tables.projection R t = none) : m.targets (projectionKey t) = {} := by
  rcases h with h | ⟨-, -, -, cur, -, -, hcur, -⟩
  · exact h
  · exact absurd (hcur.symm.trans hnone) (by simp)

/-- The target of a task without a projection is left alone by a batch. -/
lemma Mirror.NotAhead.apply_none (h : m.NotAhead R seen t)
    (hfree : TellsApart R (seen ++ (m.items R full).map (·.shown)))
    (hnone : m.feed.db.tables.projection R t = none) :
    (m.apply R full ids).targets (projectionKey t) = {} := by
  rcases (h.taken ids hfree fun p hp => hp).1 with hsame | ⟨cur, -, hcur, -⟩
  · exact hsame.trans (h.absent hnone)
  · exact absurd (hcur.symm.trans hnone) (by simp)

/-- An answer has the current projection of a task past its cursor, a full one of every
task. -/
lemma mem_items_of (hle : m.feed.cursor ≤ m.feed.db.tables.throughEventId ∨ full = true)
    {cur : PandaTaskProjection} (hcur : m.feed.db.tables.projection R t = some cur)
    (hpast : full = true ∨ m.feed.cursor < cur.sourceEventId) : cur ∈ m.items R full := by
  obtain ⟨batch, hbatch⟩ := snapshot_returns R m.feed.db.tables hle.symm
  have hanswer : m.answer R full = .ok batch := hbatch
  rw [Mirror.items, hanswer]
  exact (mem_tasks hbatch).mpr ⟨t, hcur, hpast⟩

end

/-- **A full snapshot repairs**: in every run of transactions, polls, failed batches and
edits by hand whose contents have different fingerprints, whatever updates were lost
before and whatever was edited, after a full snapshot is carried out PandaOS shows every
task as it is, and nothing else. -/
theorem full_snapshot_repairs (R : Rendering) (steps : List MirrorStep) (ids : String → String)
    (hfree : TellsApart R (Mirror.contents R (steps ++ [.apply true ids]))) (t : UUID) :
    ((mirror R).exec Mirror.init (steps ++ [.apply true ids])).Mirrors R t := by
  rw [Mirror.contents_concat] at hfree
  have hna := Mirror.notAhead_exec hfree.prefix t
  rw [Machine.exec_concat]
  generalize Mirror.contents R steps = seen at hfree hna
  generalize (mirror R).exec Mirror.init steps = m at hfree hna ⊢
  have hnext : (mirror R).next (.apply true ids) m = m.apply R true ids := rfl
  have htables : (m.apply R true ids).feed.db.tables = m.feed.db.tables :=
    congrArg Database.tables (deliver_db _ _)
  rw [hnext, Mirror.Mirrors, htables]
  cases hcur : m.feed.db.tables.projection R t with
  | none => exact hna.apply_none hfree hcur
  | some cur =>
      have hmem : cur ∈ m.items R true := mem_items_of (Or.inr rfl) hcur (Or.inl rfl)
      exact (hna.taken ids hfree fun p hp => hp).2 cur hmem hcur

/-! ### Incremental batches -/

section

variable {R : Rendering} {m : Mirror} {seen : List ObservedPandaTask} {t : UUID} {full : Bool}
  {ids : String → String} {steps : List MirrorStep}

/-- A batch is carried out where the feed is settled. -/
def Mirror.BatchesSettled (m : Mirror) (step : MirrorStep) : Prop :=
  ∀ full ids, step = .apply full ids → m.feed.Settled

/-- The target shows the projection, or what somebody made of it. -/
def MirrorStep.Left (steps : List MirrorStep) (t : UUID) (p : PandaTaskProjection)
    (c : Consumer) : Prop :=
  ∃ id o, c = ⟨some (p.checkpoint id), some o⟩ ∧ (o = p.shown ∨ .edit t o ∈ steps)

/-- What the consumer received of a task is what its target was left with; items of
failed batches, which were carried out and not received, are past the cursor. -/
def Mirror.Level (steps : List MirrorStep) (m : Mirror) (t : UUID) : Prop :=
  m.feed.received (projectionKey t) = none ∧ m.targets (projectionKey t) = {} ∨
    ∃ p, MirrorStep.Left steps t p (m.targets (projectionKey t)) ∧
      (m.feed.received (projectionKey t) = some p ∨ m.feed.cursor < p.sourceEventId)

lemma Consumer.Showing.left {p : PandaTaskProjection} {c : Consumer} (h : c.Showing p) :
    MirrorStep.Left steps t p c := by
  obtain ⟨id, rfl⟩ := h
  exact ⟨id, p.shown, rfl, Or.inl rfl⟩

lemma MirrorStep.Left.mono {p : PandaTaskProjection} {c : Consumer}
    (h : MirrorStep.Left steps t p c) (step : MirrorStep) :
    MirrorStep.Left (steps ++ [step]) t p c := by
  obtain ⟨id, o, rfl, ho⟩ := h
  exact ⟨id, o, rfl, ho.imp_right fun hmem => List.mem_append_left _ hmem⟩

/-- A batch that is carried out, incremental or full, leaves the consumer with what a
poll would have left it. -/
lemma received_apply (h : m.feed.Tracked R) (full : Bool) (ids : String → String) :
    (m.apply R full ids).feed.cursor = m.feed.db.tables.throughEventId ∧
      ∀ t, (m.apply R full ids).feed.received (projectionKey t)
        = m.feed.db.tables.projection R t := by
  cases full with
  | false => exact h.received_poll
  | true =>
      obtain ⟨batch, hbatch⟩ := snapshot_returns R m.feed.db.tables
        (Or.inl rfl : true = true ∨ m.feed.cursor ≤ m.feed.db.tables.throughEventId)
      have hfeed : (m.apply R true ids).feed = m.feed.deliver (.ok batch) :=
        congrArg m.feed.deliver hbatch
      rw [hfeed, Feed.deliver]
      refine ⟨(snapshot_eq_ok hbatch).1, fun t => ?_⟩
      dsimp only
      rw [foldl_receive (tasks_unique hbatch), find?_tasks hbatch]
      cases hcur : m.feed.db.tables.projection R t with
      | some cur => rfl
      | none =>
          rcases h.upToDate t with hsame | ⟨p, hp, -⟩
          · rw [hsame, hcur]
            rfl
          · exact absurd (hp.symm.trans hcur) (by simp)

/-- The invariant of the feed speaks of the database, the cursor, the transactions and
what was received under the keys of tasks. -/
lemma Feed.Tracked.congr {σ σ' : Feed} (h : σ.Tracked R) (hdb : σ'.db = σ.db)
    (hflights : σ'.flights = σ.flights) (hcursor : σ'.cursor = σ.cursor)
    (hreceived : ∀ t, σ'.received (projectionKey t) = σ.received (projectionKey t)) :
    σ'.Tracked R := by
  obtain ⟨db, flights, cursor, received⟩ := σ
  obtain ⟨db', flights', cursor', received'⟩ := σ'
  obtain rfl : db' = db := hdb
  obtain rfl : flights' = flights := hflights
  obtain rfl : cursor' = cursor := hcursor
  refine ⟨h.numbered, h.cursor_le, fun t => ?_, fun f hf => ?_, h.waits, h.locks⟩
  · rw [Feed.UpToDate, hreceived t]
    exact h.upToDate t
  · exact ⟨(h.lands f hf).numbered, (h.lands f hf).later, (h.lands f hf).home,
      (h.lands f hf).silent⟩

/-- The feed of the mirror keeps its invariant. -/
lemma tracked_next {step : MirrorStep} (h : m.feed.Tracked R) (hsettled : m.BatchesSettled step) :
    ((mirror R).next step m).feed.Tracked R := by
  cases step with
  | start call => exact h.start call
  | draw i => exact h.draw i
  | pass i => exact h.pass i
  | commit i => exact h.commit i
  | rollback i => exact h.rollback i
  | skip => exact h.skip
  | crash full applied ids | edit t content => exact h
  | apply full ids =>
      obtain ⟨hcursor, hreceived⟩ := h.received_poll
      obtain ⟨hcursor', hreceived'⟩ := received_apply h full ids
      refine (h.poll (hsettled full ids rfl)).congr ?_ ?_ (hcursor'.trans hcursor.symm) fun t =>
        (hreceived' t).trans (hreceived t).symm
      · exact (deliver_db _ _).trans (deliver_db _ _).symm
      · have hflights : ∀ r, (m.feed.deliver r).flights = m.feed.flights := by
          intro r
          cases r <;> rfl
        exact (hflights _).trans (hflights _).symm

/-- PandaOS shows every task as it is or as somebody edited it, and nothing else. -/
def Mirror.Follows (R : Rendering) (steps : List MirrorStep) (m : Mirror) (t : UUID) : Prop :=
  match m.feed.db.tables.projection R t with
  | none => m.targets (projectionKey t) = {}
  | some cur => MirrorStep.Left steps t cur (m.targets (projectionKey t))

/-- **A batch brings the target of a task up to date**: it lists the task, or the task
has not moved since the consumer received it. -/
lemma Mirror.Level.follows (h : m.Level steps t) (hna : m.NotAhead R seen t)
    (htracked : m.feed.Tracked R) (ids : String → String)
    (hfree : TellsApart R (seen ++ (m.items R full).map (·.shown))) :
    (m.apply R full ids).Follows R steps t := by
  have htables : (m.apply R full ids).feed.db.tables = m.feed.db.tables :=
    congrArg Database.tables (deliver_db _ _)
  rw [Mirror.Follows, htables]
  cases hcur : m.feed.db.tables.projection R t with
  | none => exact hna.apply_none hfree hcur
  | some cur =>
      by_cases hmem : cur ∈ m.items R full
      · exact ((hna.taken ids hfree fun p hp => hp).2 cur hmem hcur).left
      · have hold : cur.sourceEventId ≤ m.feed.cursor := by
          by_contra hlt
          exact hmem (mem_items_of (Or.inl htracked.cursor_le) hcur (Or.inr (not_le.mp hlt)))
        have hreceived : m.feed.received (projectionKey t) = some cur := by
          rcases htracked.upToDate t with hsame | ⟨p, hp, hlt⟩
          · exact hsame.trans hcur
          · obtain rfl := Option.some.inj (hp.symm.trans hcur)
            exact absurd hold (Nat.not_le_of_lt hlt)
        rcases h with ⟨hnone, -⟩ | ⟨p, hleft, hp⟩
        · exact absurd (hnone.symm.trans hreceived) (by simp)
        · have hpcur : p = cur := by
            rcases hp with hp | hlt
            · exact Option.some.inj (hp.symm.trans hreceived)
            · -- the target would be ahead of its task
              obtain ⟨id, o, hstate, -⟩ := hleft
              rcases hna with hnone | ⟨q, id', o', cur', hstate', -, hcur', hle⟩
              · exact absurd (hnone.symm.trans hstate) (by simp)
              · have hsource : p.sourceEventId = q.sourceEventId := by
                  have hcheckpoint := congrArg Consumer.checkpoint (hstate.symm.trans hstate')
                  exact congrArg ProjectionCheckpoint.sourceEventId (Option.some.inj hcheckpoint)
                obtain rfl := Option.some.inj (hcur'.symm.trans hcur)
                omega
          subst hpcur
          rcases (hna.taken ids hfree fun q hq => hq).1 with hsame | ⟨q, hq, hcur', -⟩
          · have hkept : (m.apply R full ids).targets (projectionKey t)
                = m.targets (projectionKey t) := hsame
            dsimp only
            rw [hkept]
            exact hleft
          · obtain rfl := Option.some.inj (hcur'.symm.trans hcur)
            exact absurd hq hmem

/-- Steps that leave the consumer alone. -/
lemma Mirror.Level.kept {m' : Mirror} (h : m.Level steps t) (step : MirrorStep)
    (htargets : m'.targets = m.targets) (hreceived : m'.feed.received = m.feed.received)
    (hcursor : m'.feed.cursor = m.feed.cursor) : m'.Level (steps ++ [step]) t := by
  rw [Mirror.Level, htargets, hreceived, hcursor]
  rcases h with hnone | ⟨p, hleft, hp⟩
  · exact Or.inl hnone
  · exact Or.inr ⟨p, hleft.mono step, hp⟩

/-- **Every step keeps the targets level** with what was received. -/
theorem Mirror.Level.next {step : MirrorStep} (h : m.Level steps t) (hna : m.NotAhead R seen t)
    (htracked : m.feed.Tracked R) (hfree : TellsApart R (seen ++ (mirror R).out step m)) :
    ((mirror R).next step m).Level (steps ++ [step]) t := by
  cases step with
  | start call =>
      have hfeed : ((mirror R).next (.start call) m).feed = m.feed.start call := rfl
      refine h.kept _ rfl ?_ ?_ <;> (rw [hfeed, Feed.start]; dsimp only; split <;> rfl)
  | draw i =>
      have hfeed : ((mirror R).next (.draw i) m).feed = m.feed.draw i := rfl
      refine h.kept _ rfl ?_ ?_ <;> (rw [hfeed, Feed.draw]; split <;> [rfl; split <;> rfl])
  | pass i =>
      have hfeed : ((mirror R).next (.pass i) m).feed = m.feed.pass i := rfl
      refine h.kept _ rfl ?_ ?_ <;>
        (rw [hfeed, Feed.pass]; split <;> [rfl; (dsimp only; split <;> rfl)])
  | commit i =>
      have hfeed : ((mirror R).next (.commit i) m).feed = m.feed.commit i := rfl
      refine h.kept _ rfl ?_ ?_ <;> (rw [hfeed, Feed.commit]; split <;> [rfl; split <;> rfl])
  | rollback i | skip => exact h.kept _ rfl rfl rfl
  | edit t' content =>
      have htarget : ((mirror R).next (.edit t' content) m).targets
          = Mirror.edited m.targets t' content := rfl
      have hlast : MirrorStep.edit t' content ∈ steps ++ [.edit t' content] :=
        List.mem_append_right _ List.mem_cons_self
      rw [Mirror.Level, htarget]
      rcases h with ⟨hnone, hempty⟩ | ⟨p, ⟨id, o, hstate, ho⟩, hp⟩
      · refine Or.inl ⟨hnone, ?_⟩
        rw [Mirror.edited, hempty]
        split <;> rfl
      · refine Or.inr ⟨p, ?_, hp⟩
        by_cases ht : projectionKey t = projectionKey t'
        · obtain rfl := projectionKey_injective ht
          refine ⟨id, content, ?_, Or.inr hlast⟩
          rw [Mirror.edited, if_pos rfl, hstate]
          rfl
        · refine ⟨id, o, ?_, ho.imp_right fun hmem => List.mem_append_left _ hmem⟩
          rw [Mirror.edited, if_neg ht, hstate]
  | crash full applied ids =>
      rcases (hna.taken ids hfree fun p (hp : p ∈ (m.items R full).take applied) =>
        List.mem_of_mem_take hp).1 with hsame | ⟨cur, hmem, hcur, hshown⟩
      · rcases h with ⟨hnone, hempty⟩ | ⟨p, hleft, hp⟩
        · exact Or.inl ⟨hnone, hsame.trans hempty⟩
        · have hkept : ((mirror R).next (.crash full applied ids) m).targets (projectionKey t)
              = m.targets (projectionKey t) := hsame
          refine Or.inr ⟨p, ?_, hp⟩
          rw [hkept]
          exact hleft.mono _
      · refine Or.inr ⟨cur, hshown.left, ?_⟩
        rcases htracked.upToDate t with hreceived | ⟨p, hp, hlt⟩
        · exact Or.inl (hreceived.trans hcur)
        · obtain rfl := Option.some.inj (hp.symm.trans hcur)
          exact Or.inr hlt
  | apply full ids =>
      have hfollows := h.follows hna htracked ids hfree
      have hreceived := (received_apply htracked full ids).2 t
      have htables : (m.apply R full ids).feed.db.tables = m.feed.db.tables :=
        congrArg Database.tables (deliver_db _ _)
      rw [Mirror.Follows, htables] at hfollows
      cases hcur : m.feed.db.tables.projection R t with
      | none =>
          rw [hcur] at hfollows hreceived
          exact Or.inl ⟨hreceived, hfollows⟩
      | some cur =>
          rw [hcur] at hfollows hreceived
          exact Or.inr ⟨cur, hfollows.mono _, Or.inl hreceived⟩

/-- Along a run whose batches find the feed settled the feed is tracked and the targets
are level. -/
lemma level_exec {steps : List MirrorStep}
    (hsettled : (mirror R).Along Mirror.BatchesSettled Mirror.init steps)
    (hfree : TellsApart R (Mirror.contents R steps)) (t : UUID) :
    ((mirror R).exec Mirror.init steps).feed.Tracked R ∧
      ((mirror R).exec Mirror.init steps).Level steps t := by
  induction steps using List.reverseRecOn with
  | nil => exact ⟨Feed.Tracked.init R, Or.inl ⟨rfl, rfl⟩⟩
  | append_singleton steps step ih =>
      rw [Machine.along_append] at hsettled
      rw [Mirror.contents_concat] at hfree
      obtain ⟨htracked, hlevel⟩ := ih hsettled.1 hfree.prefix
      rw [Machine.exec_concat]
      exact ⟨tracked_next htracked (Machine.along_cons.mp hsettled.2).1,
        hlevel.next (Mirror.notAhead_exec hfree.prefix t) htracked hfree⟩

end

/-- **PandaOS follows the harness**: in every run of transactions, batches, failed batches
and edits by hand whose batches are carried out on a settled feed and whose contents
have different fingerprints, after a batch PandaOS shows every task as it is, or as
somebody edited it, and nothing else. -/
theorem mirror_follows (R : Rendering) (steps : List MirrorStep) (full : Bool)
    (ids : String → String)
    (hsettled : (mirror R).Along Mirror.BatchesSettled Mirror.init steps)
    (hfree : TellsApart R (Mirror.contents R (steps ++ [.apply full ids]))) (t : UUID) :
    ((mirror R).exec Mirror.init (steps ++ [.apply full ids])).Follows R steps t := by
  rw [Mirror.contents_concat] at hfree
  obtain ⟨htracked, hlevel⟩ := level_exec hsettled hfree.prefix t
  have hna := Mirror.notAhead_exec hfree.prefix t
  rw [Machine.exec_concat]
  exact hlevel.follows hna htracked ids hfree

/-! ### An edited target -/

/-- The identifier of every target. -/
def sampleIds (_ : String) : String := "t-1"

/-- A task is created, its first batch fails after the target was created, the next is
carried out, and somebody edits the target. -/
def driftRun : List MirrorStep :=
  [.start ⟨.createTask sampleCard, 0⟩, .draw 0, .commit 0, .crash false 1 sampleIds,
    .apply false sampleIds,
    .edit sampleCard.taskId ⟨"Manually changed", .completed, "Completed in Harness"⟩]

/-- The edit is repaired by a full snapshot. -/
theorem full_snapshot_repairs_drift :
    ((mirror stepsRendering).exec Mirror.init (driftRun ++ [.apply true sampleIds])).Mirrors
      stepsRendering sampleCard.taskId := by
  refine full_snapshot_repairs stepsRendering driftRun sampleIds (fun a ha b hb => ?_) _
  revert a b
  decide +kernel

/-- An incremental batch leaves the edit, as the task has not moved. -/
theorem mirror_follows_drift :
    ((mirror stepsRendering).exec Mirror.init (driftRun ++ [.apply false sampleIds])).Follows
      stepsRendering driftRun sampleCard.taskId := by
  have hother : ∀ (m : Mirror) step, (∀ full ids, step ≠ .apply full ids) →
      m.BatchesSettled step := fun _ _ hne full ids h => absurd h (hne full ids)
  refine mirror_follows stepsRendering driftRun false sampleIds ?_ (fun a ha b hb => ?_) _
  · refine Machine.along_cons.mpr ⟨hother _ _ (by simp), Machine.along_cons.mpr
      ⟨hother _ _ (by simp), Machine.along_cons.mpr ⟨hother _ _ (by simp),
      Machine.along_cons.mpr ⟨hother _ _ (by simp), Machine.along_cons.mpr
      ⟨fun _ _ _ f hf => absurd hf List.not_mem_nil, Machine.along_cons.mpr
      ⟨hother _ _ (by simp), Machine.along_nil⟩⟩⟩⟩⟩⟩
  · revert a b
    decide +kernel

end ControlHarness

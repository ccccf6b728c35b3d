import ControlHarness.JsonText
import ControlHarness.Planner

/-!
What an unchanged display says (`display_unchanged` and `already_projected` of
`plan_projection`).

The planner compares fingerprints, and a fingerprint covers the subject, the status and
the active form of a target, not whether a person has to act.

* `ObservedPandaTask.text`: the text that is hashed; `text_injective` reads the three
  fields back.
* `mem_actionStates_iff`: in an operational display the need for action shows in the
  status and in the first letter of the active form, whatever worker, actions or time
  are spliced into it.
* `display_unchanged`: equal fingerprints of two rows of a task mean equal displays and
  an equal need for action, and the planner advances or does nothing only then.
-/

namespace ControlHarness

open PrefixCode

/-! ### The text of a display -/

/-- The text that `_target_fingerprint` hashes. -/
def ObservedPandaTask.text (o : ObservedPandaTask) : String :=
  "\x7b\"activeForm\":" ++ jsonString o.activeForm ++ ",\"status\":" ++ jsonString o.status.value ++
    ",\"subject\":" ++ jsonString o.subject ++ "\x7d"

variable {R : Rendering} {a b : ProjectionRow} {observed : Option ObservedPandaTask}

lemma ObservedPandaTask.fingerprint_eq (o : ObservedPandaTask) :
    o.fingerprint R = R.sha256 o.text := rfl

lemma PandaStatus.value_injective : Function.Injective PandaStatus.value := by
  intro s s' h
  cases s <;> cases s' <;> first | rfl | exact absurd h (by decide)

/-- A string after the same text is read. -/
lemma jsonString_inj {s s' pre : String} {r r' : List Char}
    (h : pre.toList ++ ((jsonString s).toList ++ r) =
      pre.toList ++ ((jsonString s').toList ++ r')) :
    s = s' ∧ r = r' :=
  reads_jsonString s trivial trivial (List.append_cancel_left h)

/-- Three strings between fixed texts are read off one after the other. -/
lemma three_jsonStrings_inj {f f' g g' k k' p q r t : String}
    (h : p ++ jsonString f ++ q ++ jsonString g ++ r ++ jsonString k ++ t =
      p ++ jsonString f' ++ q ++ jsonString g' ++ r ++ jsonString k' ++ t) :
    f = f' ∧ g = g' ∧ k = k' := by
  have htext := congrArg String.toList h
  simp only [String.toList_append, List.append_assoc] at htext
  obtain ⟨hf, hrest⟩ := jsonString_inj htext
  obtain ⟨hg, hrest'⟩ := jsonString_inj hrest
  obtain ⟨hk, -⟩ := jsonString_inj hrest'
  exact ⟨hf, hg, hk⟩

lemma ObservedPandaTask.text_injective : Function.Injective ObservedPandaTask.text := by
  intro o o' h
  obtain ⟨hform, hstatus, hsubject⟩ := three_jsonStrings_inj h
  rw [ObservedPandaTask.mk.injEq]
  exact ⟨hsubject, PandaStatus.value_injective hstatus, hform⟩

/-! ### The need for action -/

/-- **The need for action shows**: the states that need it are pending, and the other
pending states have an `R` first. -/
lemma mem_actionStates_iff (row : ProjectionRow) (status : TaskStatus) :
    status ∈ actionStates ↔
      pandaStatus status = .pending ∧
        (activeForm R row status false).toList.head? ≠ some 'R' := by
  cases status <;> simp [actionStates, pandaStatus, activeForm]

lemma actionRequired_eq (row : ProjectionRow) :
    (projectTask R row).actionRequired =
      (!decide (row.card.projectionKind = .evidence) && decide (row.status ∈ actionStates)) := rfl

/-! ### The law -/

/-- Two rows of the same task. -/
structure SameTask (a b : ProjectionRow) : Prop where
  title : a.title = b.title
  project : a.project = b.project
  card : a.card = b.card

/-- SHA-256 tells the texts apart. -/
def NoCollision (R : Rendering) (texts : List String) : Prop :=
  ∀ t ∈ texts, ∀ t' ∈ texts, R.sha256 t = R.sha256 t' → t = t'

/-- Neither the visible text nor the need for action differs. -/
structure Unchanged (p q : PandaTaskProjection) : Prop where
  status : p.status = q.status
  activeForm : p.activeForm = q.activeForm
  actionRequired : p.actionRequired = q.actionRequired

/-- Equal displays of two rows of a task have an equal need for action. -/
lemma unchanged_of_shown (htask : SameTask a b)
    (hshown : (projectTask R a).shown = (projectTask R b).shown) :
    Unchanged (projectTask R a) (projectTask R b) := by
  have hstatus : pandaStatus a.status = pandaStatus b.status :=
    congrArg ObservedPandaTask.status hshown
  have hform : (projectTask R a).activeForm = (projectTask R b).activeForm :=
    congrArg ObservedPandaTask.activeForm hshown
  refine ⟨hstatus, hform, ?_⟩
  rw [actionRequired_eq, actionRequired_eq, htask.card]
  by_cases hproof : b.card.projectionKind = .evidence
  · rw [decide_eq_true hproof]
    rfl
  · -- an operational display
    have hform' : activeForm R a a.status false = activeForm R b b.status false := by
      have hproof' : a.card.projectionKind ≠ .evidence := htask.card ▸ hproof
      have ha : (projectTask R a).activeForm = activeForm R a a.status false := by
        rw [projectTask, decide_eq_false hproof']
      have hb : (projectTask R b).activeForm = activeForm R b b.status false := by
        rw [projectTask, decide_eq_false hproof]
      rw [← ha, ← hb, hform]
    have hneed : a.status ∈ actionStates ↔ b.status ∈ actionStates := by
      rw [mem_actionStates_iff a a.status (R := R), mem_actionStates_iff b b.status (R := R),
        hstatus, hform']
    rw [decide_eq_decide.mpr hneed]

/-- The planner advances or does nothing only under the fingerprint of the checkpoint, and
then the target has it. -/
lemma fingerprint_of_unchanged {q : PandaTaskProjection} {checkpoint : ProjectionCheckpoint}
    (h : (planProjection R q (some checkpoint) observed).action ∈
      [ProjectionAction.advanceCursor, .noop]) :
    q.fingerprint = checkpoint.fingerprint ∧
      ∀ o ∈ observed, o.fingerprint R = checkpoint.fingerprint := by
  rw [planProjection] at h
  split at h
  · exact absurd h (by simp)
  split at h
  · exact absurd h (by simp)
  rename_i hdrift
  have hobserved : ∀ o ∈ observed, o.fingerprint R = checkpoint.fingerprint := by
    rintro o rfl
    by_contra hne
    exact hdrift (decide_eq_true hne)
  split at h
  · split at h
    · rename_i hsame
      exact ⟨hsame, hobserved⟩
    · exact absurd h (by simp)
  · split at h
    · rename_i hsame
      exact ⟨hsame, hobserved⟩
    · exact absurd h (by simp)

/-- **An unchanged display hides nothing.** -/
theorem display_unchanged (htask : SameTask a b)
    (hfree : NoCollision R ((projectTask R a).shown.text :: (projectTask R b).shown.text ::
      observed.toList.map ObservedPandaTask.text)) :
    ((projectTask R a).fingerprint = (projectTask R b).fingerprint →
        Unchanged (projectTask R a) (projectTask R b)) ∧
      ∀ checkpoint : ProjectionCheckpoint,
        checkpoint.fingerprint = (projectTask R a).fingerprint →
        (planProjection R (projectTask R b) (some checkpoint) observed).action ∈
          [ProjectionAction.advanceCursor, .noop] →
        Unchanged (projectTask R a) (projectTask R b) ∧
          ∀ o ∈ observed, o = (projectTask R b).shown := by
  have ha := fingerprint_shown (R := R) a
  have hb := fingerprint_shown (R := R) b
  rw [ObservedPandaTask.fingerprint_eq] at ha hb
  have hsame : (projectTask R a).fingerprint = (projectTask R b).fingerprint →
      Unchanged (projectTask R a) (projectTask R b) := by
    intro heq
    rw [← ha, ← hb] at heq
    have htext := hfree _ List.mem_cons_self _ (by simp) heq
    exact unchanged_of_shown htask (ObservedPandaTask.text_injective htext)
  refine ⟨hsame, fun checkpoint hcheckpoint haction => ?_⟩
  obtain ⟨hfingerprint, hobserved⟩ := fingerprint_of_unchanged haction
  refine ⟨hsame (hcheckpoint.symm.trans hfingerprint.symm), fun o ho => ?_⟩
  have heq : R.sha256 o.text = R.sha256 (projectTask R b).shown.text := by
    rw [hb, hfingerprint, ← hobserved o ho, ObservedPandaTask.fingerprint_eq]
  have hmem : o.text ∈ observed.toList.map ObservedPandaTask.text :=
    List.mem_map_of_mem (Option.mem_toList.mpr ho)
  have htext := hfree _ (List.mem_cons_of_mem _ (List.mem_cons_of_mem _ hmem)) _ (by simp) heq
  exact ObservedPandaTask.text_injective htext

/-- A rendering that is right about the display of the sample task while it runs. -/
def runningRendering : Rendering where
  sha256 _ := "9159bff44e31616127451f6eb983d65557b81aaedd3507251c342a86f969f0cb"
  isoformat _ := "1970-01-01T00:00:00+00:00"

/-- A claimed task that goes in progress keeps its display: the planner advances. -/
theorem display_unchanged_running :
    let claimed := projectTask runningRendering (sampleRow .claimed 5)
    let inProgress := projectTask runningRendering (sampleRow .inProgress 6)
    (planProjection runningRendering inProgress (some (claimed.checkpoint "t-1"))
        (some claimed.shown)).action = .advanceCursor ∧
      Unchanged claimed inProgress ∧ ∀ o ∈ some claimed.shown, o = inProgress.shown := by
  intro claimed inProgress
  have htask : SameTask (sampleRow .claimed 5) (sampleRow .inProgress 6) := ⟨rfl, rfl, rfl⟩
  have haction : (planProjection runningRendering inProgress (some (claimed.checkpoint "t-1"))
      (some claimed.shown)).action = .advanceCursor := by decide +kernel
  have hfree : NoCollision runningRendering
      [claimed.shown.text, inProgress.shown.text, claimed.shown.text] := by
    rw [NoCollision]
    decide +kernel
  have hmem : (planProjection runningRendering inProgress (some (claimed.checkpoint "t-1"))
      (some claimed.shown)).action ∈ [ProjectionAction.advanceCursor, .noop] := by
    rw [haction]
    exact List.mem_cons_self
  exact ⟨haction, (display_unchanged htask hfree).2 _ rfl hmem⟩

end ControlHarness

import ControlHarness.General.Machine

/-!
Hidden steps of a machine, and the rule that they have no influence.

`hidden s i` says that the input `i` is hidden in the state `s`. `purge` takes
the hidden inputs out of a run, and `visible` lists the other steps. The rule
compares a run with its purged run: a relation between their states that a
hidden step of the first keeps by itself, and that a visible step keeps when
both take it with outputs that look the same, carries over to the whole runs
(`unwinding`).
-/

namespace Machine

variable {S I O V : Type*} (M : Machine S I O) (hidden : S → I → Bool)

/-- The run without its hidden inputs. -/
def purge : S → List I → List I
  | _, [] => []
  | s, i :: is =>
    if hidden s i then purge (M.next i s) is else i :: purge (M.next i s) is

/-- The steps of a run whose inputs are not hidden. -/
def visible (s : S) (is : List I) : List (Occ S I O) :=
  (M.occs s is).filter fun o => !hidden o.before o.input

variable {M hidden}

lemma purge_cons_hidden {s : S} {i : I} {is : List I} (h : hidden s i = true) :
    M.purge hidden s (i :: is) = M.purge hidden (M.next i s) is := by
  rw [purge, if_pos h]

lemma purge_cons_visible {s : S} {i : I} {is : List I} (h : hidden s i = false) :
    M.purge hidden s (i :: is) = i :: M.purge hidden (M.next i s) is := by
  rw [purge, if_neg (by simp [h])]

lemma visible_cons_hidden {s : S} {i : I} {is : List I} (h : hidden s i = true) :
    M.visible hidden s (i :: is) = M.visible hidden (M.next i s) is := by
  rw [visible, occs_cons, List.filter_cons_of_neg (by simp [occ, h])]
  rfl

lemma visible_cons_visible {s : S} {i : I} {is : List I} (h : hidden s i = false) :
    M.visible hidden s (i :: is) = M.occ s i :: M.visible hidden (M.next i s) is := by
  rw [visible, occs_cons, List.filter_cons_of_pos (by simp [occ, h])]
  rfl

/-- **Unwinding**: along `A`, a relation that hidden steps keep on one side and
visible steps keep on both, with outputs that look the same through `view`,
holds of the states after the run and after the purged run, and the visible
steps of the one look like the steps of the other. -/
theorem unwinding {A : S → I → Prop} {R : S → S → Prop} {view : O → V}
    (hhidden : ∀ s s' i, A s i → R s s' → hidden s i = true → R (M.next i s) s')
    (hvisible : ∀ s s' i, A s i → R s s' → hidden s i = false →
      R (M.next i s) (M.next i s') ∧ view (M.out i s) = view (M.out i s'))
    {s s' : S} {is : List I} (h0 : R s s') (h : M.Along A s is) :
    R (M.exec s is) (M.exec s' (M.purge hidden s is)) ∧
      (M.visible hidden s is).map (fun o => (o.input, view o.output))
        = (M.occs s' (M.purge hidden s is)).map (fun o => (o.input, view o.output)) := by
  induction is generalizing s s' with
  | nil => exact ⟨h0, rfl⟩
  | cons i is ih =>
      rw [along_cons] at h
      cases hi : hidden s i with
      | true =>
          have hnext : R (M.next i s) s' := hhidden s s' i h.1 h0 hi
          rw [purge_cons_hidden hi, visible_cons_hidden hi]
          exact ih hnext h.2
      | false =>
          obtain ⟨hnext, hview⟩ := hvisible s s' i h.1 h0 hi
          obtain ⟨hrel, houts⟩ := ih hnext h.2
          rw [purge_cons_visible hi, visible_cons_visible hi, exec_cons, exec_cons, occs_cons,
            List.map_cons, List.map_cons, houts]
          refine ⟨hrel, ?_⟩
          congr 1
          exact Prod.ext rfl hview

end Machine

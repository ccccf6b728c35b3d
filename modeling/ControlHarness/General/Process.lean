import ControlHarness.General.Machine

/-!
Processes: programs that ask their surroundings and go on with the answers.

A state of a process has come to an end, or it asks one thing and says to which
state each answer leads. The surroundings are a machine that the process asks
and that others use in between.

* `Process`: the states with what they ask. The type of an answer depends on
  what was asked.
* `alone`: the process with answers from anywhere, one answer for each thing that
  it might ask; `asked` lists what a run asked.
* `beside`: the process beside a machine. A turn is an input of somebody else to
  the machine, a step of the process, or a restart of it, which forgets where the
  process was and nothing of the machine.
* `Along.beside`: the rule for invariants of both, with one part for each kind of
  turn.
* `exec_beside_inert`: a process that changes nothing leaves the machine to the
  others.
-/

/-- The states of a process: each has come to an end, or asks and goes on with the
answer. -/
structure Process (S Q : Type*) (A : Q → Type*) where
  next : S → Option ((q : Q) × (A q → S))

namespace Process

/-- A turn of a process beside a machine. -/
inductive Turn (I X : Type*) where
  | other (i : I)
  | own (x : X)
  | restart

variable {S Q : Type*} {A : Q → Type*} (P : Process S Q A)

/-! ### The process alone -/

/-- The process with answers from anywhere. -/
def alone : Machine S ((q : Q) → A q) (Option Q) where
  step answer s :=
    match P.next s with
    | none => (none, s)
    | some ⟨q, k⟩ => (some q, k (answer q))

/-- What a run asked, in order. -/
def asked (s : S) (answers : List ((q : Q) → A q)) : List Q :=
  (P.alone.occs s answers).filterMap (·.output)

variable {P} {s : S} {answers : List ((q : Q) → A q)} {answer : (q : Q) → A q}

lemma next_alone_end (h : P.next s = none) : P.alone.next answer s = s := by
  rw [Machine.next, alone]
  dsimp only
  rw [h]

lemma out_alone_end (h : P.next s = none) : P.alone.out answer s = none := by
  rw [Machine.out, alone]
  dsimp only
  rw [h]

lemma next_alone {q : Q} {k : A q → S} (h : P.next s = some ⟨q, k⟩) :
    P.alone.next answer s = k (answer q) := by
  rw [Machine.next, alone]
  dsimp only
  rw [h]

lemma out_alone {q : Q} {k : A q → S} (h : P.next s = some ⟨q, k⟩) :
    P.alone.out answer s = some q := by
  rw [Machine.out, alone]
  dsimp only
  rw [h]

@[simp] lemma asked_nil (s : S) : P.asked s [] = [] := rfl

lemma asked_concat :
    P.asked s (answers ++ [answer])
      = P.asked s answers ++ (P.alone.out answer (P.alone.exec s answers)).toList := by
  rw [asked, Machine.occs_concat, List.filterMap_append, asked, List.filterMap_cons,
    List.filterMap_nil, Machine.occ]
  cases P.alone.out answer (P.alone.exec s answers) <;> rfl

/-- **The rule for what is asked**: a property of the things asked so far and the
state reached, kept whatever the answers are. -/
theorem asked_induction {R : List Q → S → Prop} (h0 : R [] s)
    (hstep : ∀ past s q (k : A q → S) a, P.next s = some ⟨q, k⟩ → R past s →
      R (past ++ [q]) (k a)) : R (P.asked s answers) (P.alone.exec s answers) := by
  induction answers using List.reverseRecOn with
  | nil => exact h0
  | append_singleton answers answer ih =>
      rw [asked_concat, Machine.exec_concat]
      cases hnext : P.next (P.alone.exec s answers) with
      | none =>
          rw [out_alone_end hnext, next_alone_end hnext, Option.toList_none, List.append_nil]
          exact ih
      | some step =>
          obtain ⟨q, k⟩ := step
          rw [out_alone hnext, next_alone hnext, Option.toList_some]
          exact hstep _ _ q k (answer q) hnext ih

/-! ### The process beside a machine -/

section

variable {T I O X : Type*} (P) (start : S) (M : Machine T I O)
  (serve : X → (q : Q) → T → A q × T)

/-- The process beside a machine that it asks. The output is what was asked. -/
def beside : Machine (S × T) (Turn I X) (Option Q) where
  step
    | .other i, σ => (none, (σ.1, M.next i σ.2))
    | .own x, σ =>
      match P.next σ.1 with
      | none => (none, σ)
      | some ⟨q, k⟩ => (some q, (k (serve x q σ.2).1, (serve x q σ.2).2))
    | .restart, σ => (none, (start, σ.2))

variable {P start M serve} {σ : S × T}

@[simp] lemma next_beside_other (i : I) :
    (P.beside start M serve).next (.other i) σ = (σ.1, M.next i σ.2) := rfl

@[simp] lemma next_beside_restart :
    (P.beside start M serve).next .restart σ = (start, σ.2) := rfl

lemma next_beside_end {x : X} (h : P.next σ.1 = none) :
    (P.beside start M serve).next (.own x) σ = σ := by
  rw [Machine.next, beside]
  dsimp only
  rw [h]

lemma next_beside_own {x : X} {q : Q} {k : A q → S} (h : P.next σ.1 = some ⟨q, k⟩) :
    (P.beside start M serve).next (.own x) σ = (k (serve x q σ.2).1, (serve x q σ.2).2) := by
  rw [Machine.next, beside]
  dsimp only
  rw [h]

/-- **The rule for invariants of a process beside a machine**: others keep it, the
process keeps it with every answer it can get, and a restart keeps it. -/
theorem Along.beside {B : S × T → Turn I X → Prop} {J : S × T → Prop} {turns : List (Turn I X)}
    (h : (P.beside start M serve).Along B σ turns) (h0 : J σ)
    (hother : ∀ s t i, B (s, t) (.other i) → J (s, t) → J (s, M.next i t))
    (hown : ∀ s t x q (k : A q → S), P.next s = some ⟨q, k⟩ → B (s, t) (.own x) → J (s, t) →
      J (k (serve x q t).1, (serve x q t).2))
    (hrestart : ∀ s t, B (s, t) .restart → J (s, t) → J (start, t)) :
    J ((P.beside start M serve).exec σ turns) := by
  refine h.invariant h0 ?_
  rintro ⟨s, t⟩ turn hB hJ
  cases turn with
  | other i => exact hother s t i hB hJ
  | restart => exact hrestart s t hB hJ
  | own x =>
      cases hnext : P.next s with
      | none => exact (next_beside_end (σ := (s, t)) hnext).symm ▸ hJ
      | some step =>
          obtain ⟨q, k⟩ := step
          rw [next_beside_own (σ := (s, t)) hnext]
          exact hown s t x q k hnext hB hJ

/-- The inputs of others in a run. -/
def others (turns : List (Turn I X)) : List I :=
  turns.filterMap fun
    | .other i => some i
    | _ => none

/-- **A process that changes nothing** leaves the machine to the others. -/
theorem exec_beside_inert {turns : List (Turn I X)}
    (h : ∀ x, .own x ∈ turns → ∀ q t, (serve x q t).2 = t) :
    ((P.beside start M serve).exec σ turns).2 = M.exec σ.2 (others turns) := by
  induction turns generalizing σ with
  | nil => rfl
  | cons turn turns ih =>
      have hrest := ih (σ := (P.beside start M serve).next turn σ)
        fun x hx => h x (List.mem_cons_of_mem turn hx)
      rw [Machine.exec_cons, hrest]
      cases turn with
      | other i | restart => rfl
      | own x =>
          cases hnext : P.next σ.1 with
          | none =>
              rw [next_beside_end hnext]
              rfl
          | some step =>
              obtain ⟨q, k⟩ := step
              rw [next_beside_own hnext, h x List.mem_cons_self q σ.2]
              rfl

end

end Process

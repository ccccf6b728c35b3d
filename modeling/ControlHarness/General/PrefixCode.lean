import Mathlib.Tactic

/-!
Codes that are read from the front.

A code writes a value as a word. It is read before an admissible rest when the word
and the rest after it determine the value, so no word goes on as another one.

* `ReadsAt`, `Reads`: the property at one value and at all of them;
  `Reads.injective` is the case of an empty rest.
* `closed`, `separated`: lists of words up to a closing letter, and with a letter between
  the words; `readsAt_closed` and `readsAt_separated` read a list whose elements are
  read.
* `Follows`: the rests that start with a letter of a kind; `append_inj_of_follows` reads
  words without such letters before them.
-/

namespace PrefixCode

variable {α β γ : Type*} {ok ok' : List γ → Prop} {code : α → List γ}

/-- The word of `a` before an admissible rest determines `a` and the rest. -/
def ReadsAt (ok : List γ → Prop) (code : α → List γ) (a : α) : Prop :=
  ∀ ⦃b s t⦄, ok s → ok t → code a ++ s = code b ++ t → a = b ∧ s = t

/-- Every word is read. -/
def Reads (ok : List γ → Prop) (code : α → List γ) : Prop := ∀ a, ReadsAt ok code a

/-- Any rest. -/
def anyRest (_ : List γ) : Prop := True

/-- The list up to the letter `stop`. -/
def closed (code : α → List γ) (stop : γ) (l : List α) : List γ := l.flatMap code ++ [stop]

/-- The list up to the letter `stop`, with `sep` between its elements. -/
def separated (code : α → List γ) (sep stop : γ) : List α → List γ
  | [] => [stop]
  | a :: l => code a ++ closed (fun b => sep :: code b) stop l

/-- No word starts with the letter, and none is empty. -/
def Avoids (code : α → List γ) (stop : γ) : Prop := ∀ a, ∃ c w, code a = c :: w ∧ c ≠ stop

lemma Reads.injective (h : Reads ok code) (hnil : ok []) : Function.Injective code :=
  fun a _ hab => (h a hnil hnil (congrArg (· ++ []) hab)).1

lemma ReadsAt.mono {a : α} (h : ReadsAt ok code a) (hok : ∀ s, ok' s → ok s) :
    ReadsAt ok' code a := fun _ s t hs ht heq => h (hok s hs) (hok t ht) heq

lemma closed_cons (stop : γ) (a : α) (l : List α) :
    closed code stop (a :: l) = code a ++ closed code stop l := by
  rw [closed, List.flatMap_cons, List.append_assoc, closed]

/-- A word does not go on as the closing letter. -/
lemma Avoids.append_ne {stop : γ} (h : Avoids code stop) (a : α) (s t : List γ) :
    code a ++ s ≠ stop :: t := by
  obtain ⟨c, w, hcode, hne⟩ := h a
  rw [hcode, List.cons_append]
  exact fun heq => hne (List.cons.inj heq).1

/-- **A closed list** is read before any rest: the first letter tells whether it goes
on. -/
lemma readsAt_closed {stop : γ} {l : List α} (hitem : ∀ a ∈ l, ReadsAt ok code a)
    (havoid : Avoids code stop) (hstop : ∀ s, ok (stop :: s)) (hcode : ∀ a s, ok (code a ++ s)) :
    ReadsAt anyRest (closed code stop) l := by
  have hrest : ∀ (m : List α) (s : List γ), ok (closed code stop m ++ s) := by
    intro m s
    cases m with
    | nil => exact hstop s
    | cons b m =>
        rw [closed_cons, List.append_assoc]
        exact hcode b _
  induction l with
  | nil =>
      intro m s t _ _ heq
      cases m with
      | nil => exact ⟨rfl, (List.cons.inj heq).2⟩
      | cons b m =>
          rw [closed_cons, List.append_assoc] at heq
          exact absurd heq.symm (havoid.append_ne b _ _)
  | cons a l ih =>
      intro m s t _ _ heq
      rw [closed_cons, List.append_assoc] at heq
      cases m with
      | nil => exact absurd heq (havoid.append_ne a _ _)
      | cons b m =>
          rw [closed_cons, List.append_assoc] at heq
          obtain ⟨rfl, htail⟩ := hitem a List.mem_cons_self (hrest l s) (hrest m t) heq
          have htail' := ih fun c hc => hitem c (List.mem_cons_of_mem a hc)
          obtain ⟨rfl, hst⟩ := htail' trivial trivial htail
          exact ⟨rfl, hst⟩

/-- **A list with separators** is read before any rest. -/
lemma readsAt_separated {sep stop : γ} {l : List α} (hitem : ∀ a ∈ l, ReadsAt ok code a)
    (havoid : Avoids code stop) (hne : sep ≠ stop) (hstop : ∀ s, ok (stop :: s))
    (hsep : ∀ s, ok (sep :: s)) : ReadsAt anyRest (separated code sep stop) l := by
  have hrest : ∀ (m : List α) (s : List γ), ok (closed (fun b => sep :: code b) stop m ++ s) := by
    intro m s
    cases m with
    | nil => exact hstop s
    | cons b m =>
        rw [closed_cons, List.append_assoc, List.cons_append]
        exact hsep _
  intro m s t _ _ heq
  cases l with
  | nil =>
      cases m with
      | nil => exact ⟨rfl, (List.cons.inj heq).2⟩
      | cons b m =>
          rw [separated, separated, List.append_assoc] at heq
          exact absurd heq.symm (havoid.append_ne b _ _)
  | cons a l =>
      cases m with
      | nil =>
          rw [separated, separated, List.append_assoc] at heq
          exact absurd heq (havoid.append_ne a _ _)
      | cons b m =>
          rw [separated, separated, List.append_assoc, List.append_assoc] at heq
          obtain ⟨rfl, htail⟩ := hitem a List.mem_cons_self (hrest l s) (hrest m t) heq
          have hlater : ∀ c ∈ l, ReadsAt ok (fun b => sep :: code b) c := by
            intro c hc b' s' t' hs ht heq'
            exact hitem c (List.mem_cons_of_mem a hc) hs ht (List.cons.inj heq').2
          have hclosed := readsAt_closed hlater (fun c => ⟨sep, code c, rfl, hne⟩) hstop
            fun c s => hsep (code c ++ s)
          obtain ⟨rfl, hst⟩ := hclosed trivial trivial htail
          exact ⟨rfl, hst⟩

lemma separated_map {g : β → α} {sep stop : γ} (l : List β) :
    separated code sep stop (l.map g) = separated (code ∘ g) sep stop l := by
  cases l with
  | nil => rfl
  | cons a l =>
      rw [List.map_cons, separated, separated, closed, closed, List.flatMap_map]
      rfl

/-- The rest is empty or starts with a letter of the kind. -/
def Follows (p : γ → Prop) (s : List γ) : Prop := s = [] ∨ ∃ c r, s = c :: r ∧ p c

/-- **Words without a following letter** end where one follows. -/
lemma append_inj_of_follows {p : γ → Prop} {v w s t : List γ} (hv : ∀ c ∈ v, ¬ p c)
    (hw : ∀ c ∈ w, ¬ p c) (hs : Follows p s) (ht : Follows p t) (h : v ++ s = w ++ t) :
    v = w ∧ s = t := by
  induction v generalizing w with
  | nil =>
      cases w with
      | nil => exact ⟨rfl, h⟩
      | cons d w =>
          rcases hs with rfl | ⟨c, r, rfl, hc⟩
          · exact absurd h (List.cons_ne_nil _ _).symm
          · exact absurd ((List.cons.inj h).1 ▸ hc) (hw d List.mem_cons_self)
  | cons c v ih =>
      cases w with
      | nil =>
          rcases ht with rfl | ⟨d, r, rfl, hd⟩
          · exact absurd h (List.cons_ne_nil _ _)
          · exact absurd ((List.cons.inj h).1.symm ▸ hd) (hv c List.mem_cons_self)
      | cons d w =>
          obtain ⟨rfl, hrest⟩ := List.cons.inj h
          have hv' := fun b hb => hv b (List.mem_cons_of_mem c hb)
          have hw' := fun b hb => hw b (List.mem_cons_of_mem c hb)
          obtain ⟨rfl, hst⟩ := ih hv' hw' hrest
          exact ⟨rfl, hst⟩

end PrefixCode

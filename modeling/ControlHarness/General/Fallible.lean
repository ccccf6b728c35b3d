import Mathlib.Tactic

/-!
Computations that may fail, inverted: what is known once one returned.

* `bind_eq_ok`, `mapError_eq_ok`: a sequence returned if its parts did.
* `forM_eq_ok`: a loop of checks returned if each check did.
* `mapM_eq_ok`, `mapM_eq_some`: the elements of a mapped list and those of the list.
-/

namespace Except

variable {ε ε' α β : Type}

lemma bind_eq_ok {x : Except ε α} {f : α → Except ε β} {b : β} :
    (x >>= f) = .ok b ↔ ∃ a, x = .ok a ∧ f a = .ok b := by
  cases x with
  | error e => simp [bind, Except.bind]
  | ok a => simp [bind, Except.bind]

lemma mapError_eq_ok {f : ε → ε'} {x : Except ε α} {a : α} :
    x.mapError f = .ok a ↔ x = .ok a := by
  cases x with
  | error e => simp [Except.mapError]
  | ok a => simp [Except.mapError]

end Except

namespace List

variable {ε α β : Type}

lemma forM_eq_ok {f : α → Except ε Unit} {as : List α} :
    as.forM f = .ok () ↔ ∀ a ∈ as, f a = .ok () := by
  induction as with
  | nil => exact iff_of_true rfl fun a ha => absurd ha not_mem_nil
  | cons a as ih =>
      rw [forall_mem_cons, ← ih]
      constructor
      · intro h
        obtain ⟨⟨⟩, ha, has⟩ := Except.bind_eq_ok.mp h
        exact ⟨ha, has⟩
      · rintro ⟨ha, has⟩
        exact Except.bind_eq_ok.mpr ⟨(), ha, has⟩

lemma mapM_eq_ok_nil {f : α → Except ε β} {bs : List β} :
    mapM f ([] : List α) = .ok bs ↔ bs = [] := by
  rw [mapM_nil]
  exact ⟨fun h => (Except.ok.inj h).symm, fun h => congrArg Except.ok h.symm⟩

lemma mapM_eq_ok_cons {f : α → Except ε β} {a : α} {as : List α} {bs : List β} :
    mapM f (a :: as) = .ok bs ↔
      ∃ b bs', f a = .ok b ∧ mapM f as = .ok bs' ∧ bs = b :: bs' := by
  rw [mapM_cons]
  constructor
  · intro h
    obtain ⟨b, hb, h⟩ := Except.bind_eq_ok.mp h
    obtain ⟨bs', hbs, h⟩ := Except.bind_eq_ok.mp h
    exact ⟨b, bs', hb, hbs, (Except.ok.inj h).symm⟩
  · rintro ⟨b, bs', hb, hbs, rfl⟩
    exact Except.bind_eq_ok.mpr ⟨b, hb, Except.bind_eq_ok.mpr ⟨bs', hbs, rfl⟩⟩

/-- The elements of the mapped list are the images of the elements. -/
lemma mapM_eq_ok {f : α → Except ε β} {as : List α} {bs : List β} (h : mapM f as = .ok bs)
    (b : β) : b ∈ bs ↔ ∃ a ∈ as, f a = .ok b := by
  induction as generalizing bs with
  | nil =>
      obtain rfl := mapM_eq_ok_nil.mp h
      simp
  | cons a as ih =>
      obtain ⟨b', bs', hb, hbs, rfl⟩ := mapM_eq_ok_cons.mp h
      rw [mem_cons, ih hbs, exists_mem_cons_iff, hb, Except.ok.injEq, eq_comm]

/-- A mapped list is there when every image is. -/
lemma mapM_eq_some {f : α → Option β} {as : List α} {bs : List β} :
    mapM f as = some bs ↔ Forall₂ (fun a b => f a = some b) as bs := by
  induction as generalizing bs with
  | nil =>
      rw [mapM_nil, forall₂_nil_left_iff]
      exact ⟨fun h => (Option.some.inj h).symm, fun h => congrArg some h.symm⟩
  | cons a as ih =>
      rw [mapM_cons, forall₂_cons_left_iff]
      constructor
      · intro h
        obtain ⟨b, hb, h⟩ := Option.bind_eq_some_iff.mp h
        obtain ⟨bs', hbs, h⟩ := Option.bind_eq_some_iff.mp h
        exact ⟨b, bs', hb, ih.mp hbs, (Option.some.inj h).symm⟩
      · rintro ⟨b, bs', hb, hbs, rfl⟩
        refine Option.bind_eq_some_iff.mpr ⟨b, hb, ?_⟩
        exact Option.bind_eq_some_iff.mpr ⟨bs', ih.mpr hbs, rfl⟩

lemma map_eq_map_some {f : α → Option β} {as : List α} {bs : List β} (h : mapM f as = some bs) :
    as.map f = bs.map some := by
  rw [← forall₂_eq_eq_eq, forall₂_map_left_iff, forall₂_map_right_iff]
  exact mapM_eq_some.mp h

/-- Every element has an image in the list. -/
lemma exists_of_mapM {f : α → Option β} {as : List α} {bs : List β} (h : mapM f as = some bs)
    {a : α} (ha : a ∈ as) : ∃ b ∈ bs, f a = some b := by
  have hmem : f a ∈ bs.map some := map_eq_map_some h ▸ mem_map_of_mem ha
  obtain ⟨b, hb, hab⟩ := mem_map.mp hmem
  exact ⟨b, hb, hab.symm⟩

/-- Every image comes from an element. -/
lemma exists_of_mem_mapM {f : α → Option β} {as : List α} {bs : List β} (h : mapM f as = some bs)
    {b : β} (hb : b ∈ bs) : ∃ a ∈ as, f a = some b := by
  have hmem : some b ∈ as.map f := map_eq_map_some h ▸ mem_map_of_mem hb
  exact mem_map.mp hmem

/-- Images of images. -/
lemma map_mapM {γ : Type} {f : α → Option β} {g : β → γ} (as : List α) :
    (mapM f as).map (map g) = mapM (fun a => (f a).map g) as := by
  induction as with
  | nil => rfl
  | cons a as ih =>
      rw [mapM_cons, mapM_cons, ← ih]
      cases f a with
      | none => rfl
      | some b => cases mapM f as <;> rfl

end List
